import MathBlocks.CommandLine.Folder
import MathBlocks.Proofs.Traversal

/-!
# Reading what was written

A text that is written to a path is read from it afterwards, and no other file is touched. A file
takes the place of a file or of nothing, never of a directory, so every path that leads somewhere
before it is written leads to the same place afterwards.
-/

namespace MathBlocks
namespace CommandLine
namespace Folder

variable {folder : Folder} {target text : String}

/-- The path, from the folder or from the root, of the file that a path names. -/
def fileAt
    (folder : Folder)
    (path : String) : Except FileFault String := do
  let (path, here) ← folder.locate path
  return here.pathTo path.name

@[simp] theorem lookup_put_self
    (folder : Folder)
    (target text : String) :
    (folder.put target text).files.lookup target = some (some text) := by
  simp [put]

/-- A text that is put at a path leaves all other files as they are. -/
theorem lookup_put_of_ne
    {name : String}
    (h : name ≠ target) :
    (folder.put target text).files.lookup name = folder.files.lookup name := by
  have hfilter : ∀ files : List (String × Option String),
      (files.filter fun file => file.1 ≠ target).lookup name = files.lookup name := by
    intro files
    induction files with
    | nil =>
        rfl
    | cons file rest ih =>
        obtain ⟨other, held⟩ := file
        by_cases hother : other = target
        · have hne : (name == other) = false := by
            simpa [hother] using h
          rw [List.filter_cons, if_neg (by simpa using hother), List.lookup_cons, hne]
          exact ih
        · rw [List.filter_cons, if_pos (by simpa using hother), List.lookup_cons,
            List.lookup_cons, ih]
  have hne : (name == target) = false := by
    simpa using h
  rw [put, List.lookup_cons, hne]
  exact hfilter folder.files

/-- What is a directory stays one when a text is put somewhere. -/
theorem hasDirectory_put
    {path : String}
    (h : folder.hasDirectory path = true) :
    (folder.put target text).hasDirectory path = true := by
  obtain ⟨file, hmem, hbelow⟩ := List.any_eq_true.mp h
  refine List.any_eq_true.mpr ?_
  by_cases hfile : file.1 = target
  · refine ⟨(target, some text), List.mem_cons_self, ?_⟩
    rw [← hfile]
    exact hbelow
  · refine ⟨file, List.mem_cons_of_mem _ (List.mem_filter.mpr ⟨hmem, ?_⟩), hbelow⟩
    simpa using hfile

/-- Whether a path is that of a file or of nothing, so that a text can be put there. -/
def HasRoom
    (folder : Folder)
    (path : String) : Prop :=
  folder.files.lookup path = none → folder.hasDirectory path = false

/-- A directory is still found under its name after a text was put somewhere. -/
theorem entry_put_of_directory
    (hroom : folder.HasRoom target)
    {here : Directory}
    {name : String}
    (h : folder.entry here name = .ok .directory) :
    (folder.put target text).entry here name = .ok .directory := by
  unfold entry at h ⊢
  split at h
  · rename_i hdots
    rw [if_pos hdots]
  · rename_i hdots
    split at h
    · cases h
    · rename_i hlimit
      rw [if_neg hdots, if_neg hlimit]
      cases hlookup : folder.files.lookup (here.pathTo name) with
      | some held =>
          rw [hlookup] at h
          cases h
      | none =>
          rw [hlookup] at h
          cases hdirectory : folder.hasDirectory (here.pathTo name) with
          | false =>
              simp [hdirectory] at h
          | true =>
              -- there is no room for a text where the directory is
              have hne : here.pathTo name ≠ target := by
                rintro rfl
                rw [hroom hlookup] at hdirectory
                cases hdirectory
              simp [lookup_put_of_ne hne, hlookup, hasDirectory_put hdirectory]

/-- A name leads to the same directory after a text was put somewhere. -/
theorem enter_put
    (hroom : folder.HasRoom target)
    {here there : Directory}
    {name : String}
    (h : folder.enter here name = .ok there) :
    (folder.put target text).enter here name = .ok there := by
  unfold enter at h ⊢
  cases hentry : folder.entry here name with
  | error fault =>
      rw [hentry] at h
      cases h
  | ok entry =>
      rw [hentry] at h
      cases entry with
      | file held =>
          cases h
      | vacant =>
          cases h
      | directory =>
          rw [entry_put_of_directory hroom hentry]
          exact h

theorem foldlM_enter_put
    (hroom : folder.HasRoom target)
    {names : List String}
    {here there : Directory}
    (h : names.foldlM folder.enter here = .ok there) :
    names.foldlM (folder.put target text).enter here = .ok there := by
  induction names generalizing here with
  | nil =>
      exact h
  | cons name rest ih =>
      obtain ⟨next, hstep, hrest⟩ := exists_of_bind_ok h
      rw [List.foldlM_cons, enter_put hroom hstep]
      exact ih hrest

/-- A path leads to the same place after a text was put somewhere. -/
theorem locate_put
    (hroom : folder.HasRoom target)
    {path : String}
    {place : Path × Directory}
    (h : folder.locate path = .ok place) :
    (folder.put target text).locate path = .ok place := by
  unfold locate at h ⊢
  split at h
  · cases h
  · rename_i hempty
    split at h
    · cases h
    · rename_i hlimit
      rw [if_neg hempty, if_neg hlimit]
      simp only at h ⊢
      split at h
      · rename_i here hwalk
        rw [foldlM_enter_put hroom hwalk]
        exact h
      · cases h

/-- Where no directory is, there is room for a text, and it is the file that is found then. -/
theorem entry_put_self
    {here : Directory}
    {name : String}
    {entry : Entry}
    (h : folder.entry here name = .ok entry)
    (hentry : entry ≠ .directory)
    (text : String) :
    folder.HasRoom (here.pathTo name) ∧
    (folder.put (here.pathTo name) text).entry here name = .ok (.file (some text)) := by
  unfold Folder.entry at h ⊢
  split at h
  · exact absurd (Except.ok.inj h).symm hentry
  · rename_i hdots
    split at h
    · cases h
    · rename_i hlimit
      rw [if_neg hdots, if_neg hlimit, lookup_put_self]
      refine ⟨?_, rfl⟩
      intro hlookup
      rw [hlookup] at h
      cases hdirectory : folder.hasDirectory (here.pathTo name) with
      | false =>
          rfl
      | true =>
          simp only [hdirectory, if_true] at h
          exact absurd (Except.ok.inj h).symm hentry

/-- A text that is written is put where the path leads, in place of a file or of nothing. -/
theorem exists_of_write
    {path : String}
    {written : Folder}
    (h : folder.write path text = .ok written) :
    ∃ place here entry,
      folder.locate path = .ok (place, here) ∧
      place.endsWithSlash = false ∧
      folder.entry here place.name = .ok entry ∧
      entry ≠ .directory ∧
      written = folder.put (here.pathTo place.name) text := by
  obtain ⟨⟨place, here⟩, hlocate, hput⟩ := exists_of_bind_ok h
  cases hslash : place.endsWithSlash with
  | true =>
      simp [hslash] at hput
  | false =>
      simp only [hslash, Bool.false_eq_true, if_false] at hput
      obtain ⟨entry, hentry, hput⟩ := exists_of_bind_ok hput
      refine ⟨place, here, entry, hlocate, hslash, hentry, ?_⟩
      cases entry with
      | directory =>
          cases hput
      | file held =>
          exact ⟨by simp, (Except.ok.inj hput).symm⟩
      | vacant =>
          exact ⟨by simp, (Except.ok.inj hput).symm⟩

/-- A text that was written to a path is read from it. -/
theorem read_write
    {path : String}
    {written : Folder}
    (h : folder.write path text = .ok written) :
    written.read path = .ok text := by
  obtain ⟨place, here, entry, hlocate, hslash, hentry, hne, rfl⟩ := exists_of_write h
  obtain ⟨hroom, hself⟩ := entry_put_self hentry hne text
  simp [read, locate_put hroom hlocate, hself, hslash, bind, Except.bind]

/-- A text that is written changes the file that its path names and no other one. -/
theorem lookup_write
    {path : String}
    {written : Folder}
    (h : folder.write path text = .ok written) :
    ∃ target,
      folder.fileAt path = .ok target ∧
      ∀ name, name ≠ target → written.files.lookup name = folder.files.lookup name := by
  obtain ⟨place, here, entry, hlocate, _, _, _, rfl⟩ := exists_of_write h
  refine ⟨here.pathTo place.name, ?_, fun name hname => lookup_put_of_ne hname⟩
  rw [fileAt, hlocate]
  rfl

end Folder
end CommandLine
end MathBlocks
