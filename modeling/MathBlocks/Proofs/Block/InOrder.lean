import Mathlib.Data.String.Basic
import MathBlocks.Block.Basic

/-!
# Fields and inputs stand in order

Entries are put in one by one at the place of their name, an earlier one of that name being
replaced. Whatever the entries are and whatever their order, the names increase in what comes out,
and entries whose names increase come back from any order of them. `sortNamed` says for both fields
and inputs what is put in.
-/

namespace MathBlocks

section Named

variable {α : Type}

/-- Puts an entry in at the place of its name; an entry of that name is replaced. -/
def insertNamed
    (name : String)
    (value : α) :
    List (String × α) → List (String × α)
  | [] => [(name, value)]
  | entry :: rest =>
      if name < entry.1 then (name, value) :: entry :: rest
      else if name = entry.1 then (name, value) :: rest
      else entry :: insertNamed name value rest

/-- Entries by increasing name; the last one for a name counts. -/
def sortNamed (entries : List (String × α)) : List (String × α) :=
  entries.foldl (fun sorted entry => insertNamed entry.1 entry.2 sorted) []

theorem eq_or_mem_of_mem_insertNamed
    {name : String}
    {value : α}
    {entries : List (String × α)}
    {entry : String × α}
    (h : entry ∈ insertNamed name value entries) :
    entry = (name, value) ∨ entry ∈ entries := by
  induction entries with
  | nil =>
      exact Or.inl (List.mem_singleton.mp h)
  | cons first rest ih =>
      unfold insertNamed at h
      split at h
      · exact List.mem_cons.mp h
      split at h
      · rcases List.mem_cons.mp h with h | h
        · exact Or.inl h
        · exact Or.inr (List.mem_cons_of_mem _ h)
      · rcases List.mem_cons.mp h with rfl | h
        · exact Or.inr List.mem_cons_self
        · exact (ih h).imp_right (List.mem_cons_of_mem _)

/-- An entry that is put in keeps the names increasing. -/
theorem Increasing.insertNamed
    {entries : List (String × α)}
    (h : Increasing (entries.map Prod.fst))
    (name : String)
    (value : α) :
    Increasing ((insertNamed name value entries).map Prod.fst) := by
  induction entries with
  | nil =>
      exact List.pairwise_singleton _ _
  | cons first rest ih =>
      obtain ⟨hfirst, hrest⟩ := List.pairwise_cons.mp h
      unfold MathBlocks.insertNamed
      split
      · rename_i hlt
        refine List.pairwise_cons.mpr ⟨?_, h⟩
        intro other hother
        rcases List.mem_cons.mp hother with rfl | hother
        · exact hlt
        · exact lt_trans hlt (hfirst other hother)
      split
      · rename_i heq
        rw [heq]
        exact h
      · rename_i hlt hne
        have hbefore : first.1 < name := lt_of_le_of_ne (not_lt.mp hlt) (Ne.symm hne)
        refine List.pairwise_cons.mpr ⟨?_, ih hrest⟩
        intro other hother
        obtain ⟨entry, hentry, rfl⟩ := List.mem_map.mp hother
        rcases eq_or_mem_of_mem_insertNamed hentry with rfl | hentry
        · exact hbefore
        · exact hfirst entry.1 (List.mem_map_of_mem hentry)

theorem mem_of_mem_sortNamed
    {entries : List (String × α)}
    {entry : String × α}
    (h : entry ∈ sortNamed entries) :
    entry ∈ entries := by
  have hfold : ∀ sorted : List (String × α),
      entry ∈ entries.foldl (fun sorted entry => insertNamed entry.1 entry.2 sorted) sorted →
      entry ∈ sorted ∨ entry ∈ entries := by
    clear h
    induction entries with
    | nil =>
        exact fun _ => Or.inl
    | cons first rest ih =>
        intro sorted hmem
        rcases ih _ hmem with hmem | hmem
        · rcases eq_or_mem_of_mem_insertNamed hmem with rfl | hmem
          · exact Or.inr List.mem_cons_self
          · exact Or.inl hmem
        · exact Or.inr (List.mem_cons_of_mem _ hmem)
  exact (hfold [] h).resolve_left List.not_mem_nil

theorem increasing_sortNamed
    (entries : List (String × α)) :
    Increasing ((sortNamed entries).map Prod.fst) := by
  have hfold : ∀ sorted : List (String × α),
      Increasing (sorted.map Prod.fst) →
      Increasing ((entries.foldl (fun sorted entry => insertNamed entry.1 entry.2 sorted)
        sorted).map Prod.fst) := by
    induction entries with
    | nil =>
        exact fun _ => id
    | cons first rest ih =>
        exact fun sorted hsorted => ih _ (hsorted.insertNamed first.1 first.2)
  exact hfold [] List.Pairwise.nil

/-- An entry of a name that is not there is put in beside the others. -/
theorem insertNamed_perm
    {name : String}
    {entries : List (String × α)}
    (h : name ∉ entries.map Prod.fst)
    (value : α) :
    (insertNamed name value entries).Perm ((name, value) :: entries) := by
  induction entries with
  | nil =>
      exact .refl _
  | cons first rest ih =>
      rw [List.map_cons, List.mem_cons, not_or] at h
      obtain ⟨hne, hrest⟩ := h
      rw [insertNamed, if_neg hne]
      split
      · exact .refl _
      · exact ((ih hrest).cons first).trans (.swap _ _ _)

/-- Entries of which no two have the same name are all kept. -/
theorem sortNamed_perm
    {entries : List (String × α)}
    (h : (entries.map Prod.fst).Nodup) :
    (sortNamed entries).Perm entries := by
  have hfold : ∀ sorted : List (String × α),
      ((entries ++ sorted).map Prod.fst).Nodup →
      (entries.foldl (fun sorted entry => insertNamed entry.1 entry.2 sorted) sorted).Perm
        (entries ++ sorted) := by
    clear h
    induction entries with
    | nil =>
        exact fun sorted _ => .refl sorted
    | cons first rest ih =>
        intro sorted hnodup
        have hfirst : first.1 ∉ (rest ++ sorted).map Prod.fst := (List.nodup_cons.mp hnodup).1
        rw [List.map_append, List.mem_append, not_or] at hfirst
        have hinsert := insertNamed_perm hfirst.2 first.2
        have hmiddle : (rest ++ insertNamed first.1 first.2 sorted).Perm
            (first :: rest ++ sorted) :=
          (hinsert.append_left rest).trans List.perm_middle
        exact (ih _ ((hmiddle.map Prod.fst).nodup_iff.mpr hnodup)).trans hmiddle
  have hsorted := hfold [] (by rwa [List.append_nil])
  rwa [List.append_nil] at hsorted

/-- Entries whose names increase come back from any order of them. -/
theorem sortNamed_of_perm
    {listed entries : List (String × α)}
    (h : listed.Perm entries)
    (hincreasing : Increasing (entries.map Prod.fst)) :
    sortNamed listed = entries := by
  have hnodup : (listed.map Prod.fst).Nodup :=
    (h.map Prod.fst).nodup_iff.mpr (hincreasing.imp fun hlt => ne_of_lt hlt)
  exact List.Perm.eq_of_pairwise (fun first other _ _ hlt hgt => absurd hgt (lt_asymm hlt))
    (List.pairwise_map.mp (increasing_sortNamed listed)) (List.pairwise_map.mp hincreasing)
    ((sortNamed_perm hnodup).trans h)

end Named

namespace Fields

theorem insert_eq
    (name text : String)
    (fields : Fields) :
    insert name text fields = insertNamed name text fields := by
  induction fields with
  | nil =>
      rfl
  | cons field rest ih =>
      simp only [insert, insertNamed, ih]

theorem ofList_eq
    (fields : List (String × String)) :
    ofList fields = sortNamed fields := by
  unfold ofList sortNamed
  congr 1
  funext sorted field
  exact insert_eq field.1 field.2 sorted

/-- Fields in order come back from a list of them in any order. -/
theorem ofList_of_perm
    {listed : List (String × String)}
    {fields : Fields}
    (h : listed.Perm fields)
    (hincreasing : Increasing (fields.map Prod.fst)) :
    ofList listed = fields := by
  rw [ofList_eq, sortNamed_of_perm h hincreasing]

end Fields

namespace Inputs

theorem toList_insert
    (slot : String)
    (child : Block) :
    (inputs : Inputs) →
    (inputs.insert slot child).toList = insertNamed slot child inputs.toList
  | .empty => rfl
  | .plug other held rest => by
      have hrest := toList_insert slot child rest
      simp only [insert, toList, insertNamed]
      split
      · rfl
      split
      · rfl
      · rw [toList, hrest]

theorem toList_ofList
    (inputs : List (String × Block)) :
    (ofList inputs).toList = sortNamed inputs := by
  have hfold : ∀ sorted : Inputs,
      (inputs.foldl (fun inputs input => insert input.1 input.2 inputs) sorted).toList =
        inputs.foldl (fun sorted input => insertNamed input.1 input.2 sorted) sorted.toList := by
    induction inputs with
    | nil =>
        exact fun _ => rfl
    | cons input rest ih =>
        intro sorted
        rw [List.foldl_cons, List.foldl_cons, ih, toList_insert]
  exact hfold .empty

theorem toList_injective :
    (inputs others : Inputs) →
    inputs.toList = others.toList →
    inputs = others
  | .empty, .empty, _ => rfl
  | .plug slot child rest, .plug other held remaining, h => by
      simp only [toList, List.cons.injEq, Prod.mk.injEq] at h
      obtain ⟨⟨rfl, rfl⟩, htail⟩ := h
      rw [toList_injective rest remaining htail]

/-- Inputs in order come back from a list of them in any order. -/
theorem ofList_of_perm
    {listed : List (String × Block)}
    {inputs : Inputs}
    (h : listed.Perm inputs.toList)
    (hincreasing : Increasing (inputs.toList.map Prod.fst)) :
    ofList listed = inputs := by
  refine toList_injective _ _ ?_
  rw [toList_ofList, sortNamed_of_perm h hincreasing]

/-- All blocks plugged in are in order if each of them is. -/
theorem inOrder_iff :
    (inputs : Inputs) →
    (inputs.InOrder ↔ ∀ input ∈ inputs.toList, input.2.InOrder)
  | .empty => by
      simp [InOrder, toList]
  | .plug slot child rest => by
      simp [InOrder, toList, inOrder_iff rest]

end Inputs
end MathBlocks
