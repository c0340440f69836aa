import Mathlib.Data.List.Induction
import MathBlocks.Helper.Math

/-!
# The order of first requests

Helpers stand in the order in which they are asked for first: `List.eraseDups` of the requests.
What stands before a helper was asked for before it, so that a helper that is always asked for
before another one stands before it too.
-/

namespace MathBlocks

/-- A further name counts if it is not there yet. -/
theorem eraseDups_concat
    (names : List String)
    (name : String) :
    (names ++ [name]).eraseDups =
      if name ∈ names then names.eraseDups else names.eraseDups ++ [name] := by
  rw [List.eraseDups_append]
  by_cases h : name ∈ names
  · simp [List.removeAll, h]
  · simp [List.removeAll, h, List.eraseDups_cons]

theorem nodup_eraseDups
    (names : List String) :
    names.eraseDups.Nodup := by
  induction names using List.reverseRecOn with
  | nil =>
      simp
  | append_singleton names name ih =>
      rw [eraseDups_concat]
      split
      · exact ih
      · rename_i h
        refine List.nodup_append.mpr ⟨ih, by simp, ?_⟩
        intro other hother _ hname
        rw [List.mem_singleton.mp hname]
        rintro rfl
        exact h (List.mem_eraseDups.mp hother)

/-- What stands before a name are the names that came before it. -/
theorem eraseDups_split
    {names first rest : List String}
    {name : String}
    (h : names.eraseDups = first ++ name :: rest) :
    ∃ before after,
      names = before ++ name :: after ∧
      before.eraseDups = first := by
  induction names using List.reverseRecOn generalizing rest with
  | nil =>
      simp at h
  | append_singleton names last ih =>
      rw [eraseDups_concat] at h
      split at h
      · -- the last name is there already
        obtain ⟨before, after, rfl, hbefore⟩ := ih h
        exact ⟨before, after ++ [last], by simp, hbefore⟩
      · -- the last name is new, and it is the name or comes after it
        rcases List.eq_nil_or_concat rest with rfl | ⟨others, other, rfl⟩
        · obtain ⟨hfirst, hlast⟩ := List.append_inj' h rfl
          obtain rfl : last = name := by simpa using hlast
          exact ⟨names, [], rfl, hfirst⟩
        · have hsplit : names.eraseDups ++ [last] = (first ++ name :: others) ++ [other] := by
            simpa using h
          obtain ⟨hnames, _⟩ := List.append_inj' hsplit rfl
          obtain ⟨before, after, rfl, hbefore⟩ := ih hnames
          exact ⟨before, after ++ [last], by simp, hbefore⟩

/-- Whether a helper calls the sum of a list. -/
def MathHelper.CallsSum (name : String) : Prop :=
  name = MathHelper.averageName ∨ name = MathHelper.standardDeviationName

instance (name : String) : Decidable (MathHelper.CallsSum name) :=
  inferInstanceAs (Decidable (_ ∨ _))

/-- Whether the sum of a list stands before every helper that calls it. -/
def SumFirst (names : List String) : Prop :=
  ∀ before name after,
    names = before ++ name :: after →
    MathHelper.CallsSum name →
    MathHelper.sumName ∈ before

theorem SumFirst.nil :
    SumFirst [] := by
  intro before name after h
  simp at h

theorem SumFirst.single
    {name : String}
    (h : ¬ MathHelper.CallsSum name) :
    SumFirst [name] := by
  intro before other after hsplit hother
  obtain ⟨rfl, hlist⟩ := List.append_eq_singleton_iff.mp hsplit.symm |>.resolve_right (by simp)
  obtain rfl : other = name := (List.cons.inj hlist).1
  exact absurd hother h

theorem SumFirst.pair
    {name : String} :
    SumFirst [MathHelper.sumName, name] := by
  intro before other after hsplit hother
  cases before with
  | nil =>
      obtain rfl : MathHelper.sumName = other := (List.cons.inj hsplit).1
      exact absurd hother (by decide)
  | cons first rest =>
      obtain rfl : MathHelper.sumName = first := (List.cons.inj hsplit).1
      exact List.mem_cons_self

theorem SumFirst.append
    {names others : List String}
    (hnames : SumFirst names)
    (hothers : SumFirst others) :
    SumFirst (names ++ others) := by
  intro before name after h hname
  rcases List.append_eq_append_iff.mp h with ⟨middle, hbefore, hmiddle⟩ | ⟨middle, hsplit, hmiddle⟩
  · have hsum := hothers middle name after hmiddle hname
    rw [hbefore]
    exact List.mem_append_right _ hsum
  · cases middle with
    | nil =>
        simp only [List.nil_append] at hmiddle
        have hsum := hothers [] name after hmiddle.symm hname
        simp at hsum
    | cons first rest =>
        obtain ⟨rfl, hrest⟩ := List.cons.inj hmiddle
        exact hnames before name rest hsplit hname

theorem SumFirst.flatMap
    {α : Type}
    {names : α → List String}
    {items : List α}
    (h : ∀ item ∈ items, SumFirst (names item)) :
    SumFirst (items.flatMap names) := by
  induction items with
  | nil =>
      exact .nil
  | cons item rest ih =>
      rw [List.flatMap_cons]
      exact (h item List.mem_cons_self).append
        (ih fun other hother => h other (List.mem_cons_of_mem _ hother))

/-- The sum stands first among first requests if it does among all. -/
theorem SumFirst.eraseDups
    {names : List String}
    (h : SumFirst names) :
    SumFirst names.eraseDups := by
  intro first name rest hsplit hname
  obtain ⟨before, after, hnames, rfl⟩ := eraseDups_split hsplit
  exact List.mem_eraseDups.mpr (h before name after hnames hname)

/-- A list that has a helper that calls the sum has the sum, if it stands before such helpers. -/
theorem SumFirst.sumName_mem
    {names : List String}
    (h : SumFirst names)
    {name : String}
    (hmem : name ∈ names)
    (hcalls : MathHelper.CallsSum name) :
    MathHelper.sumName ∈ names := by
  obtain ⟨before, after, rfl⟩ := List.append_of_mem hmem
  exact List.mem_append_left _ (h before name after rfl hcalls)

end MathBlocks
