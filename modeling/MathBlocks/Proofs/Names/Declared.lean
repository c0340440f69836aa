import MathBlocks.Proofs.Names.Distinct

/-!
# Variables declared in turn

A directory that is asked for nothing but variables takes the identifiers of these, on top of what
was in use. An identifier that a variable has by then stays with it, so what is declared further
changes nothing for the variables before.
-/

namespace MathBlocks
namespace NameDirectory

/-- An identifier that a variable has stays with it when others are declared. -/
theorem lookup_after_identify
    {names : NameDirectory}
    {key identifier : String}
    (h : names.identifiers.lookup key = some identifier)
    (texts : List String) :
    (names.after (texts.map .identify)).identifiers.lookup key = some identifier := by
  induction texts generalizing names with
  | nil =>
      exact h
  | cons text rest ih =>
      exact ih (lookup_identify_of_some h text)

/-- A variable that was declared has an identifier. -/
theorem exists_lookup_of_mem
    (names : NameDirectory)
    {text : String}
    {texts : List String}
    (h : text ∈ texts) :
    ∃ identifier,
      (names.after (texts.map .identify)).identifiers.lookup (Text.lower text) =
        some identifier := by
  induction texts generalizing names with
  | nil =>
      cases h
  | cons first rest ih =>
      rcases List.mem_cons.mp h with rfl | hrest
      · exact ⟨_, lookup_after_identify (names.lookup_identify text) rest⟩
      · exact ih (names.identify first).2 hrest

section Used

variable {names : NameDirectory} {served : List (NameCall × String)}

/-- A variable that is asked for takes its identifier and no other one. -/
theorem mem_used_identify_iff
    (h : names.Remembers served)
    (text : String)
    {identifier : String} :
    identifier ∈ (names.identify text).2.used ↔
      (names.identify text).1 = identifier ∨ identifier ∈ names.used := by
  cases hlookup : names.identifiers.lookup (Text.lower text) with
  | some found =>
      rw [identify_of_lookup hlookup]
      refine ⟨Or.inr, ?_⟩
      rintro (rfl | hused)
      · exact h.used hlookup
      · exact hused
  | none =>
      rw [identify_of_new hlookup]
      exact List.mem_cons.trans (or_congr_left eq_comm)

/-- The variables that are declared take their identifiers and no other ones. -/
theorem mem_used_after_identify_iff
    (h : names.Remembers served)
    (texts : List String)
    {identifier : String} :
    identifier ∈ (names.after (texts.map .identify)).used ↔
      identifier ∈ names.used ∨
      ∃ text ∈ texts,
        (names.after (texts.map .identify)).identifiers.lookup (Text.lower text) =
          some identifier := by
  induction texts generalizing names served with
  | nil =>
      simp [after]
  | cons text rest ih =>
      have hstep : names.after ((text :: rest).map .identify) =
          (names.identify text).2.after (rest.map .identify) := rfl
      have hfirst := lookup_after_identify (names.lookup_identify text) rest
      rw [hstep, ih (h.identify text), mem_used_identify_iff h, List.exists_mem_cons_iff, hfirst,
        Option.some_inj]
      tauto

end Used
end NameDirectory
end MathBlocks
