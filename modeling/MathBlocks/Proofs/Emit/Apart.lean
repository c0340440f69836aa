import MathBlocks.Proofs.Emit.Outline
import MathBlocks.Proofs.Names.Distinct

/-!
# Helpers and variables keep apart

In a pass that starts with nothing handed out, no two helpers have one identifier, no two variables
do, and no helper has that of a variable. A pass answers single requests, and each of them keeps
this up because an identifier that is handed out was not in use.
-/

namespace MathBlocks

/-- Whether no identifier of a pass is that of two helpers, of two variables, or of one of each. -/
structure Pass.Apart (pass : Pass NameDirectory) : Prop where
  remembers :
    pass.names.Remembers
      (pass.helpers.helpers.map fun helper => (.invent helper.logicalName, helper.identifier))
  nodup : (pass.helpers.helpers.map Helper.identifier).Nodup

theorem Pass.apart_forget
    (pass : Pass NameDirectory) :
    pass.forget.Apart :=
  ⟨NameDirectory.remembers_nil rfl, List.nodup_nil⟩

/-- A helper that is added has an identifier that was not in use. -/
theorem Pass.Apart.helper
    {pass : Pass NameDirectory}
    (h : pass.Apart)
    (name : String)
    (template : List String) :
    (pass.helper name template).2.Apart := by
  cases hfind : pass.helpers.find? name with
  | some helper =>
      rw [Pass.helper_of_find hfind]
      exact h
  | none =>
      rw [Pass.helper_of_new hfind]
      have hstep := h.remembers.handOut name
      refine ⟨⟨hstep.injective, hstep.used, ?_⟩, ?_⟩
      · intro entry hentry
        rw [List.map_append, List.mem_append] at hentry
        rcases hentry with hbefore | hnew
        · exact hstep.knows entry (List.mem_cons_of_mem _ hbefore)
        · rw [List.mem_singleton.mp hnew]
          exact hstep.knows _ List.mem_cons_self
      · rw [List.map_append, List.nodup_append]
        refine ⟨h.nodup, List.nodup_singleton _, ?_⟩
        intro identifier hmem new hnew heq
        rw [List.mem_singleton.mp hnew] at heq
        obtain ⟨helper, hhelper, rfl⟩ := List.mem_map.mp hmem
        have hused := h.remembers.mem_used (List.mem_map.mpr ⟨helper, hhelper, rfl⟩)
        rw [heq] at hused
        exact pass.names.handOut_not_mem_used name hused

theorem Pass.Apart.identify
    {pass : Pass NameDirectory}
    (h : pass.Apart)
    (name : String) :
    (pass.identify name).2.Apart := by
  have hstep := h.remembers.identify name
  exact ⟨⟨hstep.injective, hstep.used, fun entry hentry =>
    hstep.knows entry (List.mem_cons_of_mem _ hentry)⟩, h.nodup⟩

theorem Pass.Serves.apart
    {pass after : Pass NameDirectory}
    {log : List Request}
    (h : pass.Serves log after)
    (hapart : pass.Apart) :
    after.Apart := by
  induction h with
  | nothing =>
      exact hapart
  | helper name template _ ih =>
      exact ih.helper name template
  | identify name _ ih =>
      exact ih.identify name

/-- The identifier that a pass has given to what a label stands for. -/
def Pass.ofLabel?
    (pass : Pass NameDirectory) :
    Label → Option String
  | .ofHelper logicalName => pass.helpers.identifier? logicalName
  | .ofVariable key => pass.names.identifiers.lookup key

theorem Pass.ofLabel?_of_gives
    {pass : Pass NameDirectory}
    {label : Label}
    {identifier : String}
    (h : pass.naming.Gives label identifier) :
    pass.ofLabel? label = some identifier := by
  cases label with
  | ofHelper logicalName =>
      exact h
  | ofVariable key =>
      obtain ⟨name, rfl, hname⟩ := h
      exact hname

/-- What a label stands for has a proper identifier. -/
theorem Pass.Sound.ofLabel?
    {reserved : List String}
    {pass : Pass NameDirectory}
    (h : pass.Sound reserved)
    {label : Label}
    {identifier : String}
    (hlabel : pass.ofLabel? label = some identifier) :
    NameDirectory.IsProper reserved identifier := by
  cases label with
  | ofHelper logicalName =>
      obtain ⟨helper, hfind, rfl⟩ := Option.map_eq_some_iff.mp hlabel
      exact h.helpers helper (List.mem_of_find?_eq_some hfind)
  | ofVariable key =>
      obtain ⟨before, after, hsplit, _⟩ := List.lookup_eq_some_iff.mp hlabel
      exact h.names.proper (key, identifier) (by simp [hsplit])

/-- The helper with the identifier of another one is that one. -/
theorem Pass.Apart.eq_of_identifier_eq
    {pass : Pass NameDirectory}
    (h : pass.Apart)
    {helper other : Helper}
    (hhelper : helper ∈ pass.helpers.helpers)
    (hother : other ∈ pass.helpers.helpers)
    (heq : helper.identifier = other.identifier) :
    helper = other :=
  List.inj_on_of_nodup_map h.nodup hhelper hother heq

/-- No variable has the identifier of a helper. -/
theorem Pass.Apart.lookup_ne
    {pass : Pass NameDirectory}
    (h : pass.Apart)
    {helper : Helper}
    (hhelper : helper ∈ pass.helpers.helpers)
    (key : String) :
    pass.names.identifiers.lookup key ≠ some helper.identifier := by
  have hknows := h.remembers.knows _ (List.mem_map.mpr ⟨helper, hhelper, rfl⟩)
  exact hknows.2 key

/-- No two labels have one identifier. -/
theorem Pass.Apart.label_injective
    {pass : Pass NameDirectory}
    (h : pass.Apart)
    {label other : Label}
    {identifier : String}
    (hlabel : pass.ofLabel? label = some identifier)
    (hother : pass.ofLabel? other = some identifier) :
    label = other := by
  cases label with
  | ofHelper name =>
      obtain ⟨helper, hfind, rfl⟩ := Option.map_eq_some_iff.mp hlabel
      have hmem := List.mem_of_find?_eq_some hfind
      cases other with
      | ofHelper second =>
          obtain ⟨found, hfound, heq⟩ := Option.map_eq_some_iff.mp hother
          have hsame := h.eq_of_identifier_eq (List.mem_of_find?_eq_some hfound) hmem heq
          have hname : found.logicalName = second := by
            simpa using List.find?_some hfound
          have hfirst : helper.logicalName = name := by
            simpa using List.find?_some hfind
          rw [← hname, ← hfirst, hsame]
      | ofVariable key =>
          exact absurd hother (h.lookup_ne hmem key)
  | ofVariable key =>
      cases other with
      | ofHelper name =>
          obtain ⟨helper, hfind, rfl⟩ := Option.map_eq_some_iff.mp hother
          exact absurd hlabel (h.lookup_ne (List.mem_of_find?_eq_some hfind) key)
      | ofVariable second =>
          exact congrArg Label.ofVariable (h.remembers.injective hlabel hother)

end MathBlocks
