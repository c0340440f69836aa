import MathBlocks.Proofs.Emit.Serving
import MathBlocks.Proofs.Helper.Order
import MathBlocks.Proofs.Names.Directory

/-!
# What a pass keeps

The table of helpers only grows at its end, each logical name enters it at its first request, and
an identifier once given to a helper or a variable stays. All identifiers given are proper ones.
Each fact is shown for a single request and carried over to `Pass.Serves`.
-/

namespace MathBlocks

section Helpers

variable {ν : Type} [NameSource ν]

/-- A request for a helper that is there leaves the pass as it is. -/
theorem Pass.helper_of_find
    {pass : Pass ν}
    {name : String}
    {helper : Helper}
    (h : pass.helpers.find? name = some helper)
    (template : List String) :
    pass.helper name template = (helper.identifier, pass) := by
  simp [Pass.helper, HelperTable.request_of_find h]

/-- A request for a helper that is not there yet adds it at the end of the table. -/
theorem Pass.helper_of_new
    {pass : Pass ν}
    {name : String}
    (h : pass.helpers.find? name = none)
    (template : List String) :
    pass.helper name template =
      ((NameSource.invent name pass.names).1,
        { helpers :=
            { pass.helpers with
              helpers := pass.helpers.helpers ++
                [pass.helpers.written name (NameSource.invent name pass.names).1 template] },
          names := (NameSource.invent name pass.names).2 }) := by
  simp [Pass.helper, HelperTable.request_of_new h]

theorem Pass.identifier?_helper
    (pass : Pass ν)
    (name : String)
    (template : List String) :
    (pass.helper name template).2.helpers.identifier? name =
      some (pass.helper name template).1 := by
  cases h : pass.helpers.find? name with
  | some helper =>
      rw [Pass.helper_of_find h]
      simp [HelperTable.identifier?, h]
  | none =>
      rw [Pass.helper_of_new h]
      simp only [HelperTable.identifier?]
      rw [HelperTable.find?_written h]
      rfl

/-- The indentation of helpers is settled before the pass. -/
theorem Pass.Serves.indent_eq
    {pass after : Pass ν}
    {log : List Request}
    (h : pass.Serves log after) :
    after.helpers.indent = pass.helpers.indent := by
  induction h with
  | nothing =>
      rfl
  | @helper _ middle name template _ ih =>
      cases hfind : middle.helpers.find? name with
      | some helper =>
          rw [Pass.helper_of_find hfind]
          exact ih
      | none =>
          rw [Pass.helper_of_new hfind]
          exact ih
  | identify name _ ih =>
      exact ih

/-- A request for a helper leaves those before it where they are. -/
theorem Pass.helpers_prefix_helper
    (pass : Pass ν)
    (name : String)
    (template : List String) :
    pass.helpers.helpers <+: (pass.helper name template).2.helpers.helpers := by
  cases hfind : pass.helpers.find? name with
  | some helper =>
      simp [Pass.helper_of_find hfind]
  | none =>
      rw [Pass.helper_of_new hfind]
      exact List.prefix_append _ _

/-- Helpers are added behind those that are there. -/
theorem Pass.Serves.helpers_prefix
    {pass after : Pass ν}
    {log : List Request}
    (h : pass.Serves log after) :
    pass.helpers.helpers <+: after.helpers.helpers := by
  induction h with
  | nothing =>
      exact List.prefix_rfl
  | @helper _ middle name template _ ih =>
      exact ih.trans (middle.helpers_prefix_helper name template)
  | identify name _ ih =>
      exact ih

/-- A helper that is there stays the one that is found by its logical name. -/
theorem Pass.Serves.find?_eq
    {pass after : Pass ν}
    {log : List Request}
    (h : pass.Serves log after)
    {name : String}
    {helper : Helper}
    (hfind : pass.helpers.find? name = some helper) :
    after.helpers.find? name = some helper := by
  induction h with
  | nothing =>
      exact hfind
  | @helper _ middle other template _ ih =>
      cases hother : middle.helpers.find? other with
      | some found =>
          rw [Pass.helper_of_find hother]
          exact ih
      | none =>
          rw [Pass.helper_of_new hother]
          exact HelperTable.find?_append ih _
  | identify other _ ih =>
      exact ih

/-- An identifier that a helper has stays with it. -/
theorem Pass.Serves.identifier?_eq
    {pass after : Pass ν}
    {log : List Request}
    (h : pass.Serves log after)
    {name identifier : String}
    (hidentifier : pass.helpers.identifier? name = some identifier) :
    after.helpers.identifier? name = some identifier := by
  obtain ⟨helper, hfind, rfl⟩ := Option.map_eq_some_iff.mp hidentifier
  exact Option.map_eq_some_iff.mpr ⟨helper, h.find?_eq hfind, rfl⟩

/-- In a pass that starts without helpers, each logical name stands where it is asked for first. -/
theorem Pass.Serves.logicalNames
    {pass after : Pass ν}
    {log : List Request}
    (h : pass.Serves log after)
    (hempty : pass.helpers.helpers = []) :
    after.helpers.helpers.map Helper.logicalName = (log.map Prod.fst).eraseDups := by
  induction h with
  | nothing =>
      simp [hempty]
  | @helper log middle name template _ ih =>
      -- a name is in the table exactly if it was asked for before
      have hmem := HelperTable.find?_isSome middle.helpers name
      rw [ih, List.mem_eraseDups] at hmem
      rw [List.map_append, List.map_cons, List.map_nil, eraseDups_concat]
      cases hfind : middle.helpers.find? name with
      | some helper =>
          have hlog : name ∈ log.map Prod.fst := hmem.mp (by simp [hfind])
          rw [Pass.helper_of_find hfind, if_pos hlog]
          exact ih
      | none =>
          have hlog : name ∉ log.map Prod.fst := fun hin => by simpa [hfind] using hmem.mpr hin
          rw [Pass.helper_of_new hfind, if_neg hlog, ← ih]
          simp [HelperTable.written]
  | identify name _ ih =>
      exact ih

/-- A helper that is not in the table was not asked for. -/
theorem Pass.Serves.lookup_eq_none
    {pass after : Pass ν}
    {log : List Request}
    (h : pass.Serves log after)
    {name : String}
    (hfind : after.helpers.find? name = none) :
    log.lookup name = none := by
  induction h with
  | nothing =>
      rfl
  | @helper log middle other template _ ih =>
      have hne : (name == other) = false := by
        rw [beq_eq_false_iff_ne]
        rintro rfl
        have hidentifier := middle.identifier?_helper name template
        simp [HelperTable.identifier?, hfind] at hidentifier
      have hmiddle : middle.helpers.find? name = none := by
        cases hfound : middle.helpers.find? name with
        | none =>
            rfl
        | some helper =>
            rw [(middle.serves_helper other template).find?_eq hfound] at hfind
            cases hfind
      rw [List.lookup_append, ih hmiddle, List.lookup_cons, hne]
      rfl
  | identify other _ ih =>
      exact ih hfind

/-- A helper is there from the start, or it is written for the first request of its name. -/
theorem Pass.Serves.lines_eq
    {pass after : Pass ν}
    {log : List Request}
    (h : pass.Serves log after) :
    ∀ helper ∈ after.helpers.helpers,
      helper ∈ pass.helpers.helpers ∨
      ∃ template,
        log.lookup helper.logicalName = some template ∧
        helper.lines =
          template.map (HelperTable.fillLine pass.helpers.indent helper.identifier) := by
  induction h with
  | nothing =>
      exact fun helper hmem => Or.inl hmem
  | @helper log middle name template hserves ih =>
      intro helper hmem
      have hbefore : helper ∈ middle.helpers.helpers →
          helper ∈ pass.helpers.helpers ∨
          ∃ other,
            (log ++ [(name, template)]).lookup helper.logicalName = some other ∧
            helper.lines =
              other.map (HelperTable.fillLine pass.helpers.indent helper.identifier) := by
        intro hin
        rcases ih helper hin with hstart | ⟨other, hother, hlines⟩
        · exact Or.inl hstart
        · exact Or.inr ⟨other, by rw [List.lookup_append, hother]; rfl, hlines⟩
      cases hfind : middle.helpers.find? name with
      | some found =>
          rw [Pass.helper_of_find hfind] at hmem
          exact hbefore hmem
      | none =>
          rw [Pass.helper_of_new hfind] at hmem
          rcases List.mem_append.mp hmem with hin | hnew
          · exact hbefore hin
          · have hlookup : (log ++ [(name, template)]).lookup name = some template := by
              rw [List.lookup_append, hserves.lookup_eq_none hfind]
              simp
            rw [List.mem_singleton.mp hnew]
            exact Or.inr ⟨template, hlookup, by simp [HelperTable.written, hserves.indent_eq]⟩
  | identify name _ ih =>
      exact ih

end Helpers

/-- Whether all identifiers that a pass has given are proper ones. -/
structure Pass.Sound
    (reserved : List String)
    (pass : Pass NameDirectory) : Prop where
  names : pass.names.Sound reserved
  helpers : ∀ helper ∈ pass.helpers.helpers, NameDirectory.IsProper reserved helper.identifier

/-- A request for a helper is answered by a proper identifier and keeps all identifiers proper. -/
theorem Pass.Sound.helper
    {reserved : List String}
    {pass : Pass NameDirectory}
    (h : pass.Sound reserved)
    (name : String)
    (template : List String) :
    NameDirectory.IsProper reserved (pass.helper name template).1 ∧
    (pass.helper name template).2.Sound reserved := by
  cases hfind : pass.helpers.find? name with
  | some helper =>
      rw [Pass.helper_of_find hfind]
      exact ⟨h.helpers helper (List.mem_of_find?_eq_some hfind), h⟩
  | none =>
      obtain ⟨hproper, hsound⟩ := h.names.handOut name
      rw [Pass.helper_of_new hfind]
      refine ⟨hproper, hsound, ?_⟩
      intro helper hmem
      rcases List.mem_append.mp hmem with hin | hnew
      · exact h.helpers helper hin
      · rw [List.mem_singleton.mp hnew]
        exact hproper

/-- A request for a variable is answered by a proper identifier and keeps all identifiers proper. -/
theorem Pass.Sound.identify
    {reserved : List String}
    {pass : Pass NameDirectory}
    (h : pass.Sound reserved)
    (name : String) :
    NameDirectory.IsProper reserved (pass.identify name).1 ∧
    (pass.identify name).2.Sound reserved := by
  obtain ⟨hproper, hsound⟩ := h.names.identify name
  exact ⟨hproper, hsound, h.helpers⟩

theorem Pass.Serves.sound
    {reserved : List String}
    {pass after : Pass NameDirectory}
    {log : List Request}
    (h : pass.Serves log after)
    (hsound : pass.Sound reserved) :
    after.Sound reserved := by
  induction h with
  | nothing =>
      exact hsound
  | helper name template _ ih =>
      exact (ih.helper name template).2
  | identify name _ ih =>
      exact (ih.identify name).2

/-- A helper is there from the start, or its identifier is one of the candidates for its name. -/
theorem Pass.Serves.identifier_eq_candidate
    {pass after : Pass NameDirectory}
    {log : List Request}
    (h : pass.Serves log after) :
    ∀ helper ∈ after.helpers.helpers,
      helper ∈ pass.helpers.helpers ∨
      ∃ n, helper.identifier =
        NameDirectory.candidate (Identifier.ofText helper.logicalName) n := by
  induction h with
  | nothing =>
      exact fun helper hmem => Or.inl hmem
  | @helper _ middle name template _ ih =>
      intro helper hmem
      cases hfind : middle.helpers.find? name with
      | some found =>
          rw [Pass.helper_of_find hfind] at hmem
          exact ih helper hmem
      | none =>
          rw [Pass.helper_of_new hfind] at hmem
          rcases List.mem_append.mp hmem with hin | hnew
          · exact ih helper hin
          · obtain ⟨n, _, hfirst, _⟩ := middle.names.firstFree_spec (Identifier.ofText name)
            rw [List.mem_singleton.mp hnew]
            exact Or.inr ⟨n, hfirst⟩
  | identify name _ ih =>
      exact ih

theorem Pass.Sound.forget
    {reserved : List String}
    {pass : Pass NameDirectory}
    (h : pass.Sound reserved) :
    pass.forget.Sound reserved :=
  ⟨h.names.forget, fun _ hmem => nomatch hmem⟩

/-- The identifiers of helpers, by logical name, and of variables, by name. -/
structure Naming where
  ofHelper : String → Option String
  ofVariable : String → Option String

/-- Whether a naming has all the identifiers of another one. -/
structure Naming.Within (naming whole : Naming) : Prop where
  ofHelper_eq :
    ∀ {name identifier}, naming.ofHelper name = some identifier →
      whole.ofHelper name = some identifier
  ofVariable_eq :
    ∀ {name identifier}, naming.ofVariable name = some identifier →
      whole.ofVariable name = some identifier

/-- The identifiers that a pass has given so far. -/
def Pass.naming (pass : Pass NameDirectory) : Naming where
  ofHelper := pass.helpers.identifier?
  ofVariable name := pass.names.identifiers.lookup (Text.lower name)

theorem Pass.ofVariable_identify
    (pass : Pass NameDirectory)
    (name : String) :
    (pass.identify name).2.naming.ofVariable name = some (pass.identify name).1 :=
  pass.names.lookup_identify name

/-- A request for a variable that has an identifier leaves the pass as it is. -/
theorem Pass.identify_of_some
    {pass : Pass NameDirectory}
    {name identifier : String}
    (h : pass.naming.ofVariable name = some identifier) :
    pass.identify name = (identifier, pass) := by
  have hnames : NameSource.identify name pass.names = (identifier, pass.names) :=
    NameDirectory.identify_of_lookup h
  simp [Pass.identify, hnames]

/-- An identifier that a variable has stays with it when another one is asked for. -/
theorem Pass.ofVariable_identify_of_some
    {pass : Pass NameDirectory}
    {name identifier : String}
    (h : pass.naming.ofVariable name = some identifier)
    (other : String) :
    (pass.identify other).2.naming.ofVariable name = some identifier :=
  NameDirectory.lookup_identify_of_some h other

theorem Pass.ofVariable_helper
    (pass : Pass NameDirectory)
    (name other : String)
    (template : List String) :
    (pass.helper other template).2.naming.ofVariable name = pass.naming.ofVariable name := by
  cases h : pass.helpers.find? other with
  | some helper =>
      rw [Pass.helper_of_find h]
  | none =>
      rw [Pass.helper_of_new h]
      rfl

theorem Pass.Serves.within
    {pass after : Pass NameDirectory}
    {log : List Request}
    (h : pass.Serves log after) :
    pass.naming.Within after.naming := by
  refine ⟨h.identifier?_eq, ?_⟩
  intro name identifier hname
  induction h with
  | nothing =>
      exact hname
  | helper other template _ ih =>
      rw [Pass.ofVariable_helper]
      exact ih
  | identify other _ ih =>
      exact Pass.ofVariable_identify_of_some ih other

theorem Naming.Within.trans
    {first second third : Naming}
    (hfirst : first.Within second)
    (hsecond : second.Within third) :
    first.Within third where
  ofHelper_eq h := hsecond.ofHelper_eq (hfirst.ofHelper_eq h)
  ofVariable_eq h := hsecond.ofVariable_eq (hfirst.ofVariable_eq h)

end MathBlocks
