import Mathlib.Data.List.Forall2
import MathBlocks.Proofs.Emit.Pass
import MathBlocks.Proofs.Helper.Places

/-!
# What the first request decides

A table of helpers serves calls one after the other, with any source of names behind it. Until it is
cleared, the first request for a logical name decides the identifier and the lines of its helper:
that is when a name is invented, and when a helper is added. Every later request for it changes
nothing, whatever template it comes with.
-/

namespace MathBlocks

/-- A call of a table of helpers. -/
inductive HelperCall where
  | request (name : String) (template : List String)
  | clear

namespace Pass

variable {ν : Type} [NameSource ν]

/-- A pass with no helpers; whatever names are handed out stay so. -/
def start
    (indent : Indent)
    (names : ν) : Pass ν where
  helpers := .empty indent
  names := names

/-- Serves a call; only to be cleared has no identifier for an answer. -/
def serve
    (pass : Pass ν) :
    HelperCall → Option String × Pass ν
  | .request name template =>
      let (identifier, pass) := pass.helper name template
      (some identifier, pass)
  | .clear => (none, start pass.helpers.indent pass.names)

/-- A pass after it has served these calls. -/
def after
    (pass : Pass ν)
    (calls : List HelperCall) : Pass ν :=
  calls.foldl (fun pass call => (pass.serve call).2) pass

/-- A pass after it was asked for these helpers. -/
def requested
    (pass : Pass ν)
    (asked : List Request) : Pass ν :=
  pass.after (asked.map fun request => .request request.1 request.2)

/-- A source of names after each of these names was invented. -/
def invented
    (names : ν)
    (logicalNames : List String) : ν :=
  logicalNames.foldl (fun names name => (NameSource.invent name names).2) names

theorem requested_concat
    (pass : Pass ν)
    (asked : List Request)
    (request : Request) :
    pass.requested (asked ++ [request]) =
      ((pass.requested asked).helper request.1 request.2).2 := by
  simp [requested, after, serve]

theorem requested_append
    (pass : Pass ν)
    (asked others : List Request) :
    pass.requested (asked ++ others) = (pass.requested asked).requested others := by
  simp [requested, after]

/-- What is asked for in turn is what the pass serves. -/
theorem requested_serves
    (pass : Pass ν)
    (asked : List Request) :
    pass.Serves asked (pass.requested asked) := by
  induction asked using List.reverseRecOn with
  | nil =>
      exact .nothing
  | append_singleton asked request ih =>
      rw [requested_concat]
      exact .helper request.1 request.2 ih

/-- A helper is there exactly if it was asked for. -/
theorem isSome_find?_requested
    {pass : Pass ν}
    (hempty : pass.helpers.helpers = [])
    (asked : List Request)
    (name : String) :
    ((pass.requested asked).helpers.find? name).isSome = true ↔ name ∈ asked.map Prod.fst := by
  rw [HelperTable.find?_isSome, (pass.requested_serves asked).logicalNames hempty,
    List.mem_eraseDups]

theorem find?_requested_eq_none
    {pass : Pass ν}
    (hempty : pass.helpers.helpers = [])
    {asked : List Request}
    {name : String}
    (hname : name ∉ asked.map Prod.fst) :
    (pass.requested asked).helpers.find? name = none := by
  rw [← Option.not_isSome_iff_eq_none, isSome_find?_requested hempty]
  exact hname

/-- Names are invented for the helpers that are added, each at its first request. -/
theorem names_requested
    {pass : Pass ν}
    (hempty : pass.helpers.helpers = [])
    (asked : List Request) :
    (pass.requested asked).names = invented pass.names (asked.map Prod.fst).eraseDups := by
  induction asked using List.reverseRecOn with
  | nil =>
      simp [requested, after, invented]
  | append_singleton asked request ih =>
      rw [requested_concat, List.map_append, List.map_cons, List.map_nil, eraseDups_concat]
      split
      · rename_i hmem
        obtain ⟨helper, hfind⟩ :=
          Option.isSome_iff_exists.mp ((isSome_find?_requested hempty asked _).mpr hmem)
        rw [helper_of_find hfind, ih]
      · rename_i hmem
        have hinvented : invented pass.names ((asked.map Prod.fst).eraseDups ++ [request.1]) =
            (NameSource.invent request.1
              (invented pass.names (asked.map Prod.fst).eraseDups)).2 := by
          simp [invented]
        rw [helper_of_new (find?_requested_eq_none hempty hmem), hinvented, ← ih]

/-- A helper that is asked for first is added at the end, with its lines from this template. -/
theorem helper_of_not_mem
    {pass : Pass ν}
    (hempty : pass.helpers.helpers = [])
    {asked : List Request}
    {name : String}
    (hname : name ∉ asked.map Prod.fst)
    (template : List String) :
    ∃ lines,
      List.Forall₂
        (HelperTable.FilledFrom pass.helpers.indent
          (NameSource.invent name (pass.requested asked).names).1)
        template lines ∧
      (pass.requested asked).helper name template =
        ((NameSource.invent name (pass.requested asked).names).1,
          { helpers :=
              { indent := pass.helpers.indent
                helpers := (pass.requested asked).helpers.helpers ++
                  [⟨name, (NameSource.invent name (pass.requested asked).names).1, lines⟩] }
            names := (NameSource.invent name (pass.requested asked).names).2 }) := by
  have hindent := (pass.requested_serves asked).indent_eq
  refine ⟨template.map (HelperTable.fillLine pass.helpers.indent
    (NameSource.invent name (pass.requested asked).names).1), ?_, ?_⟩
  · rw [List.forall₂_map_right_iff]
    exact List.forall₂_same.mpr fun line _ => HelperTable.filledFrom_fillLine _ _ line
  · rw [helper_of_new (find?_requested_eq_none hempty hname)]
    simp only [HelperTable.written, hindent]

/-- A helper that was asked for keeps what its first request gave it, and stays as it is. -/
theorem helper_of_first
    {pass : Pass ν}
    (hempty : pass.helpers.helpers = [])
    {earlier : List Request}
    {name : String}
    (hname : name ∉ earlier.map Prod.fst)
    (first : List String)
    (later : List Request)
    (template : List String) :
    ∃ lines,
      List.Forall₂
        (HelperTable.FilledFrom pass.helpers.indent
          (NameSource.invent name (pass.requested earlier).names).1)
        first lines ∧
      (pass.requested (earlier ++ (name, first) :: later)).helpers.find? name =
        some ⟨name, (NameSource.invent name (pass.requested earlier).names).1, lines⟩ ∧
      (pass.requested (earlier ++ (name, first) :: later)).helper name template =
        ((NameSource.invent name (pass.requested earlier).names).1,
          pass.requested (earlier ++ (name, first) :: later)) := by
  obtain ⟨lines, hlines, hrequest⟩ := helper_of_not_mem hempty hname first
  have hadded : (pass.requested (earlier ++ [(name, first)])).helpers.find? name =
      some ⟨name, (NameSource.invent name (pass.requested earlier).names).1, lines⟩ := by
    rw [requested_concat, hrequest]
    have hnone := find?_requested_eq_none hempty hname
    unfold HelperTable.find? at hnone ⊢
    rw [List.find?_append, hnone]
    simp
  have hkept : (pass.requested (earlier ++ (name, first) :: later)).helpers.find? name =
      some ⟨name, (NameSource.invent name (pass.requested earlier).names).1, lines⟩ := by
    rw [List.append_cons, requested_append]
    exact (requested_serves _ later).find?_eq hadded
  refine ⟨lines, hlines, hkept, ?_⟩
  exact helper_of_find hkept template

/-- What a table keeps of requests that are made since it is empty. -/
structure KeepsFirst
    (pass : Pass ν)
    (asked : List Request) : Prop where
  /-- Every logical name stands where it was asked for first. -/
  listed :
    (pass.requested asked).helpers.helpers.map Helper.logicalName =
      (asked.map Prod.fst).eraseDups
  /-- No logical name stands there twice. -/
  distinct :
    ((pass.requested asked).helpers.helpers.map Helper.logicalName).Nodup
  /-- The names that have an identifier are those that were asked for. -/
  known (name : String) :
    ((pass.requested asked).helpers.identifier? name).isSome = true ↔ name ∈ asked.map Prod.fst
  /-- A name was invented for each of them once, and none otherwise. -/
  invented_once :
    (pass.requested asked).names = invented pass.names (asked.map Prod.fst).eraseDups
  /-- Whatever is asked for next, the helpers that are there stay where they are. -/
  grows (name : String) (template : List String) :
    (pass.requested asked).helpers.helpers <+:
      ((pass.requested asked).helper name template).2.helpers.helpers
  /-- The first request for a name invents its identifier and adds its helper at the end. -/
  first (name : String) (template : List String) :
    name ∉ asked.map Prod.fst →
    ∃ lines,
      List.Forall₂
        (HelperTable.FilledFrom pass.helpers.indent
          (NameSource.invent name (pass.requested asked).names).1)
        template lines ∧
      (pass.requested asked).helper name template =
        ((NameSource.invent name (pass.requested asked).names).1,
          { helpers :=
              { indent := pass.helpers.indent
                helpers := (pass.requested asked).helpers.helpers ++
                  [⟨name, (NameSource.invent name (pass.requested asked).names).1, lines⟩] }
            names := (NameSource.invent name (pass.requested asked).names).2 })
  /-- A later request for it has the same answer and leaves everything as it is. -/
  repeated (name : String) (template given : List String) (earlier later : List Request) :
    asked = earlier ++ (name, given) :: later →
    name ∉ earlier.map Prod.fst →
    ∃ lines,
      List.Forall₂
        (HelperTable.FilledFrom pass.helpers.indent
          (NameSource.invent name (pass.requested earlier).names).1)
        given lines ∧
      (pass.requested asked).helpers.find? name =
        some ⟨name, (NameSource.invent name (pass.requested earlier).names).1, lines⟩ ∧
      (pass.requested asked).helper name template =
        ((NameSource.invent name (pass.requested earlier).names).1, pass.requested asked)

theorem keepsFirst_of_empty
    {pass : Pass ν}
    (hempty : pass.helpers.helpers = [])
    (asked : List Request) :
    pass.KeepsFirst asked where
  listed := (pass.requested_serves asked).logicalNames hempty
  distinct := by
    rw [(pass.requested_serves asked).logicalNames hempty]
    exact nodup_eraseDups _
  known name := by
    rw [HelperTable.identifier?, Option.isSome_map]
    exact isSome_find?_requested hempty asked name
  invented_once := names_requested hempty asked
  grows name template := helpers_prefix_helper _ name template
  first name template hname := helper_of_not_mem hempty hname template
  repeated name template given earlier later hasked hname := by
    rw [hasked]
    exact helper_of_first hempty hname given later template

/-- A table that is cleared is a new one, with the names that are handed out by then. -/
theorem after_clear
    (indent : Indent)
    (names : ν)
    (calls : List HelperCall) :
    ((start indent names).after (calls ++ [.clear])) =
      start indent ((start indent names).after calls).names := by
  have hindent : ∀ pass : Pass ν, (pass.after calls).helpers.indent = pass.helpers.indent := by
    induction calls with
    | nil =>
        exact fun _ => rfl
    | cons call rest ih =>
        intro pass
        have hcall : (pass.serve call).2.helpers.indent = pass.helpers.indent := by
          cases call with
          | request name template =>
              exact (pass.serves_helper name template).indent_eq
          | clear =>
              rfl
        exact (ih _).trans hcall
  have hclear : (start indent names).after (calls ++ [.clear]) =
      start ((start indent names).after calls).helpers.indent
        ((start indent names).after calls).names := by
    simp [after, serve]
  rw [hclear, hindent]
  rfl

/--
With any source of names behind a table, from its beginning on and from wherever it is cleared on:
the first request for a name decides, and later ones change nothing.
-/
theorem first_request_decides
    (indent : Indent)
    (names : ν)
    (calls : List HelperCall)
    (asked : List Request) :
    (start indent names).KeepsFirst asked ∧
    (start indent names).after (calls ++ [.clear]) =
      start indent ((start indent names).after calls).names ∧
    ((start indent names).after (calls ++ [.clear])).KeepsFirst asked := by
  have hcleared := after_clear indent names calls
  refine ⟨keepsFirst_of_empty rfl asked, hcleared, ?_⟩
  rw [hcleared]
  exact keepsFirst_of_empty rfl asked

end Pass
end MathBlocks
