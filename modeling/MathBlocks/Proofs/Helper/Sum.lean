import MathBlocks.Proofs.Helper.Behaviour

/-!
# The sum of a list

The helper for sums goes through its list and adds every entry to what it has. After each round it
has the sum of the entries that it has been through, which is no number as soon as one of them is
none.
-/

namespace MathBlocks

open Lua Script

namespace MathHelper

/-- Adds an entry. -/
def addBody : Body :=
  .ofList [.assign (.name "result") (.binary (.operator .plus) (.name "result") (.name "v"))]

/-- The loop that adds the entries. -/
def addLoop : Statement :=
  .each ["_", "v"] entriesTerms addBody

/-- The body of the sum. -/
def sumBody : Body :=
  .ofList
    [.declare ["result"] (.ofList [.numeral "0"]),
     addLoop,
     .result (.ofList [.name "result"])]

theorem sum_isReadAs :
    IsReadAs "t"
      ["  local result = 0", "  for _, v in ipairs(t) do", "    result = result + v", "  end",
       "  return result"]
      (["t"], sumBody) := by
  decide +kernel

theorem sum_defines
    {identifier : String}
    (hproper : Identifier.IsIdentifier identifier.toList)
    (hkeyword : identifier ∉ keywords)
    (indent : Indent) :
    Helper.Defines
      ⟨sumName, identifier, sum.map (HelperTable.fillLine indent identifier)⟩
      ⟨identifier, ["t"], sumBody⟩ :=
  sum_isReadAs.defines hproper hkeyword indent

section Running

variable {functions : String → Option Behaviour} {tables : Tables} {address : Nat}
variable {values : List Number}

/-- The variables after these entries have been added. -/
noncomputable def added
    (address : Nat)
    (done : List Datum) : Locals :=
  [("result", some (.number (Number.total (done.filterMap Datum.number?)))),
    ("t", some (.list address))]

/-- A round of the loop adds its entry. -/
theorem addBody_run
    (place : Script.Value)
    (value : Number)
    (done : List Datum) :
    (addBody.run functions
      (Locals.declare ["_", "v"] [place, some (.number value)] (added address done))).run tables =
      .ok (.next
        (Locals.declare ["_", "v"] [place, some (.number value)]
          (added address (done ++ [Datum.number value]))), tables) := by
  have hsum : (Term.binary (.operator .plus) (.name "result") (.name "v")).Gives functions
      (Locals.declare ["_", "v"] [place, some (.number value)] (added address done)) tables
      (some (.number (Number.total ((done ++ [Datum.number value]).filterMap Datum.number?)))) := by
    rw [Datum.filterMap_number?_concat, Number.total_concat]
    exact (Term.gives_name rfl).both (Term.gives_name rfl) (Number.lift_exact (· + ·))
  exact (Body.run_more_next (Statement.run_assign hsum rfl)).trans Body.run_done

/-- The loop adds all entries. -/
theorem addLoop_run
    (hlist : tables[address]? = some (values.map .number)) :
    (addLoop.run functions (added address [])).run tables =
      .ok (.next (added address (values.map .number)), tables) := by
  refine Statement.run_each (fun done => (added address done, tables)) rfl (Term.gives_name rfl)
    (fun _ => listed_list hlist) ?_
  intro done item hitem
  obtain ⟨value, _, rfl⟩ := List.mem_map.mp hitem
  exact run_bind_ok (addBody_run _ value done)

/-- The function gives the sum of a list of numbers. -/
theorem sum_behaviour
    (identifier : String)
    (functions : String → Option Behaviour)
    (hlist : tables[address]? = some (values.map .number)) :
    ((Script.Function.mk identifier ["t"] sumBody).behaviour functions
      [some (.list address)]).run tables =
      .ok ([some (.number (Number.total values))], tables) := by
  have hresult : (added address (values.map .number)).lookup "result" =
      some (some (.number (Number.total values))) := by
    rw [added, Datum.filterMap_number?]
    rfl
  refine Function.behaviour_of_back ?_
  rw [sumBody, Body.ofList, Body.run_more_next (Statement.run_declare Term.gives_zero.single)]
  refine (Body.run_more_next (addLoop_run hlist)).trans ?_
  exact Body.run_more_back (Statement.run_result (Term.gives_name hresult).single)

end Running

end MathHelper
end MathBlocks
