import MathBlocks.Emit.Walk
import MathBlocks.Names.Directory

/-!
# Recipes on the bench

Carries out a single recipe away from any tree: operands come from a table instead of from the
blocks that are plugged in, helpers and variables are handed out as in a pass, and a log keeps
what was asked, in order. A block that is plugged into a slot of the block on the bench is a fault
when the slot is asked for, since the bench cannot write it.
-/

namespace MathBlocks

/-- A question that a recipe asked. -/
inductive Question where
  | operand (slot : String) (allowed : BindingLevel)
  | helper (name : String) (templateLines : Nat)
  | identifier (name : String)
  deriving DecidableEq, Repr

/-- What was asked, last question first, and what was handed out. -/
structure Bench where
  log : List Question
  pass : Pass NameDirectory

namespace Bench

/-- A bench on which nothing was asked yet. -/
def fresh (names : NameDirectory) : Bench where
  log := []
  pass := ⟨.empty (.spaces 2), names⟩

/-- Answers what the recipe of a block asks, with operands from a table. -/
def supplier
    (block : Block)
    (table : List (String × Value)) : Supplier String Bench where
  operand slot allowed bench :=
    let bench := { bench with log := .operand slot allowed :: bench.log }
    if (block.input? slot).isSome then
      (.error (.statementAsValue block.blockType), bench)
    else
      (.ok ((table.lookup slot).map fun value => value.operand allowed), bench)
  helper name template bench :=
    let (identifier, pass) := bench.pass.helper name template
    (identifier, ⟨.helper name template.length :: bench.log, pass⟩)
  identify name bench :=
    let (identifier, pass) := bench.pass.identify name
    (identifier, ⟨.identifier name :: bench.log, pass⟩)

/-- Carries out the recipe of a math block; `kind` takes the place of the block's own kind. -/
def run
    (block : Block)
    (kind : Option BlockKind)
    (table : List (String × Value))
    (bench : Bench) : Except Fault Code × Bench :=
  let recipe :=
    match kind with
    | some kind => kind.recipe block
    | none => mathRecipe block
  recipe.run (supplier block table) bench

end Bench
end MathBlocks
