import MathBlocks.Emit.Custom
import MathBlocks.Emit.Math
import MathBlocks.Helper.Table

/-!
# Walking the blocks

A pass over a program carries a table of helpers and a source of names. This module carries out
the recipes of a whole tree of blocks: what a recipe asks of a slot is answered by the recipe of
the block that is plugged into it. Before that, `Block.declare` gives the variables that a program
changes their identifiers, so that no helper takes them.
-/

namespace MathBlocks

/-- What a pass has handed out so far. -/
structure Pass (ν : Type) where
  helpers : HelperTable
  names : ν
  deriving DecidableEq

namespace Pass

variable {ν : Type} [NameSource ν]

/-- The identifier of a helper. -/
def helper
    (name : String)
    (template : List String)
    (pass : Pass ν) : String × Pass ν :=
  let (identifier, helpers, names) := pass.helpers.request name template pass.names
  (identifier, ⟨helpers, names⟩)

/-- The identifier of a variable. -/
def identify
    (name : String)
    (pass : Pass ν) : String × Pass ν :=
  let (identifier, names) := NameSource.identify name pass.names
  (identifier, { pass with names := names })

/-- Takes back all helpers and names. -/
def forget (pass : Pass ν) : Pass ν where
  helpers := pass.helpers.emptied
  names := NameSource.forget pass.names

end Pass

/-- The writer that was registered last for a block type, if there is one. -/
def Customs.writer?
    (customs : Customs)
    (blockType : String) : Option Writer :=
  customs.lookup blockType

/-- The recipe of a block: its own writer's, or else that of a math block. -/
def Customs.recipe
    (customs : Customs)
    (block : Block) : Recipe String Code :=
  match customs.writer? block.blockType with
  | some writer => writer block
  | none => mathRecipe block

section Walk

variable {ν : Type} [NameSource ν]

mutual

/-- Writes a block. -/
def Block.write
    (customs : Customs) :
    Block → Pass ν → Except Fault Code × Pass ν
  | .node blockType fields inputs, pass =>
      (customs.recipe (.node blockType fields inputs)).run
        { operand := fun slot allowed pass => inputs.write customs slot allowed pass
          helper := Pass.helper
          identify := Pass.identify }
        pass

/-- Writes what is plugged into a slot, fit for a place of that level. -/
def Inputs.write
    (customs : Customs) :
    Inputs → String → BindingLevel → Pass ν → Except Fault (Option String) × Pass ν
  | .empty, _, _, pass => (.ok none, pass)
  | .plug slot child rest, wanted, allowed, pass =>
      if slot = wanted then
        let (result, pass) := child.write customs pass
        (do
          let code ← result
          let value ← code.asValue child.blockType
          return some (value.operand allowed), pass)
      else
        rest.write customs wanted allowed pass

end

/-- Writes a block that has to be a value. -/
def Block.writeValue
    (customs : Customs)
    (block : Block)
    (pass : Pass ν) : Except Fault Value × Pass ν :=
  let (result, pass) := block.write customs pass
  (result >>= Code.asValue block.blockType, pass)

/-- The lines that a block at the top level is written as. -/
def Code.topLines
    (wrapBareValues : Bool) :
    Code → List String
  | .statement lines => lines
  | .value v => [if wrapBareValues then "local _ = " ++ v.code else v.code]

/-- Writes the blocks at the top level, up to the first fault. -/
def writeBlocks
    (customs : Customs)
    (wrapBareValues : Bool) :
    List Block → Pass ν → Except Fault (List String) × Pass ν
  | [], pass => (.ok [], pass)
  | block :: rest, pass =>
      match block.write customs pass with
      | (.error fault, pass) => (.error fault, pass)
      | (.ok code, pass) =>
          let (result, pass) := writeBlocks customs wrapBareValues rest pass
          (result.map (code.topLines wrapBareValues ++ ·), pass)

/-- Whether a block type is that of a statement. -/
def isStatementType (blockType : String) : Bool :=
  match (Tagged.read blockType : Except Fault BlockKind) with
  | .ok kind => kind.isStatement
  | .error _ => false

mutual

/-- Gives the variables that a block and the blocks in it change their identifiers. -/
def Block.declare : Block → ν → ν
  | .node blockType fields inputs, names =>
      inputs.declare <|
        match isStatementType blockType, fields.text? "VAR" with
        | true, some name => (NameSource.identify name names).2
        | _, _ => names

/-- Gives the variables that the blocks plugged in change their identifiers. -/
def Inputs.declare : Inputs → ν → ν
  | .empty, names => names
  | .plug _ child rest, names => rest.declare (child.declare names)

end

end Walk
end MathBlocks
