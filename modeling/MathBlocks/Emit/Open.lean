import MathBlocks.Emit.Walk

/-!
# Writers that ask about any block

A writer asks for what is plugged into its own block. An open writer says which block it asks
about: its own, one that it finds below, or one that it has made up and that is in no program.
Carrying out what open writers ask for does not follow the tree of blocks any more, and a writer
that makes up a block of its own type each time comes to no end. How many blocks may be under way
inside each other is therefore given beforehand; where that is not enough, nothing comes of it.
-/

namespace MathBlocks

/-- A slot of a block, be the block in a program or not. -/
structure Place where
  block : Block
  slot : String
  deriving DecidableEq

/-- What is plugged in at a place. -/
def Place.held? (place : Place) : Option Block :=
  place.block.input? place.slot

/-- A recipe that asks for the slots of a block, with these as places. -/
def Recipe.about
    {α : Type}
    (block : Block) :
    Recipe String α → Recipe Place α
  | .done result => .done result
  | .fail fault => .fail fault
  | .operand slot allowed next =>
      .operand ⟨block, slot⟩ allowed fun answer => (next answer).about block
  | .helper name template next => .helper name template fun answer => (next answer).about block
  | .identifier name next => .identifier name fun answer => (next answer).about block

/-- A way to write the blocks of one type that may ask about any block. -/
abbrev OpenWriter := Block → Recipe Place Code

/-- A writer as an open one, which asks about its own block only. -/
def Writer.opened (writer : Writer) : OpenWriter :=
  fun block => (writer block).about block

/-- The block types with open writers of their own, those registered last first. -/
abbrev OpenCustoms := List (String × OpenWriter)

/-- Writers as open ones. -/
def Customs.opened (customs : Customs) : OpenCustoms :=
  customs.map fun custom => (custom.1, Writer.opened custom.2)

section Walk

variable {ν : Type} [NameSource ν]

/-- Carries out a recipe. Nothing comes of it where nothing comes of an operand. -/
def Recipe.runWithin
    {α : Type}
    (operand : Place → BindingLevel → Pass ν → Option (Except Fault (Option String) × Pass ν)) :
    Recipe Place α → Pass ν → Option (Except Fault α × Pass ν)
  | .done result, pass => some (.ok result, pass)
  | .fail fault, pass => some (.error fault, pass)
  | .operand place allowed next, pass => do
      let (answer, pass) ← operand place allowed pass
      (next answer).runWithin operand pass
  | .helper name template next, pass =>
      let (answer, pass) := pass.helper name template
      (next answer).runWithin operand pass
  | .identifier name next, pass =>
      let (answer, pass) := pass.identify name
      (next answer).runWithin operand pass

/-- Writes what is plugged in at a place, fit for that level, where `write` writes blocks. -/
def Place.writeBy
    (write : Block → Pass ν → Option (Except Fault Code × Pass ν))
    (place : Place)
    (allowed : BindingLevel)
    (pass : Pass ν) : Option (Except Fault (Option String) × Pass ν) :=
  match place.held? with
  | none => some (.ok none, pass)
  | some child => do
      let (result, pass) ← write child pass
      let value := result >>= Code.asValue child.blockType
      return (value.map fun value => some (value.operand allowed), pass)

namespace OpenCustoms

/-- The open writer that was registered last for a block type, if there is one. -/
def writer?
    (customs : OpenCustoms)
    (blockType : String) : Option OpenWriter :=
  customs.lookup blockType

/-- The recipe of a block: its own writer's, or else that of a math block. -/
def recipe
    (customs : OpenCustoms)
    (block : Block) : Recipe Place Code :=
  match customs.writer? block.blockType with
  | some writer => writer block
  | none => (mathRecipe block).about block

/-- Writes a block, with no more than `depth` blocks under way inside each other. -/
def write
    (customs : OpenCustoms) :
    Nat → Block → Pass ν → Option (Except Fault Code × Pass ν)
  | 0, _, _ => none
  | depth + 1, block, pass =>
      (customs.recipe block).runWithin (Place.writeBy (customs.write depth)) pass

/-- Writes a block that has to be a value. -/
def writeValue
    (customs : OpenCustoms)
    (depth : Nat)
    (block : Block)
    (pass : Pass ν) : Option (Except Fault Value × Pass ν) := do
  let (result, pass) ← customs.write depth block pass
  return (result >>= Code.asValue block.blockType, pass)

/-- Writes the blocks at the top level, up to the first fault. -/
def writeBlocks
    (customs : OpenCustoms)
    (depth : Nat)
    (wrapBareValues : Bool) :
    List Block → Pass ν → Option (Except Fault (List String) × Pass ν)
  | [], pass => some (.ok [], pass)
  | block :: rest, pass => do
      match ← customs.write depth block pass with
      | (.error fault, pass) => return (.error fault, pass)
      | (.ok code, pass) =>
          let (result, pass) ← customs.writeBlocks depth wrapBareValues rest pass
          return (result.map (code.topLines wrapBareValues ++ ·), pass)

end OpenCustoms
end Walk
end MathBlocks
