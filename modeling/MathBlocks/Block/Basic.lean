import MathBlocks.Tag

/-!
# Blocks

A block has a type, fields with texts, and slots that other blocks are plugged into. Fields and
slots are kept in the order of their names, each name once; `Block.InOrder` says so. A program is
a list of blocks.
-/

namespace MathBlocks

/-- Named texts, by increasing name. -/
abbrev Fields := List (String × String)

mutual

/-- A block with what is plugged into it. -/
inductive Block where
  | node (blockType : String) (fields : Fields) (inputs : Inputs)
  deriving DecidableEq

/-- The blocks plugged into the slots of a block, by increasing name of the slot. -/
inductive Inputs where
  | empty
  | plug (slot : String) (child : Block) (rest : Inputs)
  deriving DecidableEq

end

/-- A program: the blocks at the top level, in order. -/
structure Program where
  blocks : List Block
  deriving DecidableEq

namespace Fields

/-- Adds a field; a field of that name is replaced. -/
def insert
    (name text : String) :
    Fields → Fields
  | [] => [(name, text)]
  | field :: rest =>
      if name < field.1 then (name, text) :: field :: rest
      else if name = field.1 then (name, text) :: rest
      else field :: insert name text rest

/-- Fields from a list in which the last text for a name counts. -/
def ofList (fields : List (String × String)) : Fields :=
  fields.foldl (fun fields field => insert field.1 field.2 fields) []

/-- The text of a field. -/
def text? (fields : Fields) (name : String) : Option String :=
  fields.lookup name

end Fields

namespace Inputs

/-- Plugs a block into a slot; a block that is there already is replaced. -/
def insert
    (slot : String)
    (child : Block) :
    Inputs → Inputs
  | .empty => .plug slot child .empty
  | .plug other held rest =>
      if slot < other then .plug slot child (.plug other held rest)
      else if slot = other then .plug slot child rest
      else .plug other held (insert slot child rest)

/-- Inputs from a list in which the last block for a slot counts. -/
def ofList (inputs : List (String × Block)) : Inputs :=
  inputs.foldl (fun inputs input => insert input.1 input.2 inputs) .empty

/-- The slots in use with what is plugged into them. -/
def toList : Inputs → List (String × Block)
  | .empty => []
  | .plug slot child rest => (slot, child) :: rest.toList

/-- What is plugged into a slot. -/
def block? : Inputs → String → Option Block
  | .empty, _ => none
  | .plug slot child rest, wanted => if slot = wanted then some child else rest.block? wanted

end Inputs

namespace Block

/-- The type of a block. -/
def blockType : Block → String
  | .node blockType _ _ => blockType

/-- The fields of a block. -/
def fields : Block → Fields
  | .node _ fields _ => fields

/-- The inputs of a block. -/
def inputs : Block → Inputs
  | .node _ _ inputs => inputs

/-- What kind of block it is. -/
def kind (block : Block) : Except Fault BlockKind :=
  Tagged.read block.blockType

/-- The text of a field that the block cannot do without. -/
def neededField
    (block : Block)
    (name : String) : Except Fault String :=
  match block.fields.text? name with
  | some text => .ok text
  | none => .error (.missingField block.blockType name)

/-- A field that a block cannot do without and has is one of its fields. -/
theorem text?_of_neededField
    {block : Block}
    {name text : String}
    (h : block.neededField name = .ok text) :
    block.fields.text? name = some text := by
  unfold neededField at h
  split at h
  · rename_i found hfound
    rw [hfound, Except.ok.inj h]
  · cases h

/-- The meaning of a field that the block cannot do without. -/
def readTag
    {α : Type}
    [Tagged α]
    (block : Block)
    (name : String) : Except Fault α :=
  block.neededField name >>= Tagged.read

/-- What is plugged into a slot. -/
def input? (block : Block) (slot : String) : Option Block :=
  block.inputs.block? slot

end Block

/-- Whether names stand in increasing order, which includes that none stands twice. -/
def Increasing (names : List String) : Prop :=
  names.Pairwise (· < ·)

mutual

/-- Whether all fields and slots, at every depth, stand in the order of their names. -/
def Block.InOrder : Block → Prop
  | .node _ fields inputs =>
      Increasing (fields.map Prod.fst) ∧ Increasing (inputs.toList.map Prod.fst) ∧ inputs.InOrder

/-- Whether the fields and slots of all blocks plugged in stand in the order of their names. -/
def Inputs.InOrder : Inputs → Prop
  | .empty => True
  | .plug _ child rest => child.InOrder ∧ rest.InOrder

end

/-- Whether all fields and slots of a program stand in the order of their names. -/
def Program.InOrder (program : Program) : Prop :=
  ∀ block ∈ program.blocks, block.InOrder

end MathBlocks
