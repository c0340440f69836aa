import MathBlocks.Proofs.Emit.Meaning

/-!
# The faults of a program

A program is looked through block by block: a block itself first, then what is plugged into the
slots that a block of its kind looks into, in the order of the kind. What is plugged in has to be a
value, which is looked at last, after the whole block. `Block.visits` lists these visits and
`Visit.fault?` is the fault that is found at one of them; neither knows of code or of names.
-/

namespace MathBlocks

/-- The fault that a block has no text in a field. -/
def Block.fieldFault?
    (block : Block)
    (name : String) : Option Fault :=
  match block.fields.text? name with
  | some _ => none
  | none => some (.missingField block.blockType name)

/-- The fault that a block has no text in a field, or one that its table does not hold. -/
def Block.tagFault?
    (α : Type)
    [Tagged α]
    (block : Block)
    (name : String) : Option Fault :=
  match block.fields.text? name with
  | none => some (.missingField block.blockType name)
  | some text =>
      if text ∈ (Tagged.all : List α).map Tagged.tag then none
      else some (.unknownTag (Tagged.table α) text)

/-- The fault that a block has no text in its number field, or one that denotes no number. -/
def Block.numberFault? (block : Block) : Option Fault :=
  match block.fields.text? "NUM" with
  | none => some (.missingField block.blockType "NUM")
  | some text =>
      match Numeral.ofChars? (Text.trim text.toList) with
      | some (.finite _ _ _) => none
      | some (.infinite _) => none
      | some .notANumber => some (.badNumber text)
      | none => some (.badNumber text)

/-- The fault in the fields of a block of that kind. -/
def BlockKind.ownFault?
    (block : Block) :
    BlockKind → Option Fault
  | .number => block.numberFault?
  | .arithmetic => block.tagFault? ArithmeticOperator "OP"
  | .single | .round | .trig => block.tagFault? MathOperator "OP"
  | .constant => block.tagFault? MathConstant "CONSTANT"
  | .numberProperty => block.tagFault? NumberProperty "PROPERTY"
  | .onList => block.tagFault? ListOperator "OP"
  | .change => block.fieldFault? "VAR"
  | .modulo | .constrain | .randomInt | .randomFloat | .atan2 => none

/-- The fault in a block itself: in its type, or else in its fields. -/
def Block.ownFault? (block : Block) : Option Fault :=
  match block.kind with
  | .ok kind => kind.ownFault? block
  | .error _ => some (.unknownTag .blockType block.blockType)

/-- A point at which a fault can be found. -/
inductive Visit where
  /-- The type and the fields of a block are looked at. -/
  | node (block : Block)
  /-- A block that is plugged in has been looked through, and has to be a value. -/
  | operand (block : Block)

/-- The fault that is found at a visit. -/
def Visit.fault? : Visit → Option Fault
  | .node block => block.ownFault?
  | .operand block =>
      if isStatementType block.blockType then some (.statementAsValue block.blockType) else none

mutual

/-- The visits that a block is looked through by. -/
def Block.visits : Block → List Visit
  | .node blockType fields inputs =>
      .node (.node blockType fields inputs) ::
        match (Tagged.read blockType : Except Fault BlockKind) with
        | .ok kind =>
            (kind.slots (.node blockType fields inputs)).flatMap fun slot => inputs.visits slot
        | .error _ => []

/-- The visits to what is plugged into a slot. -/
def Inputs.visits : Inputs → String → List Visit
  | .empty, _ => []
  | .plug slot child rest, wanted =>
      if slot = wanted then child.visits ++ [.operand child] else rest.visits wanted

end

/-- The visits that a program is looked through by, block by block. -/
def Program.visits (program : Program) : List Visit :=
  program.blocks.flatMap Block.visits

mutual

/-- A block without anything in the slots that a block of its kind does not look into. -/
def Block.pruned : Block → Block
  | .node blockType fields inputs =>
      .node blockType fields <|
        match (Tagged.read blockType : Except Fault BlockKind) with
        | .ok kind => inputs.pruned (kind.slots (.node blockType fields inputs))
        | .error _ => .empty

/-- What is plugged into these slots, itself without anything that is not looked into. -/
def Inputs.pruned : Inputs → List String → Inputs
  | .empty, _ => .empty
  | .plug slot child rest, slots =>
      if slot ∈ slots then .plug slot child.pruned (rest.pruned slots) else rest.pruned slots

end

/-- A program without anything in slots that are not looked into. -/
def Program.pruned (program : Program) : Program where
  blocks := program.blocks.map Block.pruned

/-- The fault of a block lies in its type and fields only, whatever is plugged into it. -/
theorem Block.ownFault?_node
    (blockType : String)
    (fields : Fields)
    (inputs others : Inputs) :
    (Block.node blockType fields inputs).ownFault? =
      (Block.node blockType fields others).ownFault? := by
  simp only [Block.ownFault?, Block.kind, Block.blockType]
  cases (Tagged.read blockType : Except Fault BlockKind) with
  | ok kind =>
      cases kind <;> rfl
  | error fault =>
      rfl

/-- The slots that a block looks into do not depend on what is plugged into it. -/
theorem BlockKind.slots_node
    (kind : BlockKind)
    (blockType : String)
    (fields : Fields)
    (inputs others : Inputs) :
    kind.slots (.node blockType fields inputs) = kind.slots (.node blockType fields others) := by
  cases kind <;> rfl

end MathBlocks
