import MathBlocks.Text.Quoted

/-!
# What can be wrong with a block

The reasons for which no code can be written for a block, and how each is reported.
-/

namespace MathBlocks

/-- The closed tables that the texts of a block are looked up in. -/
inductive TagTable where
  | blockType
  | arithmeticOperator
  | mathOperator
  | constant
  | numberProperty
  | listOperator
  deriving DecidableEq, Repr

/-- What the entries of a table are called in a message. -/
def TagTable.description : TagTable → String
  | .blockType => "block type"
  | .arithmeticOperator => "arithmetic operator"
  | .mathOperator => "math operator"
  | .constant => "math constant"
  | .numberProperty => "number property"
  | .listOperator => "list operator"

/-- Why no code can be written for a block. -/
inductive Fault where
  /-- A text that its table does not hold. -/
  | unknownTag (table : TagTable) (text : String)
  /-- A field that a block of its type cannot do without. -/
  | missingField (blockType field : String)
  /-- A number field that denotes no number. -/
  | badNumber (text : String)
  /-- A statement block where a value is asked for. -/
  | statementAsValue (blockType : String)
  deriving DecidableEq, Repr

/-- The report of a fault. -/
def Fault.message : Fault → String
  | .unknownTag table text => "Unrecognized " ++ table.description ++ ": " ++ text
  | .missingField blockType field => "Missing required field: " ++ field ++ " in " ++ blockType
  | .badNumber text => "Invalid number literal: " ++ Text.quote text
  | .statementAsValue blockType =>
      "Expected a value block, got statement block " ++ blockType

end MathBlocks
