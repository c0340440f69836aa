import MathBlocks.BindingLevel
import MathBlocks.Fault

/-!
# Pieces of code

What is written for one block: an expression, together with how tightly it binds, or lines that
are complete statements.
-/

namespace MathBlocks

/-- An expression and how tightly it binds. -/
structure Value where
  code : String
  level : BindingLevel
  deriving DecidableEq, Repr

/-- The code of an expression as an operand, in parentheses if `allowed` asks for them. -/
def Value.operand
    (value : Value)
    (allowed : BindingLevel) : String :=
  value.level.enclose value.code allowed

/-- What is written for a block. -/
inductive Code where
  | value (value : Value)
  | statement (lines : List String)
  deriving DecidableEq, Repr

/-- An expression of that level. -/
def Code.expression
    (code : String)
    (level : BindingLevel) : Code :=
  .value ⟨code, level⟩

/-- The expression that a block is written as, which a statement block has none of. -/
def Code.asValue
    (blockType : String) :
    Code → Except Fault Value
  | .value v => .ok v
  | .statement _ => .error (.statementAsValue blockType)

end MathBlocks
