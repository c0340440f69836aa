import MathBlocks.Block.Basic
import MathBlocks.Emit.Recipe

/-!
# Operators

The blocks that are written with an operator between two operands, and the block that adds to a
variable. An operand that an operator would regroup is asked for one level tighter: the right one
of a difference or a quotient, the left one of a power. An operator that may be regrouped takes
both operands at its own level, so that a chain of it stays free of parentheses.
-/

namespace MathBlocks

namespace ArithmeticOperator

/-- The operator between its operands. -/
def symbol : ArithmeticOperator → String
  | .add => " + "
  | .minus => " - "
  | .multiply => " * "
  | .divide => " / "
  | .power => " ^ "

/-- How tightly the operator binds. -/
def level : ArithmeticOperator → BindingLevel
  | .add => .sum
  | .minus => .sum
  | .multiply => .product
  | .divide => .product
  | .power => .power

/-- The level asked of the left operand. -/
def leftLevel : ArithmeticOperator → BindingLevel
  | .power => BindingLevel.power.tightened
  | operator => operator.level

/-- The level asked of the right operand. -/
def rightLevel : ArithmeticOperator → BindingLevel
  | .minus => BindingLevel.sum.tightened
  | .divide => BindingLevel.product.tightened
  | operator => operator.level

end ArithmeticOperator

/-- The recipe of an operator between two operands. -/
def arithmeticRecipe (block : Block) : Recipe String Code := do
  let operator : ArithmeticOperator ← Recipe.check (block.readTag "OP")
  let left ← Recipe.operandOr "A" operator.leftLevel "0"
  let right ← Recipe.operandOr "B" operator.rightLevel "0"
  return .expression (left ++ operator.symbol ++ right) operator.level

/-- The recipe of a remainder. -/
def moduloRecipe : Recipe String Code := do
  let dividend ← Recipe.operandOr "DIVIDEND" .product "0"
  let divisor ← Recipe.operandOr "DIVISOR" .product "0"
  return .expression (dividend ++ " % " ++ divisor) .product

/-- The recipe of the statement that adds to a variable. -/
def changeRecipe (block : Block) : Recipe String Code := do
  let name ← Recipe.check (block.neededField "VAR")
  let delta ← Recipe.operandOr "DELTA" .sum "0"
  let identifier ← Recipe.identify name
  return .statement [identifier ++ " = " ++ identifier ++ " + " ++ delta]

end MathBlocks
