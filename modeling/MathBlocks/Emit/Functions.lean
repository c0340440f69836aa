import MathBlocks.Block.Basic
import MathBlocks.Emit.Recipe

/-!
# Functions and constants

The blocks that are written as calls of library functions, with the sign change and the power of
ten among them, and the constants. Angles are in degrees in blocks and in radians in the library.
-/

namespace MathBlocks

/-- How a function of one number is written around its operand. -/
structure Frame where
  before : String
  after : String
  /-- The level asked of the operand. -/
  operand : BindingLevel
  /-- The level of the whole. -/
  result : BindingLevel
  deriving DecidableEq, Repr

/-- A frame that is a call, whose argument may be anything. -/
def Frame.call
    (before after : String) : Frame :=
  ⟨before, after, .any, .call⟩

/-- How a function is written around its operand; rounding takes halves up. -/
def MathOperator.frame : MathOperator → Frame
  | .neg => ⟨"-", "", .unary, .unary⟩
  | .pow10 => ⟨"10 ^ ", "", .power, .power⟩
  | .round => ⟨"math.floor(", " + .5)", .sum, .call⟩
  | .abs => .call "math.abs(" ")"
  | .root => .call "math.sqrt(" ")"
  | .ln => .call "math.log(" ")"
  | .log10 => .call "math.log(" ", 10)"
  | .exp => .call "math.exp(" ")"
  | .roundUp => .call "math.ceil(" ")"
  | .roundDown => .call "math.floor(" ")"
  | .sin => .call "math.sin(math.rad(" "))"
  | .cos => .call "math.cos(math.rad(" "))"
  | .tan => .call "math.tan(math.rad(" "))"
  | .asin => .call "math.deg(math.asin(" "))"
  | .acos => .call "math.deg(math.acos(" "))"
  | .atan => .call "math.deg(math.atan(" "))"

/-- What keeps two minus signs apart, which together would start a comment. -/
def MathOperator.gap
    (operator : MathOperator)
    (operand : String) : String :=
  if operator = .neg && operand.toList.head? = some '-' then " " else ""

/-- The recipe of a function of one number. -/
def functionRecipe (block : Block) : Recipe String Code := do
  let operator : MathOperator ← Recipe.check (block.readTag "OP")
  let frame := operator.frame
  let operand ← Recipe.operandOr "NUM" frame.operand "0"
  return .expression (frame.before ++ operator.gap operand ++ operand ++ frame.after) frame.result

/-- How a constant is written. -/
def MathConstant.value : MathConstant → Value
  | .pi => ⟨"math.pi", .call⟩
  | .e => ⟨"math.exp(1)", .call⟩
  | .goldenRatio => ⟨"(1 + math.sqrt(5)) / 2", .product⟩
  | .rootTwo => ⟨"math.sqrt(2)", .call⟩
  | .rootHalf => ⟨"math.sqrt(1 / 2)", .call⟩
  | .infinity => ⟨"math.huge", .call⟩

/-- The recipe of a constant. -/
def constantRecipe (block : Block) : Recipe String Code := do
  let constant : MathConstant ← Recipe.check (block.readTag "CONSTANT")
  return .value constant.value

/-- The recipe of a number held between two bounds; a bound that is not given is infinite. -/
def constrainRecipe : Recipe String Code := do
  let value ← Recipe.operandOr "VALUE" .any "0"
  let low ← Recipe.operandOr "LOW" .any "-math.huge"
  let high ← Recipe.operandOr "HIGH" .any "math.huge"
  return .expression ("math.min(math.max(" ++ value ++ ", " ++ low ++ "), " ++ high ++ ")") .call

/-- The recipe of the angle of a point, in degrees. -/
def angleRecipe : Recipe String Code := do
  let x ← Recipe.operandOr "X" .any "0"
  let y ← Recipe.operandOr "Y" .any "0"
  return .expression ("math.deg(math.atan2(" ++ y ++ ", " ++ x ++ "))") .call

/-- The recipe of a random whole number from a range. -/
def randomIntRecipe : Recipe String Code := do
  let low ← Recipe.operandOr "FROM" .any "0"
  let high ← Recipe.operandOr "TO" .any "0"
  return .expression ("math.random(" ++ low ++ ", " ++ high ++ ")") .call

/-- The recipe of a random number between zero and one. -/
def randomFloatRecipe : Recipe String Code :=
  .done (.expression "math.random()" .call)

end MathBlocks
