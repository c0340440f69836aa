import MathBlocks.Block.Basic
import MathBlocks.Emit.Recipe
import MathBlocks.Helper.Math

/-!
# Properties of numbers

The block that asks a question about a number. Most questions are comparisons of a remainder or
of the number itself; whether a number is prime is a question for a helper. Divisibility by a
literal zero, or by nothing, has no answer and is written as `nil`.
-/

namespace MathBlocks

/-- The recipe of a question whether the number can be divided by another one. -/
def divisibleByRecipe (subject : String) : Recipe String Code := do
  match ← Recipe.operand? "DIVISOR" .product with
  | none => return .expression "nil" .atomic
  | some divisor =>
      if divisor = "0" then
        return .expression "nil" .atomic
      else
        return .expression (subject ++ " % " ++ divisor ++ " == 0") .comparison

/-- The recipe of the question that a property asks about the number `subject`. -/
def NumberProperty.recipe
    (subject : String) :
    NumberProperty → Recipe String Code
  | .even => .done (.expression (subject ++ " % 2 == 0") .comparison)
  | .odd => .done (.expression (subject ++ " % 2 == 1") .comparison)
  | .whole => .done (.expression (subject ++ " % 1 == 0") .comparison)
  | .positive => .done (.expression (subject ++ " > 0") .comparison)
  | .negative => .done (.expression (subject ++ " < 0") .comparison)
  | .divisibleBy => divisibleByRecipe subject
  | .prime => do
      let function ← Recipe.request MathHelper.isPrimeName MathHelper.isPrime
      return .expression (function ++ "(" ++ subject ++ ")") .call

/-- The recipe of a question about a number. -/
def propertyRecipe (block : Block) : Recipe String Code := do
  let property : NumberProperty ← Recipe.check (block.readTag "PROPERTY")
  let subject ← Recipe.operandOr "NUMBER_TO_CHECK" .product "0"
  property.recipe subject

end MathBlocks
