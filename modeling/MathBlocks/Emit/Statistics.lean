import MathBlocks.Block.Basic
import MathBlocks.Emit.Recipe
import MathBlocks.Helper.Math

/-!
# Statistics of lists

The block that computes a number from a list. Every statistic is a helper; the mean and the
standard deviation call the sum, which is therefore asked for first.
-/

namespace MathBlocks

/-- The recipe of the identifier of the helper for a statistic. -/
def ListOperator.helperRecipe : ListOperator → Recipe String String
  | .sum => Recipe.request MathHelper.sumName MathHelper.sum
  | .min => Recipe.request MathHelper.minName MathHelper.min
  | .max => Recipe.request MathHelper.maxName MathHelper.max
  | .average => do
      let sum ← Recipe.request MathHelper.sumName MathHelper.sum
      Recipe.request MathHelper.averageName (MathHelper.average sum)
  | .median => Recipe.request MathHelper.medianName MathHelper.median
  | .mode => Recipe.request MathHelper.modesName MathHelper.modes
  | .standardDeviation => do
      let sum ← Recipe.request MathHelper.sumName MathHelper.sum
      Recipe.request MathHelper.standardDeviationName (MathHelper.standardDeviation sum)
  | .random => Recipe.request MathHelper.randomListName MathHelper.randomList

/-- The recipe of a statistic; no list is an empty list. -/
def statisticRecipe (block : Block) : Recipe String Code := do
  let operator : ListOperator ← Recipe.check (block.readTag "OP")
  let list ← Recipe.operandOr "LIST" .any "\x7b\x7d"
  let function ← operator.helperRecipe
  return .expression (function ++ "(" ++ list ++ ")") .call

end MathBlocks
