import MathBlocks.Emit.Functions
import MathBlocks.Emit.Number
import MathBlocks.Emit.Operators
import MathBlocks.Emit.Properties
import MathBlocks.Emit.Statistics

/-!
# Math blocks

The recipe of every math block, by its kind.
-/

namespace MathBlocks

/-- The recipe of a block that is written as a block of that kind. -/
def BlockKind.recipe
    (block : Block) :
    BlockKind → Recipe String Code
  | .number => numberRecipe block
  | .arithmetic => arithmeticRecipe block
  | .single => functionRecipe block
  | .round => functionRecipe block
  | .trig => functionRecipe block
  | .constant => constantRecipe block
  | .numberProperty => propertyRecipe block
  | .onList => statisticRecipe block
  | .modulo => moduloRecipe
  | .constrain => constrainRecipe
  | .randomInt => randomIntRecipe
  | .randomFloat => randomFloatRecipe
  | .atan2 => angleRecipe
  | .change => changeRecipe block

/-- The recipe of a math block; a block of another type is a fault. -/
def mathRecipe (block : Block) : Recipe String Code := do
  let kind ← Recipe.check block.kind
  kind.recipe block

end MathBlocks
