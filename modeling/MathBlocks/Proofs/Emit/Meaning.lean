import MathBlocks.Emit.Math
import MathBlocks.Proofs.Emit.Pass
import MathBlocks.Proofs.Lua.Grammar

/-!
# What a block means

The tree that a block stands for, block by block: each kind of block is a template that is applied
to the trees of its operands. Nothing here knows of code, of levels or of parentheses. Helpers and
variables stand in the trees with the identifiers of a naming. `Block.requests` lists the helpers
that a block and its operands ask for, each time they do.
-/

namespace MathBlocks

open Lua (Expr Exprs)

/-- What a block stands for: an expression, or an assignment to a variable. -/
inductive Meaning where
  | value (tree : Expr)
  | assignment (identifier : String) (tree : Expr)
  deriving DecidableEq

/-- The tree of an expression, which an assignment has none of. -/
def Meaning.tree? : Meaning → Option Expr
  | .value tree => some tree
  | .assignment _ _ => none

/-- The trees of the operands by slot; `some none` is a slot with nothing plugged into it. -/
abbrev Operands := String → Option (Option Expr)

/-- The tree of an operand, or the one that stands in for it if nothing is plugged in. -/
def Operands.orElse
    (operands : Operands)
    (slot : String)
    (standIn : Expr) : Option Expr :=
  (operands slot).map fun tree => tree.getD standIn

namespace Tree

/-- The number zero. -/
def zero : Expr :=
  .numeral "0"

/-- Infinity. -/
def huge : Expr :=
  .field (.name "math") "huge"

/-- A tree, or what a minus sign makes of it. -/
def signed
    (negative : Bool)
    (tree : Expr) : Expr :=
  if negative then .negate tree else tree

/-- A finite number of that many units; zero has no sign. -/
def finite
    (negative : Bool)
    (units : Nat) : Expr :=
  let (digits, exponent) := Binary64.shortest units
  signed (negative && decide (0 < units)) (.numeral (String.ofList (positional digits exponent)))

/-- The number that a numeral denotes. -/
def ofNumeral? : Numeral → Option Expr
  | .notANumber => none
  | .infinite negative => some (signed negative huge)
  | .finite negative digits exponent =>
      let units := Binary64.ofDecimal digits exponent
      if Binary64.limit ≤ units then
        some (signed negative huge)
      else
        some (finite negative units)

/-- The number that the text of a number field denotes. -/
def ofText? (text : String) : Option Expr :=
  (Numeral.ofChars? (Text.trim text.toList)).bind ofNumeral?

end Tree

/-- The operator of an operator block. -/
def ArithmeticOperator.operator : ArithmeticOperator → Lua.Operator
  | .add => .plus
  | .minus => .minus
  | .multiply => .times
  | .divide => .over
  | .power => .power

/-- A function of one number applied to a tree; rounding takes halves up, angles are in degrees. -/
def MathOperator.tree
    (operand : Expr) :
    MathOperator → Expr
  | .neg => .negate operand
  | .pow10 => .binary .power (.numeral "10") operand
  | .round => .math "floor" (.one (.binary .plus operand (.numeral ".5")))
  | .abs => .math "abs" (.one operand)
  | .root => .math "sqrt" (.one operand)
  | .ln => .math "log" (.one operand)
  | .log10 => .math "log" (.two operand (.numeral "10"))
  | .exp => .math "exp" (.one operand)
  | .roundUp => .math "ceil" (.one operand)
  | .roundDown => .math "floor" (.one operand)
  | .sin => .math "sin" (.one (.math "rad" (.one operand)))
  | .cos => .math "cos" (.one (.math "rad" (.one operand)))
  | .tan => .math "tan" (.one (.math "rad" (.one operand)))
  | .asin => .math "deg" (.one (.math "asin" (.one operand)))
  | .acos => .math "deg" (.one (.math "acos" (.one operand)))
  | .atan => .math "deg" (.one (.math "atan" (.one operand)))

/-- A constant. -/
def MathConstant.tree : MathConstant → Expr
  | .pi => .field (.name "math") "pi"
  | .e => .math "exp" (.one (.numeral "1"))
  | .goldenRatio =>
      .binary .over
        (.binary .plus (.numeral "1") (.math "sqrt" (.one (.numeral "5"))))
        (.numeral "2")
  | .rootTwo => .math "sqrt" (.one (.numeral "2"))
  | .rootHalf => .math "sqrt" (.one (.binary .over (.numeral "1") (.numeral "2")))
  | .infinity => Tree.huge

namespace Tree

/-- The comparison of a remainder of `subject` with a numeral. -/
def remainder
    (subject divisor : Expr)
    (numeral : String) : Expr :=
  .binary .equal (.binary .modulo subject divisor) (.numeral numeral)

/-- Divisibility by what is plugged in; by nothing, or by the number zero, it has no answer. -/
def divisible
    (subject : Expr) :
    Option Expr → Expr
  | none => .nil
  | some divisor => if divisor = zero then .nil else remainder subject divisor "0"

/-- The call of the helper of a logical name. -/
def helper
    (naming : Naming)
    (name : String)
    (argument : Expr) : Option Expr :=
  (naming.ofHelper name).map fun identifier => .call (.name identifier) (.one argument)

end Tree

/-- The question that a property asks about a number. -/
def NumberProperty.tree
    (naming : Naming)
    (operands : Operands)
    (subject : Expr) :
    NumberProperty → Option Expr
  | .even => some (Tree.remainder subject (.numeral "2") "0")
  | .odd => some (Tree.remainder subject (.numeral "2") "1")
  | .whole => some (Tree.remainder subject (.numeral "1") "0")
  | .positive => some (.binary .greater subject Tree.zero)
  | .negative => some (.binary .less subject Tree.zero)
  | .divisibleBy => (operands "DIVISOR").map (Tree.divisible subject)
  | .prime => Tree.helper naming MathHelper.isPrimeName subject

/-- The logical name of the helper that a statistic calls. -/
def ListOperator.helperName : ListOperator → String
  | .sum => MathHelper.sumName
  | .min => MathHelper.minName
  | .max => MathHelper.maxName
  | .average => MathHelper.averageName
  | .median => MathHelper.medianName
  | .mode => MathHelper.modesName
  | .standardDeviation => MathHelper.standardDeviationName
  | .random => MathHelper.randomListName

/-- What a block of that kind stands for, given what its operands do. -/
def BlockKind.meaning
    (naming : Naming)
    (operands : Operands)
    (block : Block) :
    BlockKind → Option Meaning
  | .number => do
      let text ← (block.neededField "NUM").toOption
      let tree ← Tree.ofText? text
      return .value tree
  | .arithmetic => do
      let operator : ArithmeticOperator ← (block.readTag "OP").toOption
      let left ← operands.orElse "A" Tree.zero
      let right ← operands.orElse "B" Tree.zero
      return .value (.binary operator.operator left right)
  | .single | .round | .trig => do
      let operator : MathOperator ← (block.readTag "OP").toOption
      let operand ← operands.orElse "NUM" Tree.zero
      return .value (operator.tree operand)
  | .constant => do
      let constant : MathConstant ← (block.readTag "CONSTANT").toOption
      return .value constant.tree
  | .numberProperty => do
      let property : NumberProperty ← (block.readTag "PROPERTY").toOption
      let subject ← operands.orElse "NUMBER_TO_CHECK" Tree.zero
      let tree ← property.tree naming operands subject
      return .value tree
  | .onList => do
      let operator : ListOperator ← (block.readTag "OP").toOption
      let list ← operands.orElse "LIST" (.list .empty)
      let tree ← Tree.helper naming operator.helperName list
      return .value tree
  | .modulo => do
      let dividend ← operands.orElse "DIVIDEND" Tree.zero
      let divisor ← operands.orElse "DIVISOR" Tree.zero
      return .value (.binary .modulo dividend divisor)
  | .constrain => do
      let value ← operands.orElse "VALUE" Tree.zero
      let low ← operands.orElse "LOW" (.negate Tree.huge)
      let high ← operands.orElse "HIGH" Tree.huge
      return .value (.math "min" (.two (.math "max" (.two value low)) high))
  | .randomInt => do
      let low ← operands.orElse "FROM" Tree.zero
      let high ← operands.orElse "TO" Tree.zero
      return .value (.math "random" (.two low high))
  | .randomFloat => some (.value (.math "random" .empty))
  | .atan2 => do
      let x ← operands.orElse "X" Tree.zero
      let y ← operands.orElse "Y" Tree.zero
      return .value (.math "deg" (.one (.math "atan2" (.two y x))))
  | .change => do
      let name ← (block.neededField "VAR").toOption
      let delta ← operands.orElse "DELTA" Tree.zero
      let identifier ← naming.ofVariable name
      return .assignment identifier (.binary .plus (.name identifier) delta)

mutual

/-- What a block stands for. -/
def Block.meaning
    (naming : Naming) :
    Block → Option Meaning
  | .node blockType fields inputs => do
      let kind : BlockKind ← (Tagged.read blockType : Except Fault BlockKind).toOption
      kind.meaning naming (fun slot => inputs.meaning naming slot) (.node blockType fields inputs)

/-- The tree of what is plugged into a slot, which has to be an expression. -/
def Inputs.meaning
    (naming : Naming) :
    Inputs → String → Option (Option Expr)
  | .empty, _ => some none
  | .plug slot child rest, wanted =>
      if slot = wanted then do
        let meaning ← child.meaning naming
        let tree ← meaning.tree?
        return some tree
      else
        rest.meaning naming wanted

end

/-- The slots that a block of that kind looks into, in its order. -/
def BlockKind.slots
    (block : Block) :
    BlockKind → List String
  | .number | .constant | .randomFloat => []
  | .arithmetic => ["A", "B"]
  | .single | .round | .trig => ["NUM"]
  | .numberProperty =>
      match block.readTag "PROPERTY" with
      | .ok NumberProperty.divisibleBy => ["NUMBER_TO_CHECK", "DIVISOR"]
      | _ => ["NUMBER_TO_CHECK"]
  | .onList => ["LIST"]
  | .modulo => ["DIVIDEND", "DIVISOR"]
  | .constrain => ["VALUE", "LOW", "HIGH"]
  | .randomInt => ["FROM", "TO"]
  | .atan2 => ["X", "Y"]
  | .change => ["DELTA"]

/-- The logical names that a statistic asks for; the mean and the deviation need the sum first. -/
def ListOperator.requests : ListOperator → List String
  | .average => [MathHelper.sumName, MathHelper.averageName]
  | .standardDeviation => [MathHelper.sumName, MathHelper.standardDeviationName]
  | operator => [operator.helperName]

/-- The logical names that a block of that kind asks for itself, after its operands. -/
def BlockKind.requests
    (block : Block) :
    BlockKind → List String
  | .numberProperty =>
      match block.readTag "PROPERTY" with
      | .ok NumberProperty.prime => [MathHelper.isPrimeName]
      | _ => []
  | .onList =>
      match (block.readTag "OP" : Except Fault ListOperator) with
      | .ok operator => operator.requests
      | .error _ => []
  | _ => []

mutual

/-- The logical names that a block asks for, those of its operands first, each time it does. -/
def Block.requests : Block → List String
  | .node blockType fields inputs =>
      match (Tagged.read blockType : Except Fault BlockKind) with
      | .ok kind =>
          (kind.slots (.node blockType fields inputs)).flatMap (fun slot => inputs.requests slot) ++
            kind.requests (.node blockType fields inputs)
      | .error _ => []

/-- The logical names that what is plugged into a slot asks for. -/
def Inputs.requests : Inputs → String → List String
  | .empty, _ => []
  | .plug slot child rest, wanted =>
      if slot = wanted then child.requests else rest.requests wanted

end

end MathBlocks
