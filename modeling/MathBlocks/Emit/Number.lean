import MathBlocks.Block.Basic
import MathBlocks.Decimal.Numeral
import MathBlocks.Decimal.Positional
import MathBlocks.Decimal.Shortest
import MathBlocks.Emit.Recipe
import MathBlocks.Text.Blank

/-!
# Number blocks

A number block holds the text of a numeral. It is written as the shortest decimal for the nearest
number of the 64-bit binary format, in positional notation; numbers too large for the format are
written as infinity, and minus zero as zero.
-/

namespace MathBlocks

/-- The size of a decimal in units of the binary format; `Binary64.limit` or more is infinity. -/
def Binary64.ofDecimal
    (digits : Nat) :
    Int → Nat
  | .ofNat exponent => round (digits * Nat.pow 10 exponent) 1
  | .negSucc k => round digits (Nat.pow 10 (k + 1))

/-- How infinity is written. -/
def infinityValue : Bool → Value
  | false => ⟨"math.huge", .call⟩
  | true => ⟨"-math.huge", .unary⟩

/-- How a finite number of that many units is written. -/
def finiteValue
    (negative : Bool)
    (units : Nat) : Value :=
  let (digits, exponent) := Binary64.shortest units
  let code := String.ofList (positional digits exponent)
  if negative && decide (0 < units) then ⟨"-" ++ code, .unary⟩ else ⟨code, .atomic⟩

/-- How what a numeral denotes is written; what is no number is not written at all. -/
def Numeral.value? : Numeral → Option Value
  | .notANumber => none
  | .infinite negative => some (infinityValue negative)
  | .finite negative digits exponent =>
      let units := Binary64.ofDecimal digits exponent
      if Binary64.limit ≤ units then
        some (infinityValue negative)
      else
        some (finiteValue negative units)

/-- How the text of a number field is written, white space around it aside. -/
def numberValue (text : String) : Except Fault Value :=
  match (Numeral.ofChars? (Text.trim text.toList)).bind Numeral.value? with
  | some value => .ok value
  | none => .error (.badNumber text)

/-- The recipe of a number block. -/
def numberRecipe (block : Block) : Recipe String Code := do
  let text ← Recipe.check (block.neededField "NUM")
  let value ← Recipe.check (numberValue text)
  return .value value

end MathBlocks
