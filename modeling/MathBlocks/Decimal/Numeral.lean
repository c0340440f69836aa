/-!
# Numerals

The texts that denote a number: an optional sign and either decimal digits, with an optional
point and an optional exponent, or one of the words `inf`, `infinity` and `nan` in any letter
case. `Numeral.ofChars?` reads such a text into what it denotes.
-/

namespace MathBlocks

/-- What a numeral denotes. -/
inductive Numeral where
  /-- The number `± digits · 10 ^ exponent`. -/
  | finite (negative : Bool) (digits : Nat) (exponent : Int)
  /-- Plus or minus infinity. -/
  | infinite (negative : Bool)
  /-- No number at all. -/
  | notANumber
  deriving DecidableEq, Repr

namespace Numeral

/-- The value of a decimal digit. -/
def digitValue (c : Char) : Nat :=
  c.toNat - '0'.toNat

/-- The number that a sequence of decimal digits denotes. -/
def digitsValue (digits : List Char) : Nat :=
  digits.foldl (fun value c => 10 * value + digitValue c) 0

/-- The bound past which an exponent no longer grows. -/
def exponentBound : Nat := 65536

/--
The number that the digits of an exponent denote. Digits that follow once the value has reached
`exponentBound` are dropped: by then the number is zero or infinite, unless a mantissa of some
sixty-five thousand places makes up for it.
-/
def exponentValue (digits : List Char) : Nat :=
  digits.foldl (fun value c => if value < exponentBound then 10 * value + digitValue c else value) 0

/-- A leading sign, as whether it is a minus, and what follows it. -/
def splitSign : List Char → Bool × List Char
  | '-' :: rest => (true, rest)
  | '+' :: rest => (false, rest)
  | text => (false, text)

/-- Reads an exponent part that takes up the whole text; no text at all means exponent zero. -/
def exponent? : List Char → Option Int
  | [] => some 0
  | c :: rest =>
      let (negative, digits) := splitSign rest
      if (c = 'e' || c = 'E') && !digits.isEmpty && digits.all Char.isDigit then
        let size : Int := exponentValue digits
        some (if negative then -size else size)
      else
        none

/-- Reads digits with an optional point and exponent, as digits and a power of ten. -/
def decimal? (text : List Char) : Option (Nat × Int) :=
  let whole := text.takeWhile Char.isDigit
  let afterWhole := text.dropWhile Char.isDigit
  let (places, rest) :=
    match afterWhole with
    | '.' :: tail => (tail.takeWhile Char.isDigit, tail.dropWhile Char.isDigit)
    | _ => ([], afterWhole)
  if whole.isEmpty && places.isEmpty then
    none
  else
    (exponent? rest).map fun exponent =>
      (digitsValue (whole ++ places), exponent - places.length)

/-- Reads one of the words for infinity and for no number, in any letter case. -/
def word?
    (negative : Bool)
    (text : List Char) : Option Numeral :=
  let letters := text.map Char.toLower
  if letters = ['i', 'n', 'f'] || letters = ['i', 'n', 'f', 'i', 'n', 'i', 't', 'y'] then
    some (.infinite negative)
  else if letters = ['n', 'a', 'n'] then
    some .notANumber
  else
    none

/-- Reads a numeral that takes up the whole text. -/
def ofChars? (text : List Char) : Option Numeral :=
  let (negative, rest) := splitSign text
  match decimal? rest with
  | some (digits, exponent) => some (.finite negative digits exponent)
  | none => word? negative rest

end Numeral
end MathBlocks
