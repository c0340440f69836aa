import MathBlocks.Text.Ranges
import MathBlocks.Text.Tables.Lower
import MathBlocks.Text.Tables.Cased

/-!
# Lower-casing

The lower-case form of a text over all of Unicode. Each character has a lower-case form of its
own, and two rules go beyond that: a capital I with a dot becomes an i and a combining dot, and a
capital sigma becomes a final sigma at the end of a word.
-/

namespace MathBlocks
namespace Text

/-- Whether `c` takes part in a case distinction. -/
def isCased (c : Char) : Bool :=
  inRanges casedRanges c

/-- Whether `c` is passed over in the search for a letter with case. -/
def isCaseIgnorable (c : Char) : Bool :=
  inRanges caseIgnorableRanges c

/-- Whether the first character that is not passed over is a letter with case. -/
def meetsCased (text : List Char) : Bool :=
  match text.dropWhile isCaseIgnorable with
  | [] => false
  | c :: _ => isCased c

/-- The lower-case form of a character by itself. -/
def lowerChar (c : Char) : List Char :=
  if c.toNat = 0x130 then
    ['i', Char.ofNat 0x307]
  else
    match lowerRuns.find? fun run =>
        decide (run.1 ≤ c.toNat) && decide (c.toNat ≤ run.2.1)
          && (c.toNat - run.1) % run.2.2.1 == 0 with
    | some run => [Char.ofNat (c.toNat + run.2.2.2).toNat]
    | none => [c]

/-- The lower-case form of a sigma, by the characters before it (nearest first) and after it. -/
def lowerSigma
    (before after : List Char) : Char :=
  if meetsCased before && !meetsCased after then 'ς' else 'σ'

/-- Lower-cases a text that follows the characters `before` (nearest first). -/
def lowerAfter
    (before : List Char) :
    List Char → List Char
  | [] => []
  | c :: rest =>
      (if c = 'Σ' then [lowerSigma before rest] else lowerChar c) ++ lowerAfter (c :: before) rest

/-- The lower-case form of a text. -/
def lower (text : String) : String :=
  String.ofList (lowerAfter [] text.toList)

end Text
end MathBlocks
