import MathBlocks.Text.Lines

/-!
# Settings

What the user can choose about the code that is written: the indentation inside helper functions,
words to keep off, and whether a value that stands by itself is made a statement.
-/

namespace MathBlocks

/-- One level of indentation. -/
inductive Indent where
  | spaces (count : Nat)
  | tab
  deriving DecidableEq, Repr

namespace Indent

/-- One level of indentation, written out. -/
def unit : Indent → String
  | .spaces count => Text.repeated count " "
  | .tab => "\t"

/--
A line indented by two spaces a level, indented in this style instead. A single space left over
stays one space.
-/
def apply
    (indent : Indent)
    (line : String) : String :=
  let blanks := (line.toList.takeWhile (· = ' ')).length
  let body := String.ofList (line.toList.dropWhile (· = ' '))
  Text.repeated (blanks / 2) indent.unit ++ Text.repeated (blanks % 2) " " ++ body

end Indent

/-- The choices for the code that is written. -/
structure Settings where
  /-- The indentation inside helper functions. -/
  indent : Indent
  /-- Words that are not used as names, beyond those of the language. -/
  reservedWords : List String
  /-- Whether a value at the top level is assigned to a name that is not used. -/
  wrapBareValues : Bool
  deriving DecidableEq, Repr

/-- Two spaces, no further words, bare values made statements. -/
def Settings.standard : Settings where
  indent := .spaces 2
  reservedWords := []
  wrapBareValues := true

end MathBlocks
