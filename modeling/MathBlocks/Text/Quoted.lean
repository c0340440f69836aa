import MathBlocks.Text.Ranges
import MathBlocks.Text.Tables.Hidden

/-!
# Quoted text

How a text is shown inside a message: between quotation marks, on one line, with every character
visible. What cannot be seen is written by its code point, `\u{200b}`.
-/

namespace MathBlocks
namespace Text

/-- Whether `c` has no picture of its own. -/
def isHidden (c : Char) : Bool :=
  inRanges hiddenRanges c

/-- A character as it is shown between quotation marks. -/
def quoteChar (c : Char) : List Char :=
  if c = '\x22' then ['\\', '\x22']
  else if c = '\\' then ['\\', '\\']
  else if c = '\n' then ['\\', 'n']
  else if c = '\r' then ['\\', 'r']
  else if c = '\t' then ['\\', 't']
  else if c = '\x00' then ['\\', '0']
  else if isHidden c then ['\\', 'u', '\x7b'] ++ Nat.toDigits 16 c.toNat ++ ['\x7d']
  else [c]

/-- A text as it is shown in a message. -/
def quote (text : String) : String :=
  String.ofList (['\x22'] ++ text.toList.flatMap quoteChar ++ ['\x22'])

end Text
end MathBlocks
