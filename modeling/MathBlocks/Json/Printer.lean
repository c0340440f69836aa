import MathBlocks.Json.Basic
import MathBlocks.Text.Lines

/-!
# Writing JSON

The two layouts of a JSON value: on one line without any space, and over several lines with two
spaces a level. Strings are written with as few escapes as the format allows.
-/

namespace MathBlocks
namespace Json

/-- A hexadecimal digit, in lower case. -/
def hexDigit (n : Nat) : Char :=
  if n < 10 then Char.ofNat (48 + n) else Char.ofNat (87 + n)

/-- A character as it is written in a string literal. -/
def escapeChar (c : Char) : List Char :=
  if c = '\x22' then ['\\', '\x22']
  else if c = '\\' then ['\\', '\\']
  else if c = '\x08' then ['\\', 'b']
  else if c = '\x0c' then ['\\', 'f']
  else if c = '\n' then ['\\', 'n']
  else if c = '\r' then ['\\', 'r']
  else if c = '\t' then ['\\', 't']
  else if c.toNat < 0x20 then
    ['\\', 'u', '0', '0', hexDigit (c.toNat / 16), hexDigit (c.toNat % 16)]
  else [c]

/-- The string literal of a text; half of a surrogate pair stands for what has none. -/
def literal : Option String → String
  | some text => String.ofList (['\x22'] ++ text.toList.flatMap escapeChar ++ ['\x22'])
  | none => "\"\\ud800\""

mutual

/-- A value on one line. -/
def compact : Json → String
  | .null => "null"
  | .bool true => "true"
  | .bool false => "false"
  | .number literal => literal
  | .string text => literal text
  | .array items => "[" ++ ",".intercalate (compactItems items) ++ "]"
  | .object members => "\x7b" ++ ",".intercalate (compactMembers members) ++ "\x7d"
termination_by structural value => value

/-- The items of an array, each on one line. -/
def compactItems : List Json → List String
  | [] => []
  | item :: rest => item.compact :: compactItems rest
termination_by structural items => items

/-- The members of an object, each on one line. -/
def compactMembers : List (Option String × Json) → List String
  | [] => []
  | (name, value) :: rest => (literal name ++ ":" ++ value.compact) :: compactMembers rest
termination_by structural members => members

end

/-- A line end and the indentation of a level. -/
def lineStart (level : Nat) : String :=
  "\n" ++ Text.repeated level "  "

/-- Parts on lines of their own, one level further in, between two brackets. -/
def bracketed
    (opening closing : String)
    (level : Nat)
    (parts : List String) : String :=
  if parts.isEmpty then
    opening ++ closing
  else
    opening ++ lineStart (level + 1) ++ ("," ++ lineStart (level + 1)).intercalate parts
      ++ lineStart level ++ closing

mutual

/-- A value over several lines, from a level of indentation on. -/
def prettyAt
    (level : Nat) :
    Json → String
  | .array items => bracketed "[" "]" level (prettyItems (level + 1) items)
  | .object members => bracketed "\x7b" "\x7d" level (prettyMembers (level + 1) members)
  | value => value.compact
termination_by structural value => value

/-- The items of an array, each over several lines. -/
def prettyItems
    (level : Nat) :
    List Json → List String
  | [] => []
  | item :: rest => item.prettyAt level :: prettyItems level rest
termination_by structural items => items

/-- The members of an object, each over several lines. -/
def prettyMembers
    (level : Nat) :
    List (Option String × Json) → List String
  | [] => []
  | (name, value) :: rest =>
      (literal name ++ ": " ++ value.prettyAt level) :: prettyMembers level rest
termination_by structural members => members

end

/-- A value over several lines. -/
def pretty (value : Json) : String :=
  value.prettyAt 0

end Json
end MathBlocks
