/-!
# JSON values

The values of the JSON format as they are written: numbers keep their spelling, objects keep the
order of their members and members that are written twice. A string literal may name half of a
surrogate pair; such a literal is legal but has no text.
-/

namespace MathBlocks

/-- A JSON value. -/
inductive Json where
  | null
  | bool (value : Bool)
  /-- A number, by its spelling. -/
  | number (literal : String)
  /-- A string, by its text if it has one. -/
  | string (text : Option String)
  | array (items : List Json)
  /-- An object; the name of a member is a string literal too. -/
  | object (members : List (Option String × Json))

namespace Json

/-- A string with a text. -/
def ofText (text : String) : Json :=
  .string (some text)

/-- An array of strings. -/
def ofTexts (texts : List String) : Json :=
  .array (texts.map ofText)

/-- A whole number. -/
def ofNat (n : Nat) : Json :=
  .number (Nat.repr n)

/-- The text of a string, if the value is one and has one. -/
def text? : Json → Option String
  | .string text => text
  | _ => none

end Json
end MathBlocks
