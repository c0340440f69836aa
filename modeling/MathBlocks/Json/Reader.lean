import MathBlocks.Json.Basic
import MathBlocks.Json.Token

/-!
# Reading JSON

Puts the tokens of a text together to a JSON value. The reader keeps the arrays and objects that
are open on a stack, so that values may be nested to any depth.
-/

namespace MathBlocks
namespace Json

/-- An array or object that is open, with what has been read of it (newest first). -/
inductive OpenFrame where
  | array (items : List Json)
  /-- An object with the name of the member whose value is being read. -/
  | object (members : List (Option String × Json)) (name : Option String)

/-- What a reader waits for, above the arrays and objects that are open. -/
inductive ReaderState where
  /-- A value. -/
  | value (stack : List OpenFrame)
  /-- A first item, or the end of the array. -/
  | firstItem (stack : List OpenFrame)
  /-- A first member, or the end of the object. -/
  | firstMember (stack : List OpenFrame)
  /-- The name of a further member. -/
  | member (members : List (Option String × Json)) (stack : List OpenFrame)
  /-- The colon after the name of a member. -/
  | colon (members : List (Option String × Json)) (name : Option String) (stack : List OpenFrame)
  /-- What comes after a complete value. -/
  | after (value : Json) (stack : List OpenFrame)

/-- The step of a reader at a token where a value starts. -/
def valueStep
    (stack : List OpenFrame) :
    Token → Option ReaderState
  | .openObject => some (.firstMember stack)
  | .openArray => some (.firstItem stack)
  | .null => some (.after .null stack)
  | .bool value => some (.after (.bool value) stack)
  | .number literal => some (.after (.number literal) stack)
  | .string text => some (.after (.string text) stack)
  | _ => none

/-- The step of a reader at a token. -/
def readerStep : ReaderState → Token → Option ReaderState
  | .value stack, token => valueStep stack token
  | .firstItem stack, .closeArray => some (.after (.array []) stack)
  | .firstItem stack, token => valueStep (.array [] :: stack) token
  | .firstMember stack, .closeObject => some (.after (.object []) stack)
  | .firstMember stack, .string name => some (.colon [] name stack)
  | .member members stack, .string name => some (.colon members name stack)
  | .colon members name stack, .colon => some (.value (.object members name :: stack))
  | .after value (.array items :: stack), .comma => some (.value (.array (value :: items) :: stack))
  | .after value (.array items :: stack), .closeArray =>
      some (.after (.array (value :: items).reverse) stack)
  | .after value (.object members name :: stack), .comma =>
      some (.member ((name, value) :: members) stack)
  | .after value (.object members name :: stack), .closeObject =>
      some (.after (.object ((name, value) :: members).reverse) stack)
  | _, _ => none

/-- Reads tokens from a state on to the one value that they spell. -/
def readTokens : ReaderState → List Token → Option Json
  | .after value [], [] => some value
  | _, [] => none
  | state, token :: rest =>
      match readerStep state token with
      | some state => readTokens state rest
      | none => none

/-- The JSON value that a text spells. -/
def ofString? (text : String) : Option Json := do
  let tokens ← Token.ofChars? text.toList
  readTokens (.value []) tokens

end Json
end MathBlocks
