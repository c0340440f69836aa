import MathBlocks.Block.Basic
import MathBlocks.Json.Reader
import MathBlocks.Lua.Program

/-!
# Reading documents

Reads programs, blocks, settings and output formats from JSON. A record is written as an object of
its members or as an array of them in order. In an object, members with other names are passed
over, and a member that is written twice is refused; in an array, members that may be left out may
be missing at the end. Arrays and objects that belong to what is read may be nested to a limited
depth, while what is passed over may have any depth.
-/

namespace MathBlocks
namespace Decode

/-- How many arrays and objects of a document may be open at once. -/
def depthLimit : Nat := 127

/-- The names of members; a name that has no text is refused. -/
def names? (members : List (Option String × Json)) : Option (List (String × Json)) :=
  members.mapM fun member => member.1.map fun name => (name, member.2)

/-- The value of the member of that name, if there is one; two are refused. -/
def member?
    (members : List (String × Json))
    (name : String) : Option (Option Json) :=
  match members.filter fun member => member.1 = name with
  | [] => some none
  | [member] => some (some member.2)
  | _ => none

/-- The values of the members of a record, in the order of their `names`. -/
def record?
    (names : List String) :
    Json → Option (List (Option Json))
  | .object members => do
      let members ← names? members
      names.mapM (member? members)
  | .array items =>
      if items.length ≤ names.length then
        some (items.map some ++ List.replicate (names.length - items.length) none)
      else
        none
  | _ => none

/-- The items of an array, inside of which `depth` more may be open. -/
def items?
    {α : Type}
    (depth : Nat)
    (read? : Nat → Json → Option α) :
    Json → Option (List α)
  | .array items =>
      match depth with
      | 0 => none
      | depth + 1 => items.mapM (read? depth)
  | _ => none

/-- The members of an object, inside of which `depth` more may be open. -/
def entries?
    {α : Type}
    (depth : Nat)
    (read? : Nat → Json → Option α) :
    Json → Option (List (String × α))
  | .object members =>
      match depth with
      | 0 => none
      | depth + 1 => do
          let members ← names? members
          members.mapM fun member => (read? depth member.2).map fun entry => (member.1, entry)
  | _ => none

/-- The value of a member that may be left out. -/
def orElse
    {α : Type}
    (standIn : α)
    (read? : Json → Option α) :
    Option Json → Option α
  | none => some standIn
  | some value => read? value

/-- A text. -/
def text? : Nat → Json → Option String
  | _, value => value.text?

mutual

/-- A block, with `depth` arrays and objects that may be open at once. -/
def block? : Nat → Json → Option Block
  | 0, _ => none
  | depth + 1, value => do
      let [blockType, fields, inputs] ← record? ["type", "fields", "inputs"] value | none
      let blockType ← blockType >>= Json.text?
      let fields ← orElse [] (entries? depth text?) fields
      let inputs ← inputs? depth inputs
      return .node blockType (Fields.ofList fields) (Inputs.ofList inputs)
termination_by structural depth => depth

/-- The inputs of a block, which may be left out. -/
def inputs? : Nat → Option Json → Option (List (String × Block))
  | _, none => some []
  | depth + 1, some (.object members) => do
      let members ← names? members
      members.mapM fun member => (block? depth member.2).map fun child => (member.1, child)
  | _, some _ => none
termination_by structural depth => depth

end

/-- A program. -/
def program? (value : Json) : Option Program := do
  let [blocks] ← record? ["blocks"] value | none
  let blocks ← orElse [] (items? (depthLimit - 1) block?) blocks
  return ⟨blocks⟩

/-- A whole number below `2 ^ 64`, spelled without sign, point and exponent. -/
def size? : Json → Option Nat
  | .number literal =>
      if literal.toList.all Char.isDigit then
        let n := literal.toList.foldl (fun n c => 10 * n + (c.toNat - 48)) 0
        if n < Nat.pow 2 64 then some n else none
      else
        none
  | _ => none

/-- A style of indentation. -/
def indent? : Json → Option Indent
  | .string (some "Tabs") => some .tab
  | .object [(some "Tabs", .null)] => some .tab
  | .object [(some "Spaces", count)] => (size? count).map .spaces
  | _ => none

/-- A choice between two. -/
def bool? : Json → Option Bool
  | .bool value => some value
  | _ => none

/-- Settings; what is left out is as in the standard settings. -/
def settings? (value : Json) : Option Settings := do
  let [indent, reservedWords, wrapBareValues] ←
    record? ["indent_style", "reserved_words", "wrap_naked_values"] value | none
  let indent ← orElse Settings.standard.indent indent? indent
  let reservedWords ←
    orElse Settings.standard.reservedWords (items? (depthLimit - 1) text?) reservedWords
  let wrapBareValues ← orElse Settings.standard.wrapBareValues bool? wrapBareValues
  return ⟨indent, reservedWords, wrapBareValues⟩

/-- A format for programs. -/
def format? : Json → Option ProgramFormat
  | .string (some "Text") => some .text
  | .string (some "Json") => some .json
  | .object [(some "Text", .null)] => some .text
  | .object [(some "Json", .null)] => some .json
  | _ => none

end Decode

/-- The program that a text holds. -/
def Program.ofString? (text : String) : Option Program :=
  (Json.ofString? text).bind Decode.program?

/-- The settings that a text holds. -/
def Settings.ofString? (text : String) : Option Settings :=
  (Json.ofString? text).bind Decode.settings?

end MathBlocks
