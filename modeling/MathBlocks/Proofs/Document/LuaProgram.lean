import MathBlocks.Document.Decode
import MathBlocks.Proofs.Json.Reading
import MathBlocks.Proofs.Traversal

/-!
# Lua programs come back from their documents

A tool that places helpers itself is given a program as a JSON document. This is how the document is
read: by the names of its members, in any order. Whatever texts are in a program, it is read back.
-/

namespace MathBlocks
namespace Decode

/-- A helper, with `depth` arrays and objects that may be open at once. -/
def helper? : Nat → Json → Option Helper
  | 0, _ => none
  | depth + 1, value => do
      let [logicalName, identifier, lines] ←
        record? ["logical_name", "identifier", "lines"] value | none
      let logicalName ← logicalName >>= Json.text?
      let identifier ← identifier >>= Json.text?
      let lines ← lines >>= items? depth text?
      return ⟨logicalName, identifier, lines⟩

/-- A Lua program. -/
def luaProgram? (value : Json) : Option LuaProgram := do
  let [helpers, lines] ← record? ["helpers", "code"] value | none
  let helpers ← helpers >>= items? (depthLimit - 1) helper?
  let lines ← lines >>= items? (depthLimit - 1) text?
  return ⟨helpers, lines⟩

/-- Texts are read from an array of them, if one may be open. -/
theorem items?_ofTexts
    (depth : Nat)
    (texts : List String) :
    items? (depth + 1) text? (.ofTexts texts) = some texts := by
  show (texts.map Json.ofText).mapM (text? depth) = some texts
  rw [List.mapM_map]
  have htexts := mapM_of_forall fun (text : String) (_ : text ∈ texts) =>
    (rfl : (text? depth ∘ Json.ofText) text = some text)
  rwa [List.map_id'] at htexts

end Decode

/-- A helper as a JSON value. -/
def Helper.toJson (helper : Helper) : Json :=
  .object
    [(some "identifier", .ofText helper.identifier),
     (some "lines", .ofTexts helper.lines),
     (some "logical_name", .ofText helper.logicalName)]

theorem Helper.textual_toJson
    (helper : Helper) :
    helper.toJson.IsTextual :=
  ⟨rfl, rfl, rfl, Json.textual_ofTexts _, rfl, rfl, trivial⟩

/-- A helper is read from what it is written as, if an object and an array may be open. -/
theorem Helper.helper?_toJson
    (depth : Nat)
    (helper : Helper) :
    Decode.helper? (depth + 2) helper.toJson = some helper := by
  have hrecord : Decode.record? ["logical_name", "identifier", "lines"] helper.toJson =
      some [some (.ofText helper.logicalName), some (.ofText helper.identifier),
        some (.ofTexts helper.lines)] := by
    simp [toJson, Decode.record?, Decode.names?, Decode.member?]
  simp only [Decode.helper?, hrecord, Option.bind_eq_bind, Option.bind_some,
    Decode.items?_ofTexts, Json.ofText, Json.text?]
  rfl

namespace LuaProgram

/-- The program that a document holds. -/
def ofDocument? (text : String) : Option LuaProgram :=
  (Json.ofString? text).bind Decode.luaProgram?

theorem textual_toJson
    (lua : LuaProgram) :
    lua.toJson.IsTextual :=
  ⟨rfl, Json.textual_ofTexts _, rfl,
    Json.areTextual_map fun helper _ => helper.textual_toJson, trivial⟩

/-- A program is read from what it is written as. -/
theorem luaProgram?_toJson
    (lua : LuaProgram) :
    Decode.luaProgram? lua.toJson = some lua := by
  have hrecord : Decode.record? ["helpers", "code"] lua.toJson =
      some [some (.array (lua.helpers.map Helper.toJson)), some (.ofTexts lua.lines)] := by
    simp [toJson, Decode.record?, Decode.names?, Decode.member?, Helper.toJson]
  have hhelpers : Decode.items? (Decode.depthLimit - 1) Decode.helper?
      (.array (lua.helpers.map Helper.toJson)) = some lua.helpers := by
    show (lua.helpers.map Helper.toJson).mapM (Decode.helper? 125) = some lua.helpers
    rw [List.mapM_map]
    have hall := mapM_of_forall fun (helper : Helper) (_ : helper ∈ lua.helpers) =>
      helper.helper?_toJson 123
    rwa [List.map_id'] at hall
  have hlines : Decode.items? (Decode.depthLimit - 1) Decode.text? (.ofTexts lua.lines) =
      some lua.lines :=
    Decode.items?_ofTexts 125 lua.lines
  simp only [Decode.luaProgram?, hrecord, Option.bind_eq_bind, Option.bind_some, hhelpers, hlines]
  rfl

/-- The document of a program is read as this program, whatever margin is asked for. -/
theorem ofDocument?_written
    (lua : LuaProgram)
    (margin : Margin) :
    ofDocument? (lua.written .json margin) = some lua := by
  unfold ofDocument? written
  rw [Json.ofString?_pretty_lineFeed lua.textual_toJson]
  exact lua.luaProgram?_toJson

end LuaProgram
end MathBlocks
