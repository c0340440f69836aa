import MathBlocks.Block.Basic
import MathBlocks.Json.Printer
import MathBlocks.Settings

/-!
# Writing documents

Writes programs, blocks and settings as JSON. Fields and slots come in the order of their names,
and are left out where a block has none.
-/

namespace MathBlocks

mutual

/-- A block as a JSON value. -/
def Block.toJson : Block → Json
  | .node blockType fields inputs =>
      .object <|
        [(some "type", .ofText blockType)]
          ++ (if fields.isEmpty then []
              else [(some "fields",
                .object (fields.map fun field => (some field.1, .ofText field.2)))])
          ++ (match inputs.toMembers with
              | [] => []
              | members => [(some "inputs", .object members)])

/-- The blocks plugged in as the members of a JSON object. -/
def Inputs.toMembers : Inputs → List (Option String × Json)
  | .empty => []
  | .plug slot child rest => (some slot, child.toJson) :: rest.toMembers

end

/-- A program as a JSON value. -/
def Program.toJson (program : Program) : Json :=
  .object [(some "blocks", .array (program.blocks.map Block.toJson))]

/-- The text of a program as a document. -/
def Program.document (program : Program) : String :=
  program.toJson.pretty

/-- A style of indentation as a JSON value. -/
def Indent.toJson : Indent → Json
  | .spaces count => .object [(some "Spaces", .ofNat count)]
  | .tab => .ofText "Tabs"

/-- Settings as a JSON value. -/
def Settings.toJson (settings : Settings) : Json :=
  .object
    [(some "indent_style", settings.indent.toJson),
     (some "reserved_words", .ofTexts settings.reservedWords),
     (some "wrap_naked_values", .bool settings.wrapBareValues)]

end MathBlocks
