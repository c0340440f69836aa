import MathBlocks.Helper.Table
import MathBlocks.Json.Printer

/-!
# Lua programs

What a pass over a program of blocks writes: helper functions and the lines of the program. It
can be laid out as text, indented as text by a margin, or given as a JSON document for tools that
place the helpers themselves.
-/

namespace MathBlocks

/-- The helper functions and the lines of a program. -/
structure LuaProgram where
  helpers : List Helper
  lines : List String
  deriving DecidableEq, Repr

/-- What stands before every line of a text. -/
structure Margin where
  level : Nat
  unit : String
  deriving DecidableEq, Repr

namespace Margin

/-- No margin, and two spaces a level. -/
def none : Margin where
  level := 0
  unit := "  "

/-- The margin written out. -/
def text (margin : Margin) : String :=
  Text.repeated margin.level margin.unit

/-- A line behind the margin, with its line feed. -/
def line
    (margin : Margin)
    (line : String) : String :=
  margin.text ++ line ++ "\n"

end Margin

/-- The two ways in which a program is given. -/
inductive ProgramFormat where
  | text
  | json
  deriving DecidableEq, Repr

namespace LuaProgram

/-- The text of a program: the helpers, an empty line between each, two empty lines, the lines. -/
def text (program : LuaProgram) : String :=
  (if program.helpers.isEmpty then ""
   else "\n\n".intercalate (program.helpers.map Helper.text) ++ "\n\n\n")
    ++ Text.endLines program.lines

/-- The lines of helpers behind a margin, with an empty line before each but the first. -/
def helperLines
    (margin : Margin) :
    List Helper → String
  | [] => ""
  | helper :: rest =>
      String.join (helper.lines.map margin.line)
        ++ String.join (rest.map fun helper =>
            "\n" ++ String.join (helper.lines.map margin.line))

/-- The text of a program behind a margin. The empty lines that set helpers apart have none. -/
def indentedText
    (margin : Margin)
    (program : LuaProgram) : String :=
  helperLines margin program.helpers
    ++ (if program.helpers.isEmpty then "" else "\n\n")
    ++ String.join (program.lines.map margin.line)

/-- A program as a JSON value. -/
def toJson (program : LuaProgram) : Json :=
  .object
    [(some "code", .ofTexts program.lines),
     (some "helpers", .array (program.helpers.map fun helper =>
        .object
          [(some "identifier", .ofText helper.identifier),
           (some "lines", .ofTexts helper.lines),
           (some "logical_name", .ofText helper.logicalName)]))]

/-- A program in a format, behind a margin if it is text. -/
def written
    (program : LuaProgram)
    (format : ProgramFormat)
    (margin : Margin) : String :=
  match format with
  | .text => program.indentedText margin
  | .json => program.toJson.pretty ++ "\n"

end LuaProgram
end MathBlocks
