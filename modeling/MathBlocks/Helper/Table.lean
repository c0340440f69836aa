import MathBlocks.Names.Source
import MathBlocks.Settings
import MathBlocks.Text.Substitution

/-!
# Helper functions

Some blocks need a function of their own, which is written once for all blocks that call it. A
helper is asked for by a logical name and a template of its lines; the first request decides its
identifier and its lines, later ones only get the identifier.
-/

namespace MathBlocks

/-- The word that stands for the identifier of the helper in its template. -/
def helperPlaceholder : String :=
  "\x7b%FUNCTION_NAME%\x7d"

/-- A helper function as it is written. -/
structure Helper where
  /-- The name that it is asked for by. -/
  logicalName : String
  /-- The name that it is called by. -/
  identifier : String
  /-- Its lines. -/
  lines : List String
  deriving DecidableEq, Repr

/-- The lines of a helper, with line feeds between them. -/
def Helper.text (helper : Helper) : String :=
  "\n".intercalate helper.lines

/-- The helpers asked for so far, in the order of their first requests. -/
structure HelperTable where
  indent : Indent
  helpers : List Helper
  deriving DecidableEq, Repr

namespace HelperTable

/-- A table with no helpers. -/
def empty (indent : Indent) : HelperTable where
  indent := indent
  helpers := []

/-- The helper of a logical name. -/
def find?
    (table : HelperTable)
    (name : String) : Option Helper :=
  table.helpers.find? fun helper => helper.logicalName = name

/-- The identifier of the helper of a logical name. -/
def identifier?
    (table : HelperTable)
    (name : String) : Option String :=
  (table.find? name).map Helper.identifier

/-- A line of a template as it is written in a helper of that identifier. -/
def fillLine
    (indent : Indent)
    (identifier line : String) : String :=
  indent.apply (Text.replaceWord helperPlaceholder identifier line)

/-- The identifier of a helper, which is added to the table if it is not there yet. -/
def request
    {ν : Type}
    [NameSource ν]
    (name : String)
    (template : List String)
    (table : HelperTable)
    (names : ν) : String × HelperTable × ν :=
  match table.find? name with
  | some helper => (helper.identifier, table, names)
  | none =>
      let (identifier, names) := NameSource.invent name names
      let helper : Helper :=
        ⟨name, identifier, template.map (fillLine table.indent identifier)⟩
      (identifier, { table with helpers := table.helpers ++ [helper] }, names)

/-- The table with its helpers taken out. -/
def emptied (table : HelperTable) : HelperTable :=
  { table with helpers := [] }

end HelperTable
end MathBlocks
