import MathBlocks.Proofs.Helper.Scope
import MathBlocks.Proofs.Lua.Script.Execution

/-!
# What helpers do

The text of a helper defines a function, which is run on exact numbers and lists. Many of the
functions take a list and look first whether it is empty.
-/

namespace MathBlocks

open Lua Script

/-- Whether the text of a helper is read as this function under the identifier of the helper. -/
def Helper.Defines
    (helper : Helper)
    (function : Script.Function) : Prop :=
  Script.Function.ofText? helper.text = some function ∧ function.name = helper.identifier

namespace MathHelper

/--
Whether a function with these parameters and body is read as a definition, and its body has no place
for the identifier of the helper, as it has not one letter that is in such a place.
-/
def IsReadAs
    (parameters : String)
    (body : List String)
    (definition : List String × Body) : Prop :=
  definition? parameters body = some definition ∧
  Text.cutFrom helperPlaceholder.toList 0
      ("function " ++ helperPlaceholder ++ "(" ++ parameters ++ ")").toList =
    ("function ".toList, [("(" ++ parameters ++ ")").toList]) ∧
  ∀ line ∈ body, 'F' ∉ line.toList

instance
    (parameters : String)
    (body : List String)
    (definition : List String × Body) :
    Decidable (IsReadAs parameters body definition) :=
  inferInstanceAs (Decidable (_ ∧ _ ∧ _))

/-- The text of such a helper is read with its identifier for the name of the function. -/
theorem IsReadAs.defines
    {name identifier parameters : String}
    {body : List String}
    {definition : List String × Body}
    (h : IsReadAs parameters body definition)
    (hproper : Identifier.IsIdentifier identifier.toList)
    (hkeyword : identifier ∉ keywords)
    (indent : Indent) :
    Helper.Defines
      ⟨name, identifier, (function parameters body).map (HelperTable.fillLine indent identifier)⟩
      ⟨identifier, definition.1, definition.2⟩ := by
  obtain ⟨hdefinition, hparameters, hbody⟩ := h
  have hreplace : ∀ line ∈ body, Text.replaceWord helperPlaceholder identifier line = line :=
    fun line hline => HelperTable.replaceWord_of_not_mem (by decide) (hbody line hline) identifier
  exact ⟨ofText?_function hproper hkeyword hparameters hreplace indent hdefinition, rfl⟩

/-- The entries of the list that a helper is given. -/
def entriesTerms : Terms :=
  .ofList [.call (.name "ipairs") (.ofList [.name "t"])]

/-- Whether an entry is a number. -/
def numberTerm : Term :=
  .binary (.operator .equal) (.call (.name "type") (.ofList [.name "v"])) (.string "number")

section Lists

variable {functions : String → Option Behaviour} {locals : Locals} {tables : Tables}
variable {list : Script.Value} {items : List Datum}
variable (hname : locals.lookup "t" = some list)
variable (hlist : (listed list).run tables = .ok (items, tables))
include hname hlist

theorem lengthTerm_gives :
    lengthTerm.Gives functions locals tables (number items.length) :=
  (Term.gives_name hname).length hlist

theorem emptyTerm_asks :
    emptyTerm.Asks functions locals tables (items = []) := by
  refine ((lengthTerm_gives hname hlist).asks_equal Term.gives_zero).congr ?_
  rw [Nat.cast_eq_zero, List.length_eq_zero_iff]

end Lists

/-- The type of an entry says whether it is a number. -/
theorem numberTerm_asks
    {functions : String → Option Behaviour}
    {locals : Locals}
    {tables : Tables}
    {item : Datum}
    (hname : locals.lookup "v" = some (some item))
    (hfree : locals.lookup "type" = none) :
    numberTerm.Asks functions locals tables (item.isNumber = true) := by
  have htype : (Term.call (.name "type") (.ofList [.name "v"])).Gives functions locals tables
      (some (.string item.typeName)) :=
    Term.Gives.call (Term.path?_name hfree) rfl (Term.gives_name hname).single rfl
  exact (htype.asks_same (Term.gives_string "number") (by simp)).congr
    (by simp [item.typeName_eq_number_iff])

end MathHelper
end MathBlocks
