import MathBlocks.BindingLevel
import MathBlocks.Proofs.Lua.Lexer

/-!
# The grammar of Lua expressions

The expressions of Lua with the operators on numbers and the comparisons: `^` binds tightest and
associates to the right, then the unary minus, then `*`, `/` and `%`, then `+` and `-`, then the
comparisons; all operators but `^` associate to the left. What a `.` or an argument list may
follow is a name, another such expression or one in parentheses.

`Derives` is the grammar, by the level of the place that an expression stands in. Parentheses are
kept in the tree of an expression, so that its root is what is written outermost.
-/

namespace MathBlocks
namespace Lua

/-- The words that are no names. -/
def keywords : List String :=
  ["and", "break", "do", "else", "elseif", "end", "false", "for", "function", "goto", "if", "in",
   "local", "nil", "not", "or", "repeat", "return", "then", "true", "until", "while"]

mutual

/-- The tree of an expression. -/
inductive Expr where
  | nil
  | numeral (text : String)
  | name (text : String)
  /-- The entry of a table under a name. -/
  | field (table : Expr) (name : String)
  | call (function : Expr) (arguments : Exprs)
  /-- A table of the items listed. -/
  | list (items : Exprs)
  /-- An expression in parentheses. -/
  | group (inner : Expr)
  | negate (operand : Expr)
  | binary (operator : Operator) (left right : Expr)
  deriving DecidableEq

/-- The trees of expressions with commas between them. -/
inductive Exprs where
  | empty
  | more (head : Expr) (tail : Exprs)
  deriving DecidableEq

end

namespace Operator

/-- How tightly an operator binds. -/
def level : Operator → BindingLevel
  | .power => .power
  | .times => .product
  | .over => .product
  | .modulo => .product
  | .plus => .sum
  | .minus => .sum
  | .equal => .comparison
  | .unequal => .comparison
  | .less => .comparison
  | .lessEqual => .comparison
  | .greater => .comparison
  | .greaterEqual => .comparison

/-- The loosest level of a left operand: its own level for operators that associate to the left. -/
def leftLevel : Operator → BindingLevel
  | .power => .call
  | operator => operator.level

/-- The loosest level of a right operand; an exponent may have a minus sign. -/
def rightLevel : Operator → BindingLevel
  | .power => .unary
  | operator => operator.level.tightened

end Operator

namespace Expr

/-- How tightly the root of an expression binds. -/
def level : Expr → BindingLevel
  | .nil => .atomic
  | .numeral _ => .atomic
  | .name _ => .atomic
  | .field _ _ => .call
  | .call _ _ => .call
  | .list _ => .atomic
  | .group _ => .atomic
  | .negate _ => .unary
  | .binary operator _ _ => operator.level

/-- Whether a `.` or an argument list may follow. -/
def isPrefix : Expr → Bool
  | .name _ => true
  | .field _ _ => true
  | .call _ _ => true
  | .group _ => true
  | _ => false

/-- The call of a function of the library for numbers. -/
def math
    (function : String)
    (arguments : Exprs) : Expr :=
  .call (.field (.name "math") function) arguments

end Expr

/-- A single argument. -/
def Exprs.one (argument : Expr) : Exprs :=
  .more argument .empty

/-- Two arguments. -/
def Exprs.two (first second : Expr) : Exprs :=
  .more first (.one second)

mutual

/-- The tokens of an expression that may stand where that level is asked for, with its tree. -/
inductive Derives : BindingLevel → List Token → Expr → Prop
  | nil :
      Derives .atomic [.word "nil"] .nil
  | numeral
      (text : String) :
      Derives .atomic [.numeral text] (.numeral text)
  | name
      {text : String}
      (hname : text ∉ keywords) :
      Derives .atomic [.word text] (.name text)
  | list
      {tokens : List Token}
      {items : Exprs}
      (hitems : DerivesList tokens items) :
      Derives .atomic (.openBrace :: tokens ++ [.closeBrace]) (.list items)
  | group
      {tokens : List Token}
      {inner : Expr}
      (hinner : Derives .any tokens inner) :
      Derives .atomic (.openParen :: tokens ++ [.closeParen]) (.group inner)
  | field
      {tokens : List Token}
      {table : Expr}
      {name : String}
      (htable : Derives .call tokens table)
      (hcallee : table.isPrefix = true)
      (hname : name ∉ keywords) :
      Derives .call (tokens ++ [.dot, .word name]) (.field table name)
  | call
      {tokens others : List Token}
      {function : Expr}
      {arguments : Exprs}
      (hfunction : Derives .call tokens function)
      (hcallee : function.isPrefix = true)
      (harguments : DerivesList others arguments) :
      Derives .call (tokens ++ .openParen :: others ++ [.closeParen])
        (.call function arguments)
  | negate
      {tokens : List Token}
      {operand : Expr}
      (hoperand : Derives .unary tokens operand) :
      Derives .unary (.operator .minus :: tokens) (.negate operand)
  | binary
      (operator : Operator)
      {tokens others : List Token}
      {left right : Expr}
      (hleft : Derives operator.leftLevel tokens left)
      (hright : Derives operator.rightLevel others right) :
      Derives operator.level (tokens ++ .operator operator :: others)
        (.binary operator left right)
  | loosen
      {level allowed : BindingLevel}
      {tokens : List Token}
      {tree : Expr}
      (htree : Derives level tokens tree)
      (hle : level ≤ allowed) :
      Derives allowed tokens tree

/-- The tokens of any number of expressions with commas between them, with their trees. -/
inductive DerivesList : List Token → Exprs → Prop
  | empty :
      DerivesList [] .empty
  | one
      {tokens : List Token}
      {tree : Expr}
      (htree : Derives .any tokens tree) :
      DerivesList tokens (.more tree .empty)
  | more
      {tokens others : List Token}
      {tree next : Expr}
      {rest : Exprs}
      (htree : Derives .any tokens tree)
      (hrest : DerivesList others (.more next rest)) :
      DerivesList (tokens ++ .comma :: others) (.more tree (.more next rest))

end

/-- The root of an expression binds as tightly as its place asks. -/
theorem Derives.level_le
    {level : BindingLevel}
    {tokens : List Token}
    {tree : Expr} :
    Derives level tokens tree → tree.level ≤ level
  | .nil => BindingLevel.le_refl _
  | .numeral _ => BindingLevel.le_refl _
  | .name _ => BindingLevel.le_refl _
  | .list _ => BindingLevel.le_refl _
  | .group _ => BindingLevel.le_refl _
  | .field _ _ _ => BindingLevel.le_refl _
  | .call _ _ _ => BindingLevel.le_refl _
  | .negate _ => BindingLevel.le_refl _
  | .binary _ _ _ => BindingLevel.le_refl _
  | .loosen htree hle => BindingLevel.le_trans htree.level_le hle

/-- Whether a text is one complete expression, with that tree. -/
def Parses
    (code : String)
    (tree : Expr) : Prop :=
  ∃ tokens, lex code = some tokens ∧ Derives .any tokens tree

end Lua
end MathBlocks
