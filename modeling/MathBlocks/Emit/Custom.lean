import MathBlocks.Block.Basic
import MathBlocks.Emit.Recipe
import MathBlocks.Text.Lines

/-!
# Blocks beyond math

Block types can be given recipes of their own, which then take the place of the math blocks. Six
ready-made ones cover what a program has around its arithmetic: variables, lists, output, code
taken over as it is, and helpers written by the user.
-/

namespace MathBlocks

/--
A way to write the blocks of one type. What it asks for are the operands of the block that it
writes; an `OpenWriter` may ask about any block.
-/
abbrev Writer := Block → Recipe String Code

/-- The block types with writers of their own, those registered last first. -/
abbrev Customs := List (String × Writer)

/-- The ready-made writers. -/
inductive CustomKind where
  /-- The value of a variable. -/
  | getter
  /-- A list of the values in the slots `ADD0`, `ADD1` and so on. -/
  | list
  /-- A statement that prints a value. -/
  | print
  /-- An expression taken over as it is. -/
  | raw
  /-- Statements taken over as they are. -/
  | lines
  /-- A call of a helper whose lines the block holds. -/
  | helper
  deriving DecidableEq, Repr

namespace CustomKind

/-- All ready-made writers. -/
def all : List CustomKind :=
  [.getter, .list, .print, .raw, .lines, .helper]

/-- The name of a ready-made writer. -/
def name : CustomKind → String
  | .getter => "variable"
  | .list => "list"
  | .print => "print"
  | .raw => "raw"
  | .lines => "lines"
  | .helper => "helper"

/-- The ready-made writer of that name. -/
def ofName? (text : String) : Option CustomKind :=
  all.find? fun kind => kind.name = text

/--
The values in the slots `ADD` followed by `index` and the numbers after it, up to the first slot
with nothing in it; not more than `count` of them.
-/
def items
    (index : Nat) :
    Nat → Recipe String (List String)
  | 0 => .done []
  | count + 1 => do
      match ← Recipe.operand? ("ADD" ++ Nat.repr index) .any with
      | none => return []
      | some item => return item :: (← items (index + 1) count)

/-- The level that a block asks for by name, or the loosest one. -/
def statedLevel (block : Block) : BindingLevel :=
  ((block.fields.text? "ORDER").bind BindingLevel.ofName?).getD .any

/-- A ready-made writer. -/
def writer : CustomKind → Writer
  | .getter, block => do
      let name ← Recipe.check (block.neededField "VAR")
      let identifier ← Recipe.identify name
      return .expression identifier .atomic
  | .list, block => do
      let items ← items 0 block.inputs.toList.length
      return .expression ("\x7b" ++ ", ".intercalate items ++ "\x7d") .call
  | .print, _ => do
      let text ← Recipe.operandOr "TEXT" .any "''"
      return .statement ["print(" ++ text ++ ")"]
  | .raw, block => do
      let code ← Recipe.check (block.neededField "CODE")
      return .expression code (statedLevel block)
  | .lines, block => do
      let code ← Recipe.check (block.neededField "CODE")
      return .statement (Text.splitLines code)
  | .helper, block => do
      let body ← Recipe.check (block.neededField "BODY")
      let name ← Recipe.check (block.neededField "NAME")
      let function ← Recipe.request name (Text.splitLines body)
      let argument ← Recipe.operandOr "ARG" .any ""
      return .expression (function ++ "(" ++ argument ++ ")") .call

end CustomKind
end MathBlocks
