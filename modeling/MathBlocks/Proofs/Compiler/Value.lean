import MathBlocks.Proofs.Compiler.ParseBack
import MathBlocks.Proofs.Emit.Formula

/-!
# The value of what was written

The code that is written for blocks that calculate has the value of the blocks, as long as no
remainder takes apart an operand that is written bare. It cannot have it otherwise: a remainder on
the right of a product is written as the product is whose remainder is taken, and a product below
a remainder as the remainder is that is multiplied.
-/

namespace MathBlocks

open Lua

namespace Compiler

/--
Whether a block is written as an expression that is read in one way only and has the value of a
formula, whatever the power is; both have none where anything is divided by zero.
-/
def Preserves
    (compiler : Compiler NameDirectory)
    (block : Block)
    (formula : Formula) : Prop :=
  ∃ value after parsed,
    compiler.writeValue block = (.ok value, after) ∧
    Parses value.code parsed ∧
    (∀ other, Parses value.code other → other = parsed) ∧
    ∀ power, parsed.value power = formula.value power

/-- A block that stands for a tree whatever the names are is written as a value. -/
theorem Belongs.writeValue_readsAs
    {settings : Settings}
    {compiler : Compiler NameDirectory}
    (h : compiler.Belongs settings)
    (hcustoms : compiler.customs = [])
    {block : Block}
    {tree : Expr}
    (hmeaning : ∀ naming, block.meaning naming = some (.value tree)) :
    ∃ value after,
      compiler.writeValue block = (.ok value, after) ∧
      value.ReadsAs tree := by
  obtain ⟨log, hagrees⟩ := h.writeBlock_agrees hcustoms block
  rw [hmeaning] at hagrees
  cases hwrite : compiler.writeBlock block with
  | mk result after =>
      rw [hwrite] at hagrees
      cases result with
      | error fault =>
          exact hagrees.elim
      | ok code =>
          cases code with
          | statement lines =>
              exact hagrees.1.elim
          | value v =>
              exact ⟨v, after, writeValue_of_writeBlock hwrite, Value.Presents.readsAs hagrees.1⟩

/-- The value of a block is preserved exactly if it is that of the tree regrouped. -/
theorem Belongs.preserves_iff
    {settings : Settings}
    {compiler : Compiler NameDirectory}
    (h : compiler.Belongs settings)
    (hcustoms : compiler.customs = [])
    {block : Block}
    {formula : Formula}
    (hformula : block.formula? = some formula) :
    compiler.Preserves block formula ↔
      ∀ power, formula.tree.regrouped.value power = formula.value power := by
  obtain ⟨value, after, hwrite, parsed, hparses, hunique, _, hbare⟩ :=
    h.writeValue_readsAs hcustoms fun naming => block.meaning_of_formula? naming hformula
  -- what is read is the regrouped tree, parentheses aside
  have hvalue (power) : parsed.value power = formula.tree.regrouped.value power := by
    rw [← hbare, Expr.value_bare]
  constructor
  · rintro ⟨other, _, read, hother, hread, _, hpreserved⟩ power
    rw [hwrite] at hother
    cases hother
    rw [← hvalue, ← hunique read hread]
    exact hpreserved power
  · intro hregrouped
    refine ⟨value, after, parsed, hwrite, hparses, hunique, ?_⟩
    intro power
    rw [hvalue]
    exact hregrouped power

/-- A number block. -/
def numberBlock (text : String) : Block :=
  .node "math_number" [("NUM", text)] .empty

/-- The block of an operator between two blocks. -/
def operatorBlock
    (tag : String)
    (left right : Block) : Block :=
  .node "math_arithmetic" [("OP", tag)] (.plug "A" left (.plug "B" right .empty))

/-- The block of a remainder of two blocks. -/
def remainderBlock (dividend divisor : Block) : Block :=
  .node "math_modulo" [] (.plug "DIVIDEND" dividend (.plug "DIVISOR" divisor .empty))

theorem formula?_numberBlock
    {text : String}
    {whole : Nat}
    (hlt : whole < 2 ^ 53)
    (htext : Numeral.ofChars? (Text.trim text.toList) = some (.finite false whole 0)) :
    (numberBlock text).formula? = some (.whole whole hlt) := by
  have hread : (Tagged.read "math_number" : Except Fault BlockKind) = .ok .number := by
    decide
  have hfield : (Block.node "math_number" [("NUM", text)] .empty).neededField "NUM" = .ok text :=
    rfl
  have hvalue := Formula.ofText?_whole hlt htext
  simp [numberBlock, Block.formula?, hread, BlockKind.formula?, hfield, Except.toOption, hvalue]

theorem formula?_operatorBlock
    {tag : String}
    {operator : ArithmeticOperator}
    (htag : (Tagged.read tag : Except Fault ArithmeticOperator) = .ok operator)
    {left right : Block}
    {first second : Formula}
    (hleft : left.formula? = some first)
    (hright : right.formula? = some second) :
    (operatorBlock tag left right).formula? = some (.operation operator first second) := by
  have hread : (Tagged.read "math_arithmetic" : Except Fault BlockKind) = .ok .arithmetic := by
    decide
  have hfield (inputs : Inputs) :
      ((Block.node "math_arithmetic" [("OP", tag)] inputs).readTag "OP" :
        Except Fault ArithmeticOperator) = .ok operator :=
    htag
  simp [operatorBlock, Block.formula?, hread, BlockKind.formula?, hfield, Except.toOption,
    Inputs.formula?, hleft, hright]

theorem formula?_remainderBlock
    {dividend divisor : Block}
    {first second : Formula}
    (hdividend : dividend.formula? = some first)
    (hdivisor : divisor.formula? = some second) :
    (remainderBlock dividend divisor).formula? = some (.remainder first second) := by
  have hread : (Tagged.read "math_modulo" : Except Fault BlockKind) = .ok .modulo := by
    decide
  simp [remainderBlock, Block.formula?, hread, BlockKind.formula?, Except.toOption, Inputs.formula?,
    hdividend, hdivisor]

/--
After any calls that register no writers, the code that is written for blocks that calculate has
the value of the blocks, if no factor on the right shows a remainder and no divisor of a remainder
is a product, a quotient or a remainder itself.
-/
theorem value_preserved
    (settings : Settings)
    (calls : List Call)
    (hcustoms : ((new settings).after calls).customs = [])
    {block : Block}
    {formula : Formula}
    (hformula : block.formula? = some formula)
    (hkeeps : formula.keepsValue = true) :
    ((new settings).after calls).Preserves block formula :=
  (((belongs_new settings).after calls).preserves_iff hcustoms hformula).mpr fun _ =>
    Formula.value_regrouped hkeeps

/-- A difference as the second term of a sum is written bare and keeps its value. -/
theorem value_preserved_bareDifference :
    ∃ formula,
      (operatorBlock "ADD" (numberBlock "2")
        (operatorBlock "MINUS" (numberBlock "7")
          (remainderBlock (numberBlock "4") (numberBlock "3")))).formula? = some formula ∧
      formula.keepsValue = true ∧
      (new .standard).Preserves
        (operatorBlock "ADD" (numberBlock "2")
          (operatorBlock "MINUS" (numberBlock "7")
            (remainderBlock (numberBlock "4") (numberBlock "3")))) formula := by
  have htwo := @formula?_numberBlock "2" 2 (by decide) (by decide)
  have hseven := @formula?_numberBlock "7" 7 (by decide) (by decide)
  have hfour := @formula?_numberBlock "4" 4 (by decide) (by decide)
  have hthree := @formula?_numberBlock "3" 3 (by decide) (by decide)
  have hminus : (Tagged.read "MINUS" : Except Fault ArithmeticOperator) = .ok .minus := by
    decide
  have hadd : (Tagged.read "ADD" : Except Fault ArithmeticOperator) = .ok .add := by
    decide
  have hremainder := formula?_remainderBlock hfour hthree
  have hformula := formula?_operatorBlock hadd htwo
    (formula?_operatorBlock hminus hseven hremainder)
  exact ⟨_, hformula, rfl, value_preserved .standard [] rfl hformula rfl⟩

/--
A remainder as the second factor of a product, and a product as the divisor of a remainder, are
written bare and lose their value: what comes out is `2 * 7 % 4` and `7 % 2 * 3`.
-/
theorem value_lost :
    (∃ formula,
      (operatorBlock "MULTIPLY" (numberBlock "2")
        (remainderBlock (numberBlock "7") (numberBlock "4"))).formula? = some formula ∧
      (∀ power, formula.value power = some ((2 * (7 % 4) : Nat) : ℚ)) ∧
      ¬ (new .standard).Preserves
        (operatorBlock "MULTIPLY" (numberBlock "2")
          (remainderBlock (numberBlock "7") (numberBlock "4"))) formula) ∧
    ∃ formula,
      (remainderBlock (numberBlock "7")
        (operatorBlock "MULTIPLY" (numberBlock "2") (numberBlock "3"))).formula? = some formula ∧
      (∀ power, formula.value power = some ((7 % (2 * 3) : Nat) : ℚ)) ∧
      ¬ (new .standard).Preserves
        (remainderBlock (numberBlock "7")
          (operatorBlock "MULTIPLY" (numberBlock "2") (numberBlock "3"))) formula := by
  have htwo := @formula?_numberBlock "2" 2 (by decide) (by decide)
  have hseven := @formula?_numberBlock "7" 7 (by decide) (by decide)
  have hfour := @formula?_numberBlock "4" 4 (by decide) (by decide)
  have hthree := @formula?_numberBlock "3" 3 (by decide) (by decide)
  have hmultiply : (Tagged.read "MULTIPLY" : Except Fault ArithmeticOperator) = .ok .multiply := by
    decide
  constructor
  · have hformula := formula?_operatorBlock hmultiply htwo (formula?_remainderBlock hseven hfour)
    have hmeant (power) := Formula.value_multiply (@Formula.value_whole power 2 (by decide))
      (Formula.value_remainder (@Formula.value_whole power 7 (by decide))
        (@Formula.value_whole power 4 (by decide)) (by decide))
    have hread (power) := Formula.value_remainder
      (Formula.value_multiply (@Formula.value_whole power 2 (by decide))
        (@Formula.value_whole power 7 (by decide)))
      (@Formula.value_whole power 4 (by decide)) (by decide)
    refine ⟨_, hformula, hmeant, ?_⟩
    rw [(belongs_new .standard).preserves_iff rfl hformula]
    intro hvalue
    have hlost := hvalue fun base _ => base
    -- the code is that of the remainder of the product, which keeps its value
    rw [Formula.regrouped_factor, Formula.value_regrouped rfl, hread, hmeant] at hlost
    exact absurd (Nat.cast_injective (Option.some.inj hlost)) (by decide)
  · have hformula := formula?_remainderBlock hseven (formula?_operatorBlock hmultiply htwo hthree)
    have hmeant (power) := Formula.value_remainder (@Formula.value_whole power 7 (by decide))
      (Formula.value_multiply (@Formula.value_whole power 2 (by decide))
        (@Formula.value_whole power 3 (by decide))) (by decide)
    have hread (power) := Formula.value_multiply
      (Formula.value_remainder (@Formula.value_whole power 7 (by decide))
        (@Formula.value_whole power 2 (by decide)) (by decide))
      (@Formula.value_whole power 3 (by decide))
    refine ⟨_, hformula, hmeant, ?_⟩
    rw [(belongs_new .standard).preserves_iff rfl hformula]
    intro hvalue
    have hlost := hvalue fun base _ => base
    -- the code is that of the product of the remainder
    rw [Formula.regrouped_divisor, Formula.value_regrouped rfl, hread, hmeant] at hlost
    exact absurd (Nat.cast_injective (Option.some.inj hlost)) (by decide)

end Compiler
end MathBlocks
