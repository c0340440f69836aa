import MathBlocks.Proofs.Emit.Meaning
import MathBlocks.Proofs.Lua.Value

/-!
# Formulas

The trees of blocks that calculate: numbers, the five operators, remainders and opposites.
`Formula.value` applies each block to the values of its operands, whatever the code looks like.
`Formula.keepsValue` says where the code may be read in another order without a change of the
value: no factor on the right shows a remainder, and no divisor of a remainder is itself a
product, a quotient or a remainder.
-/

namespace MathBlocks

open Lua (Expr)

/-- What a tree of blocks calculates. -/
inductive Formula where
  | number (negative : Bool) (size : Binary64.Finite)
  | operation (operator : ArithmeticOperator) (left right : Formula)
  | remainder (dividend divisor : Formula)
  | opposite (operand : Formula)
  deriving DecidableEq

/-- What an operator block makes of two numbers. -/
def ArithmeticOperator.apply
    (power : ℚ → ℚ → ℚ)
    (left right : ℚ) :
    ArithmeticOperator → Option ℚ
  | .add => some (left + right)
  | .minus => some (left - right)
  | .multiply => some (left * right)
  | .divide => quotient? left right
  | .power => some (power left right)

namespace Formula

def zero : Formula :=
  .number false .zero

/-- The value of a formula; none if it divides by zero anywhere. -/
def value
    (power : ℚ → ℚ → ℚ) :
    Formula → Option ℚ
  | .number true size => some (-Binary64.rational size.units)
  | .number false size => some (Binary64.rational size.units)
  | .operation operator left right => do
      let a ← left.value power
      let b ← right.value power
      operator.apply power a b
  | .remainder dividend divisor => do
      let a ← dividend.value power
      let b ← divisor.value power
      remainder? a b
  | .opposite operand => (operand.value power).map fun value => -value

/-- Whether a remainder is taken in the chain of products that a formula is written as. -/
def showsRemainder : Formula → Bool
  | .remainder _ _ => true
  | .operation .multiply left right => left.showsRemainder || right.showsRemainder
  | .operation .divide left _ => left.showsRemainder
  | _ => false

/-- Whether a formula is a product, a quotient or a remainder. -/
def isProduct : Formula → Bool
  | .remainder _ _ => true
  | .operation .multiply _ _ => true
  | .operation .divide _ _ => true
  | _ => false

/-- Whether no operand that is written bare is taken apart by a remainder. -/
def keepsValue : Formula → Bool
  | .number _ _ => true
  | .operation .multiply left right =>
      left.keepsValue && right.keepsValue && !right.showsRemainder
  | .operation _ left right => left.keepsValue && right.keepsValue
  | .remainder dividend divisor =>
      dividend.keepsValue && divisor.keepsValue && !divisor.isProduct
  | .opposite operand => operand.keepsValue

/-- The tree that a formula stands for. -/
def tree : Formula → Expr
  | .number negative size => Tree.finite negative size.units
  | .operation operator left right => .binary operator.operator left.tree right.tree
  | .remainder dividend divisor => .binary .modulo dividend.tree divisor.tree
  | .opposite operand => .negate operand.tree

end Formula

/-- The operator between the operands of a block does what the block does. -/
theorem ArithmeticOperator.apply_operator
    (power : ℚ → ℚ → ℚ)
    (left right : ℚ)
    (operator : ArithmeticOperator) :
    operator.operator.apply power left right = operator.apply power left right := by
  cases operator <;> rfl

namespace Formula

variable {power : ℚ → ℚ → ℚ}

/-- A number is written as a numeral, with a minus sign or without. -/
theorem tree_number
    (negative : Bool)
    (size : Binary64.Finite) :
    ∃ text,
      Lua.numeralValue? text = some (Binary64.rational size.units) ∧
      (number negative size).tree =
        Tree.signed (negative && decide (0 < size.units)) (.numeral text) :=
  ⟨_, Lua.numeralValue?_shortest size, rfl⟩

theorem value_tree_number
    (negative : Bool)
    (size : Binary64.Finite) :
    (number negative size).tree.value power = (number negative size).value power := by
  obtain ⟨text, hvalue, htree⟩ := tree_number negative size
  rw [htree]
  cases negative with
  | false =>
      simp [Tree.signed, Lua.Expr.value, hvalue, value]
  | true =>
      -- minus zero is written without its sign
      rcases Nat.eq_zero_or_pos size.units with hzero | hpos
      · simp [Tree.signed, Lua.Expr.value, hvalue, value, hzero, Binary64.rational_zero]
      · simp [Tree.signed, Lua.Expr.value, hvalue, value, hpos]

theorem regrouped_tree_number
    (negative : Bool)
    (size : Binary64.Finite) :
    (number negative size).tree.regrouped = (number negative size).tree := by
  obtain ⟨text, _, htree⟩ := tree_number negative size
  rw [htree]
  unfold Tree.signed
  split <;> rfl

/-- The tree of a formula is an operation of the level of products only if the formula is one. -/
theorem level_tree
    {formula : Formula}
    (h : formula.isProduct = false) :
    formula.tree.level ≠ .product := by
  cases formula with
  | number negative size =>
      obtain ⟨text, _, htree⟩ := tree_number negative size
      rw [htree]
      unfold Tree.signed
      split <;> simp [Lua.Expr.level]
  | operation operator left right =>
      revert h
      cases operator <;> simp [isProduct, tree, Lua.Expr.level, Lua.Operator.level,
        ArithmeticOperator.operator]
  | remainder dividend divisor =>
      cases h
  | opposite operand =>
      simp [tree, Lua.Expr.level]

theorem leadsRemainder_of_not_isProduct
    {formula : Formula}
    (h : formula.isProduct = false) :
    formula.tree.regrouped.leadsRemainder = false := by
  apply Lua.Expr.leadsRemainder_of_level_ne
  rw [Lua.Expr.level_regrouped]
  exact level_tree h

/-- Regrouped, the tree of a formula starts with the chain that the formula shows. -/
theorem leadsRemainder_tree
    (formula : Formula) :
    formula.tree.regrouped.leadsRemainder = formula.showsRemainder := by
  induction formula with
  | number negative size =>
      exact leadsRemainder_of_not_isProduct rfl
  | operation operator left right ihleft ihright =>
      cases operator with
      | multiply =>
          rw [showsRemainder, ← ihleft, ← ihright]
          exact Lua.Expr.leadsRemainder_graft rfl left.tree.regrouped right.tree.regrouped
      | divide =>
          exact ihleft
      | _ =>
          exact leadsRemainder_of_not_isProduct rfl
  | remainder dividend divisor _ _ =>
      exact Lua.Expr.leadsRemainder_graft rfl dividend.tree.regrouped divisor.tree.regrouped
  | opposite operand _ =>
      rfl

/-- Where the value is kept, the regrouped tree has the value of the formula. -/
theorem value_regrouped
    {formula : Formula}
    (hkeeps : formula.keepsValue = true) :
    formula.tree.regrouped.value power = formula.value power := by
  induction formula with
  | number negative size =>
      rw [regrouped_tree_number, value_tree_number]
  | operation operator left right ihleft ihright =>
      have hleft : left.keepsValue = true := by
        revert hkeeps
        cases operator <;> simp +contextual [keepsValue]
      have hright : right.keepsValue = true := by
        revert hkeeps
        cases operator <;> simp +contextual [keepsValue]
      have hoperands :
          (Expr.binary operator.operator left.tree.regrouped right.tree.regrouped).value power =
            (operation operator left right).value power := by
        simp [Lua.Expr.value, value, ihleft hleft, ihright hright,
          ArithmeticOperator.apply_operator]
      rw [← hoperands]
      cases operator with
      | add =>
          exact left.tree.regrouped.value_graft_plus right.tree.regrouped
      | multiply =>
          -- the chain of the right factor takes no remainder
          apply left.tree.regrouped.value_graft_times
          rw [leadsRemainder_tree]
          simpa [keepsValue, hleft, hright] using hkeeps
      | _ =>
          rfl
  | remainder dividend divisor ihdividend ihdivisor =>
      simp only [keepsValue, Bool.and_eq_true, Bool.not_eq_true'] at hkeeps
      obtain ⟨⟨hdividend, hdivisor⟩, hproduct⟩ := hkeeps
      -- a divisor of another level stays whole
      have hlevel : divisor.tree.regrouped.level ≠ Lua.Operator.modulo.level := by
        rw [Lua.Expr.level_regrouped]
        exact level_tree hproduct
      have hbare : (remainder dividend divisor).tree.regrouped =
          .binary .modulo dividend.tree.regrouped divisor.tree.regrouped :=
        Lua.Expr.graft_of_level_ne _ hlevel
      rw [hbare]
      simp [Lua.Expr.value, value, ihdividend hdividend, ihdivisor hdivisor, Lua.Operator.apply]
  | opposite operand ih =>
      have hoperand := ih hkeeps
      simp [tree, Lua.Expr.regrouped, Lua.Expr.value, value, hoperand]

/-- A remainder as a factor and the remainder of the product are written alike. -/
theorem regrouped_factor
    (left dividend divisor : Formula) :
    (operation .multiply left (remainder dividend divisor)).tree.regrouped =
      (remainder (operation .multiply left dividend) divisor).tree.regrouped :=
  @Lua.Expr.graft_graft .times .modulo rfl left.tree.regrouped dividend.tree.regrouped
    divisor.tree.regrouped

/-- A product as a divisor and the product of the remainder are written alike. -/
theorem regrouped_divisor
    (dividend left right : Formula) :
    (remainder dividend (operation .multiply left right)).tree.regrouped =
      (operation .multiply (remainder dividend left) right).tree.regrouped :=
  @Lua.Expr.graft_graft .modulo .times rfl dividend.tree.regrouped left.tree.regrouped
    right.tree.regrouped

/-- A whole number of up to 53 binary digits. -/
def whole
    (n : Nat)
    (hlt : n < 2 ^ 53) : Formula :=
  .number false (.whole n hlt)

theorem value_whole
    {n : Nat}
    (hlt : n < 2 ^ 53) :
    (whole n hlt).value power = some (n : ℚ) :=
  congrArg some (Binary64.rational_whole hlt)

theorem value_multiply
    {left right : Formula}
    {m n : Nat}
    (hleft : left.value power = some (m : ℚ))
    (hright : right.value power = some (n : ℚ)) :
    (operation .multiply left right).value power = some ((m * n : Nat) : ℚ) := by
  simp [value, hleft, hright, ArithmeticOperator.apply]

theorem value_remainder
    {dividend divisor : Formula}
    {m n : Nat}
    (hdividend : dividend.value power = some (m : ℚ))
    (hdivisor : divisor.value power = some (n : ℚ))
    (hpos : 0 < n) :
    (remainder dividend divisor).value power = some ((m % n : Nat) : ℚ) := by
  simp [value, hdividend, hdivisor, remainder?_natCast m hpos]

/-- The number that a numeral denotes, if it is finite. -/
def ofNumeral? : Numeral → Option Formula
  | .finite negative digits exponent =>
      (Binary64.Finite.ofDecimal? digits exponent).map (number negative)
  | _ => none

/-- The number that the text of a number field denotes, if it is finite. -/
def ofText? (text : String) : Option Formula :=
  (Numeral.ofChars? (Text.trim text.toList)).bind ofNumeral?

theorem ofText?_whole
    {text : String}
    {whole : Nat}
    (hlt : whole < 2 ^ 53)
    (htext : Numeral.ofChars? (Text.trim text.toList) = some (.finite false whole 0)) :
    ofText? text = some (.whole whole hlt) := by
  have hexact := congrArg (Option.map (number false)) (Binary64.Finite.ofDecimal?_whole hlt)
  rw [Option.map_some] at hexact
  unfold ofText?
  rw [htext, Option.bind_some, ofNumeral?]
  exact hexact

end Formula

/-- What a block of that kind calculates, given what its operands do. -/
def BlockKind.formula?
    (operands : String → Option Formula)
    (block : Block) :
    BlockKind → Option Formula
  | .number => do
      let text ← (block.neededField "NUM").toOption
      Formula.ofText? text
  | .arithmetic => do
      let operator : ArithmeticOperator ← (block.readTag "OP").toOption
      let left ← operands "A"
      let right ← operands "B"
      return .operation operator left right
  | .modulo => do
      let dividend ← operands "DIVIDEND"
      let divisor ← operands "DIVISOR"
      return .remainder dividend divisor
  | .single =>
      match (block.readTag "OP" : Except Fault MathOperator) with
      | .ok .neg => (operands "NUM").map .opposite
      | _ => none
  | _ => none

mutual

/-- What a block calculates, if all blocks that it is made of are such that do. -/
def Block.formula? : Block → Option Formula
  | .node blockType fields inputs => do
      let kind : BlockKind ← (Tagged.read blockType : Except Fault BlockKind).toOption
      kind.formula? (fun slot => inputs.formula? slot) (.node blockType fields inputs)

/-- What is calculated in a slot; where nothing is plugged in, that is zero. -/
def Inputs.formula? : Inputs → String → Option Formula
  | .empty, _ => some .zero
  | .plug slot child rest, wanted =>
      if slot = wanted then child.formula? else rest.formula? wanted

end

theorem Formula.ofNumeral?_tree
    {numeral : Numeral}
    {formula : Formula}
    (h : Formula.ofNumeral? numeral = some formula) :
    Tree.ofNumeral? numeral = some formula.tree := by
  cases numeral with
  | finite negative digits exponent =>
      simp only [Formula.ofNumeral?, Binary64.Finite.ofDecimal?] at h
      split at h
      · rename_i hlt
        cases h
        simp [Tree.ofNumeral?, Formula.tree, hlt]
      · cases h
  | _ =>
      cases h

/-- A block of a kind that calculates stands for the tree of its formula. -/
theorem BlockKind.meaning_of_formula?
    (naming : Naming)
    {operands : String → Option Formula}
    {trees : Operands}
    (hoperands : ∀ slot formula,
      operands slot = some formula → trees.orElse slot Tree.zero = some formula.tree)
    (block : Block)
    {formula : Formula}
    (kind : BlockKind)
    (h : kind.formula? operands block = some formula) :
    kind.meaning naming trees block = some (.value formula.tree) := by
  cases kind with
  | number =>
      simp only [BlockKind.formula?, Option.bind_eq_bind, Option.bind_eq_some_iff,
        Formula.ofText?] at h
      obtain ⟨text, hfield, numeral, hnumeral, hformula⟩ := h
      simp [BlockKind.meaning, hfield, Tree.ofText?, hnumeral, Formula.ofNumeral?_tree hformula]
  | arithmetic =>
      simp only [BlockKind.formula?, Option.bind_eq_bind, Option.bind_eq_some_iff] at h
      obtain ⟨operator, htag, left, hleft, right, hright, hformula⟩ := h
      cases hformula
      simp [BlockKind.meaning, htag, hoperands _ _ hleft, hoperands _ _ hright, Formula.tree]
  | modulo =>
      simp only [BlockKind.formula?, Option.bind_eq_bind, Option.bind_eq_some_iff] at h
      obtain ⟨dividend, hdividend, divisor, hdivisor, hformula⟩ := h
      cases hformula
      simp [BlockKind.meaning, hoperands _ _ hdividend, hoperands _ _ hdivisor, Formula.tree]
  | single =>
      simp only [BlockKind.formula?] at h
      split at h
      · rename_i htag
        obtain ⟨operand, hoperand, hformula⟩ := Option.map_eq_some_iff.mp h
        cases hformula
        have hread : (block.readTag "OP" : Except Fault MathOperator).toOption = some .neg := by
          rw [htag]
          rfl
        simp [BlockKind.meaning, hread, hoperands _ _ hoperand, Formula.tree, MathOperator.tree]
      · cases h
  | _ =>
      cases h

/-- Where nothing is plugged in, the number zero stands in. -/
theorem Formula.tree_zero :
    Formula.zero.tree = Tree.zero := by
  rfl

mutual

/-- A block that calculates stands for the tree of its formula. -/
theorem Block.meaning_of_formula?
    (naming : Naming)
    {formula : Formula} :
    (block : Block) →
    block.formula? = some formula →
    block.meaning naming = some (.value formula.tree)
  | .node blockType fields inputs, h => by
      simp only [Block.formula?, Option.bind_eq_bind, Option.bind_eq_some_iff] at h
      obtain ⟨kind, hread, hkind⟩ := h
      have hmeaning := kind.meaning_of_formula? naming
        (fun slot _ => inputs.meaning_of_formula? naming slot) _ hkind
      simp [Block.meaning, hread, hmeaning]

theorem Inputs.meaning_of_formula?
    (naming : Naming)
    {formula : Formula} :
    (inputs : Inputs) →
    (slot : String) →
    inputs.formula? slot = some formula →
    Operands.orElse (fun slot => inputs.meaning naming slot) slot Tree.zero = some formula.tree
  | .empty, slot, h => by
      cases h
      exact congrArg some Formula.tree_zero.symm
  | .plug slot child rest, wanted, h => by
      by_cases hslot : slot = wanted
      · simp only [Inputs.formula?, hslot, if_true] at h
        have hmeaning := child.meaning_of_formula? naming h
        simp [Operands.orElse, Inputs.meaning, hslot, hmeaning, Meaning.tree?]
      · simp only [Inputs.formula?, hslot, if_false] at h
        have hmeaning := rest.meaning_of_formula? naming wanted h
        simpa [Operands.orElse, Inputs.meaning, hslot] using hmeaning

end

end MathBlocks
