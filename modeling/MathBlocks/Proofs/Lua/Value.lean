import Mathlib.Data.Rat.Floor
import Mathlib.Tactic.Ring
import MathBlocks.Proofs.Decimal.ReadBack
import MathBlocks.Proofs.Lua.Regroup

/-!
# The values of expressions

What the operators on numbers come to, in exact arithmetic: a numeral is the number of the binary
format that it is rounded to, remainders are floored, and the power is any function of two
numbers. Nothing has a value that divides by zero. Regrouping a chain of operators keeps its value
if no remainder is taken in between.
-/

namespace MathBlocks

/-- A number of units of the binary format. -/
def Binary64.rational (units : Nat) : ℚ :=
  (units : ℚ) / Binary64.unitsPerOne

/-- A whole number is its own value. -/
theorem Binary64.rational_whole
    {whole : Nat}
    (hlt : whole < 2 ^ 53) :
    Binary64.rational (Finite.whole whole hlt).units = whole := by
  have hunits : (Binary64.unitsPerOne : ℚ) ≠ 0 :=
    Nat.cast_ne_zero.mpr (Nat.ne_of_gt Binary64.unitsPerOne_pos)
  have hcast : (((whole * Binary64.unitsPerOne : Nat) : ℚ)) = whole * Binary64.unitsPerOne :=
    Nat.cast_mul _ _
  unfold Binary64.rational Binary64.Finite.whole
  rw [hcast]
  exact mul_div_cancel_right₀ _ hunits

theorem Binary64.rational_zero :
    Binary64.rational 0 = 0 := by
  unfold Binary64.rational
  rw [Nat.cast_zero, zero_div]

/-- The quotient of two numbers, unless the divisor is zero. -/
def quotient? (dividend divisor : ℚ) : Option ℚ :=
  if divisor = 0 then none else some (dividend / divisor)

/-- What is left of a number once the floored quotient is taken off, unless the divisor is zero. -/
def remainder? (dividend divisor : ℚ) : Option ℚ :=
  if divisor = 0 then none else some (dividend - divisor * ⌊dividend / divisor⌋)

/-- On whole numbers, what is left is the remainder of the division. -/
theorem remainder?_natCast
    (dividend : Nat)
    {divisor : Nat}
    (hpos : 0 < divisor) :
    remainder? dividend divisor = some ((dividend % divisor : Nat) : ℚ) := by
  have hzero : (divisor : ℚ) ≠ 0 :=
    Nat.cast_ne_zero.mpr (Nat.ne_of_gt hpos)
  have hfloor : ((⌊(dividend : ℚ) / divisor⌋ : Int) : ℚ) = ((dividend / divisor : Nat) : ℚ) := by
    rw [Rat.floor_natCast_div_natCast]
    rfl
  have hsplit : ((dividend % divisor : Nat) : ℚ) + divisor * ((dividend / divisor : Nat) : ℚ) =
      dividend := by
    rw [← Nat.cast_mul, ← Nat.cast_add, Nat.mod_add_div]
  unfold remainder?
  rw [if_neg hzero, hfloor, ← eq_sub_of_add_eq hsplit]

namespace Lua

/-- The number that a numeral denotes, unless it is too large to be finite. -/
def numeralValue? (text : String) : Option ℚ :=
  match Numeral.units? text with
  | some units => if units < Binary64.limit then some (Binary64.rational units) else none
  | none => none

/-- The shortest decimal of a finite number denotes the number. -/
theorem numeralValue?_shortest
    (number : Binary64.Finite) :
    numeralValue? (String.ofList
      (positional (Binary64.shortest number.units).1 (Binary64.shortest number.units).2)) =
      some (Binary64.rational number.units) := by
  unfold numeralValue?
  simp [Numeral.units?_shortest number.onGrid, number.inRange]

/-- What an operator makes of two numbers; comparisons make no number. -/
def Operator.apply
    (power : ℚ → ℚ → ℚ)
    (left right : ℚ) :
    Operator → Option ℚ
  | .plus => some (left + right)
  | .minus => some (left - right)
  | .times => some (left * right)
  | .over => quotient? left right
  | .modulo => remainder? left right
  | .power => some (power left right)
  | _ => none

/-- The value of an expression of numerals and operators on numbers. -/
def Expr.value
    (power : ℚ → ℚ → ℚ) :
    Expr → Option ℚ
  | .numeral text => numeralValue? text
  | .group inner => inner.value power
  | .negate operand => (operand.value power).map fun value => -value
  | .binary operator left right => do
      let a ← left.value power
      let b ← right.value power
      operator.apply power a b
  | _ => none

variable {power : ℚ → ℚ → ℚ}

/-- Parentheses do not change a value. -/
@[simp] theorem Expr.value_bare :
    (tree : Expr) →
    tree.bare.value power = tree.value power
  | .nil => rfl
  | .numeral _ => rfl
  | .name _ => rfl
  | .field _ _ => rfl
  | .call _ _ => rfl
  | .list _ => rfl
  | .group inner => inner.value_bare
  | .negate operand => by
      simp [Expr.bare, Expr.value, operand.value_bare]
  | .binary operator left right => by
      simp [Expr.bare, Expr.value, left.value_bare, right.value_bare]

theorem Operator.eq_of_level_sum
    {operator : Operator}
    (h : operator.level = .sum) :
    operator = .plus ∨ operator = .minus := by
  revert h
  cases operator <;> decide

theorem Operator.eq_of_level_product
    {operator : Operator}
    (h : operator.level = .product) :
    operator = .times ∨ operator = .over ∨ operator = .modulo := by
  revert h
  cases operator <;> decide

/-- A sum keeps its value when what is added is regrouped. -/
theorem Expr.value_graft_plus
    (left : Expr) :
    (right : Expr) →
    (Expr.graft .plus left right).value power = (Expr.binary .plus left right).value power
  | .binary other first second => by
      have hfirst := left.value_graft_plus first
      simp only [Expr.value] at hfirst
      by_cases hlevel : other.level = Operator.plus.level
      · simp only [Expr.graft, hlevel, if_true, Expr.value, hfirst]
        rcases Operator.eq_of_level_sum hlevel with rfl | rfl
        · cases left.value power <;> cases first.value power <;> cases second.value power <;>
            simp [Operator.apply, add_assoc]
        · cases left.value power <;> cases first.value power <;> cases second.value power <;>
            simp [Operator.apply, add_sub_assoc]
      · simp [Expr.graft, hlevel]
  | .nil | .numeral _ | .name _ | .field _ _ | .call _ _ | .list _ | .group _ | .negate _ => rfl

/-- Whether a remainder is taken in the chain of products that an expression starts with. -/
def Expr.leadsRemainder : Expr → Bool
  | .binary operator first _ =>
      decide (operator = .modulo) ||
        (decide (operator.level = .product) && first.leadsRemainder)
  | _ => false

/-- What is no product has no chain of products. -/
theorem Expr.leadsRemainder_of_level_ne
    {tree : Expr}
    (h : tree.level ≠ .product) :
    tree.leadsRemainder = false := by
  cases tree with
  | binary operator left right =>
      have hlevel : operator.level ≠ .product := h
      have hmodulo : operator ≠ .modulo := by
        rintro rfl
        exact hlevel rfl
      simp [Expr.leadsRemainder, hlevel, hmodulo]
  | _ =>
      rfl

theorem quotient?_mul
    (factor dividend divisor : ℚ) :
    quotient? (factor * dividend) divisor =
      (quotient? dividend divisor).map fun quotient => factor * quotient := by
  unfold quotient?
  split
  · rfl
  · simp [mul_div_assoc]

/-- A product keeps its value when a factor is regrouped that takes no remainder in its chain. -/
theorem Expr.value_graft_times
    (left : Expr) :
    (right : Expr) →
    right.leadsRemainder = false →
    (Expr.graft .times left right).value power = (Expr.binary .times left right).value power
  | .binary other first second, hleads => by
      by_cases hlevel : other.level = Operator.times.level
      · have hproduct : other.level = .product := hlevel
        simp only [Expr.leadsRemainder, hproduct, decide_true, Bool.true_and,
          Bool.or_eq_false_iff] at hleads
        have hfirst := left.value_graft_times first hleads.2
        simp only [Expr.value] at hfirst
        simp only [Expr.graft, hlevel, if_true, Expr.value, hfirst]
        rcases Operator.eq_of_level_product hproduct with rfl | rfl | rfl
        · cases left.value power <;> cases first.value power <;> cases second.value power <;>
            simp [Operator.apply, mul_assoc]
        · cases left.value power <;> cases first.value power <;> cases second.value power <;>
            simp [Operator.apply, quotient?_mul, Option.map_eq_bind]
        · -- no remainder is taken in the chain
          exact absurd hleads.1 (by decide)
      · simp [Expr.graft, hlevel]
  | .nil, _ | .numeral _, _ | .name _, _ | .field _ _, _ | .call _ _, _ | .list _, _ | .group _, _
  | .negate _, _ => rfl

/-- A chain of products that is regrouped takes a remainder if one of its parts does. -/
theorem Expr.leadsRemainder_graft
    {operator : Operator}
    (hproduct : operator.level = .product)
    (left : Expr) :
    (right : Expr) →
    (Expr.graft operator left right).leadsRemainder =
      (decide (operator = .modulo) || left.leadsRemainder || right.leadsRemainder)
  | .binary other first second => by
      have hfirst := left.leadsRemainder_graft hproduct first
      by_cases hlevel : other.level = .product
      · simp only [Expr.graft, hlevel, hproduct, if_true, Expr.leadsRemainder, hfirst, decide_true,
          Bool.true_and]
        cases decide (other = .modulo) <;> simp
      · have hright : (Expr.binary other first second).leadsRemainder = false :=
          Expr.leadsRemainder_of_level_ne hlevel
        rw [hright]
        simp [Expr.graft, hproduct, Expr.leadsRemainder, hlevel]
  | .nil | .numeral _ | .name _ | .field _ _ | .call _ _ | .list _ | .group _ | .negate _ => by
      simp [Expr.graft, Expr.leadsRemainder, hproduct]

end Lua
end MathBlocks
