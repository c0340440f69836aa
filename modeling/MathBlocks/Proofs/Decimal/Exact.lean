import Mathlib.Algebra.Order.Field.Rat
import Mathlib.Tactic.Linarith
import MathBlocks.Proofs.Decimal.Rounding

/-!
# Exact values of decimals

A decimal is rounded by the number that it is exactly: the same interval of rational numbers is
rounded to a number whatever power of ten its points are written with. Half of the least number and
everything below is rounded to zero, and the middle between the largest number and `2 ^ 1024` and
everything above to infinity.
-/

namespace MathBlocks

/-- The number `digits · 10 ^ exponent`. -/
def decimalValue
    (digits : Nat)
    (exponent : Int) : ℚ :=
  digits * 10 ^ exponent

theorem decimalValue_nonneg
    (digits : Nat)
    (exponent : Int) :
    0 ≤ decimalValue digits exponent :=
  mul_nonneg (Nat.cast_nonneg _) (zpow_nonneg (by norm_num) _)

theorem decimalValue_zero
    (exponent : Int) :
    decimalValue 0 exponent = 0 := by
  simp [decimalValue]

/-- Zeros at the end of the digits can be moved to the power of ten. -/
theorem decimalValue_mul_pow
    (digits zeros : Nat)
    (exponent : Int) :
    decimalValue (digits * 10 ^ zeros) exponent = decimalValue digits (exponent + zeros) := by
  have hten : (10 : ℚ) ≠ 0 := by
    norm_num
  unfold decimalValue
  rw [Nat.cast_mul, Nat.cast_pow, Nat.cast_ofNat, zpow_add₀ hten, zpow_natCast]
  ring

/-- A decimal as a quotient of whole numbers. -/
theorem decimalValue_eq_div
    (digits : Nat) :
    ∀ exponent : Int,
      decimalValue digits exponent =
        match exponent with
        | .ofNat zeros => ((digits * Nat.pow 10 zeros : Nat) : ℚ) / (1 : Nat)
        | .negSucc k => (digits : ℚ) / (Nat.pow 10 (k + 1) : Nat)
  | .ofNat zeros => by
      simp [decimalValue]
  | .negSucc k => by
      simp [decimalValue, zpow_negSucc, div_eq_mul_inv]

namespace Binary64

section Inside

variable {units : Nat}

theorem quarters_pos :
    (0 : ℚ) < 4 * unitsPerOne :=
  mul_pos (by norm_num) (Nat.cast_pos.mpr unitsPerOne_pos)

/-- Whether a value lies in the interval of the values that are rounded to a number. -/
structure Inside
    (units : Nat)
    (value : ℚ) : Prop where
  low : ((interval units).1 : ℚ) ≤ value * (4 * unitsPerOne)
  high : value * (4 * unitsPerOne) ≤ ((interval units).2 : ℚ)
  ends :
    ((interval units).1 : ℚ) = value * (4 * unitsPerOne) ∨
        value * (4 * unitsPerOne) = ((interval units).2 : ℚ) →
      takesEnds units = true

/-- The interval has no gaps. -/
theorem Inside.between
    {first value last : ℚ}
    (hfirst : Inside units first)
    (hlast : Inside units last)
    (hlow : first ≤ value)
    (hhigh : value ≤ last) :
    Inside units value := by
  have hlow' := mul_le_mul_of_nonneg_right hlow (le_of_lt quarters_pos)
  have hhigh' := mul_le_mul_of_nonneg_right hhigh (le_of_lt quarters_pos)
  refine ⟨hfirst.low.trans hlow', hhigh'.trans hlast.high, ?_⟩
  rintro (heq | heq)
  · exact hfirst.ends (Or.inl (le_antisymm hfirst.low (hlow'.trans_eq heq.symm)))
  · exact hlast.ends (Or.inr (le_antisymm hlast.high (heq.symm.trans_le hhigh')))

theorem quarterScale_pos :
    ∀ exponent : Int, 0 < quarterScale exponent
  | .ofNat _ => Nat.one_pos
  | .negSucc _ => Nat.pow_pos (by decide)

/-- The common measure is that of the exact value. -/
theorem decimalValue_mul_quarterScale
    (digits : Nat) :
    ∀ exponent : Int,
      decimalValue digits exponent * (4 * unitsPerOne) * quarterScale exponent =
        digits * pointScale exponent
  | .ofNat zeros => by
      rw [decimalValue_eq_div]
      simp only [quarterScale, pointScale, Nat.pow_eq]
      push_cast
      ring
  | .negSucc k => by
      have hpower : ((10 : ℚ) ^ (k + 1)) ≠ 0 := by
        positivity
      rw [decimalValue_eq_div]
      simp only [quarterScale, pointScale, Nat.pow_eq]
      push_cast
      rw [mul_right_comm, div_mul_cancel₀ _ hpower]

/-- What a point is read back as depends on its exact value only. -/
theorem readsBack_iff_inside
    (digits : Nat)
    (exponent : Int) :
    readsBack units digits exponent = true ↔ Inside units (decimalValue digits exponent) := by
  have hscale : (0 : ℚ) < quarterScale exponent :=
    Nat.cast_pos.mpr (quarterScale_pos exponent)
  have hmeasure := decimalValue_mul_quarterScale digits exponent
  -- comparing with an end is the same before and after scaling
  have hlow : (interval units).1 * quarterScale exponent ≤ digits * pointScale exponent ↔
      ((interval units).1 : ℚ) ≤ decimalValue digits exponent * (4 * unitsPerOne) := by
    rw [← mul_le_mul_iff_left₀ hscale, hmeasure]
    norm_cast
  have hhigh : digits * pointScale exponent ≤ (interval units).2 * quarterScale exponent ↔
      decimalValue digits exponent * (4 * unitsPerOne) ≤ ((interval units).2 : ℚ) := by
    rw [← mul_le_mul_iff_left₀ hscale, hmeasure]
    norm_cast
  have hlowEq : (interval units).1 * quarterScale exponent = digits * pointScale exponent ↔
      ((interval units).1 : ℚ) = decimalValue digits exponent * (4 * unitsPerOne) := by
    rw [← mul_left_inj' (ne_of_gt hscale), hmeasure]
    norm_cast
  have hhighEq : digits * pointScale exponent = (interval units).2 * quarterScale exponent ↔
      decimalValue digits exponent * (4 * unitsPerOne) = ((interval units).2 : ℚ) := by
    rw [← mul_left_inj' (ne_of_gt hscale), hmeasure]
    norm_cast
  constructor
  · intro hback
    obtain ⟨hfirst, hlast, hends⟩ := inside_of_readsBack hback
    rw [hlow] at hfirst
    rw [hhigh] at hlast
    rw [hlowEq, hhighEq] at hends
    exact ⟨hfirst, hlast, hends⟩
  · intro hinside
    apply readsBack_of_inside
    · rw [hlow]
      exact hinside.low
    · rw [hhigh]
      exact hinside.high
    · rw [hlowEq, hhighEq]
      exact hinside.ends

/-- A number other than zero is what decimals with a value in its interval are rounded to. -/
theorem ofDecimal_eq_iff_inside
    (hpos : 0 < units)
    (hdvd : step units ∣ units)
    (digits : Nat)
    (exponent : Int) :
    ofDecimal digits exponent = units ↔ Inside units (decimalValue digits exponent) := by
  rw [ofDecimal_eq_iff hpos hdvd, readsBack_iff_inside]

/-- Half of the lower neighbour's distance is less than the number. -/
theorem interval_low_pos
    (hpos : 0 < units)
    (hdvd : step units ∣ units) :
    0 < (interval units).1 := by
  have hfits := Nat.le_of_dvd hpos hdvd
  simp only [interval, halvesBelow]
  split <;> omega

/-- Nothing in the interval of a number other than zero is zero. -/
theorem Inside.pos
    (hpos : 0 < units)
    (hdvd : step units ∣ units)
    {value : ℚ}
    (h : Inside units value) :
    0 < value := by
  have hlow : (0 : ℚ) < value * (4 * unitsPerOne) :=
    lt_of_lt_of_le (Nat.cast_pos.mpr (interval_low_pos hpos hdvd)) h.low
  exact pos_of_mul_pos_left hlow (le_of_lt quarters_pos)

end Inside

section Thresholds

variable (digits : Nat) (exponent : Int)

/-- A decimal is rounded as the quotient of whole numbers that it is. -/
theorem ofDecimal_eq_round :
    ∃ numerator denominator,
      0 < denominator ∧
      ofDecimal digits exponent = round numerator denominator ∧
      decimalValue digits exponent = (numerator : ℚ) / denominator := by
  have hvalue := decimalValue_eq_div digits exponent
  cases exponent with
  | ofNat zeros =>
      exact ⟨_, _, Nat.one_pos, rfl, hvalue⟩
  | negSucc k =>
      exact ⟨_, _, Nat.pow_pos (by decide), rfl, hvalue⟩

/-- Exactly the values up to half of the least number are rounded to zero. -/
theorem ofDecimal_eq_zero_iff :
    ofDecimal digits exponent = 0 ↔ decimalValue digits exponent ≤ 1 / 2 ^ 1075 := by
  obtain ⟨numerator, denominator, hpos, hround, hvalue⟩ := ofDecimal_eq_round digits exponent
  obtain ⟨places, hplaces, hunits⟩ := unitsPerOne_eq
  have hdenominator : (0 : ℚ) < denominator :=
    Nat.cast_pos.mpr hpos
  have hhalf : (1075 : Nat) = places + 1 := by
    omega
  rw [hround, round_eq_zero_iff hpos, hvalue, hunits, hhalf,
    div_le_div_iff₀ hdenominator (by positivity), ← Nat.cast_le (α := ℚ)]
  push_cast
  rw [pow_succ]
  constructor <;> intro h <;> linarith

/-- Exactly the values from the middle above the largest number on are rounded to infinity. -/
theorem limit_le_ofDecimal_iff :
    limit ≤ ofDecimal digits exponent ↔
      2 ^ 1024 - 2 ^ 970 ≤ decimalValue digits exponent := by
  obtain ⟨numerator, denominator, hpos, hround, hvalue⟩ := ofDecimal_eq_round digits exponent
  obtain ⟨places, hplaces, hunits⟩ := unitsPerOne_eq
  obtain ⟨first, hfirst, hlimit⟩ := limit_eq
  have hdenominator : (0 : ℚ) < denominator :=
    Nat.cast_pos.mpr hpos
  obtain ⟨last, hlast⟩ : ∃ last, last = 970 :=
    ⟨970, rfl⟩
  have htop : 1024 = 54 + last := by
    omega
  have hsum : first = last + places := by
    omega
  have hmiddle : (2 : ℚ) ^ 1024 - 2 ^ 970 = (2 ^ 54 - 1) * 2 ^ last := by
    rw [htop, ← hlast, pow_add]
    ring
  have hscaled : (((2 ^ 54 - 1) * 2 ^ (last + places) * denominator : Nat) : ℚ) =
      (2 ^ 54 - 1) * 2 ^ last * denominator * 2 ^ places := by
    push_cast
    rw [pow_add]
    ring
  rw [hround, limit_le_round_iff hpos hlimit, hvalue, hunits, hmiddle, hsum,
    le_div_iff₀ hdenominator, ← Nat.cast_le (α := ℚ), hscaled, Nat.cast_mul, Nat.cast_pow,
    Nat.cast_ofNat, mul_le_mul_iff_left₀ (by positivity)]

variable {digits exponent}

/-- Decimals with the same value are rounded to the same number. -/
theorem ofDecimal_congr
    {other : Nat}
    {place : Int}
    (h : decimalValue digits exponent = decimalValue other place) :
    ofDecimal digits exponent = ofDecimal other place := by
  rcases Nat.eq_zero_or_pos (ofDecimal other place) with hzero | hpos
  · rw [hzero, ofDecimal_eq_zero_iff, h, ← ofDecimal_eq_zero_iff, hzero]
  · have hdvd := step_ofDecimal_dvd other place
    rw [ofDecimal_eq_iff_inside hpos hdvd, h, ← ofDecimal_eq_iff_inside hpos hdvd]

/-- Whether a value is rounded to a number of that many units. -/
def RoundsTo
    (value : ℚ)
    (units : Nat) : Prop :=
  units = 0 ∧ value ≤ 1 / 2 ^ 1075 ∨ 0 < units ∧ Inside units value

theorem roundsTo_ofDecimal :
    RoundsTo (decimalValue digits exponent) (ofDecimal digits exponent) := by
  rcases Nat.eq_zero_or_pos (ofDecimal digits exponent) with hzero | hpos
  · exact Or.inl ⟨hzero, (ofDecimal_eq_zero_iff digits exponent).mp hzero⟩
  · exact Or.inr ⟨hpos, (ofDecimal_eq_iff_inside hpos (step_ofDecimal_dvd _ _) _ _).mp rfl⟩

end Thresholds

end Binary64
end MathBlocks
