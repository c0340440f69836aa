import Mathlib.Algebra.Order.Field.Basic
import Mathlib.Data.List.Induction
import MathBlocks.Proofs.Decimal.Literal

/-!
# Long exponents

An exponent is cut once it has reached `Numeral.exponentBound`. A decimal literal is then still too
large or too small for the binary format, as it would be with its whole exponent, unless its
mantissa has nearly as many digits as the bound says and makes up for the exponent.
-/

namespace MathBlocks
namespace Numeral

/-- An exponent is read as it is, or it is large and is read as a large one. -/
theorem exponentValue_cut
    (digits : List Char) :
    (digitsValue digits < 10 * exponentBound → exponentValue digits = digitsValue digits) ∧
    (exponentBound ≤ digitsValue digits → exponentBound ≤ exponentValue digits) := by
  induction digits using List.reverseRecOn with
  | nil =>
      exact ⟨fun _ => rfl, id⟩
  | append_singleton digits c ih =>
      have hvalue : digitsValue (digits ++ [c]) = 10 * digitsValue digits + digitValue c := by
        simp [digitsValue]
      have hread : exponentValue (digits ++ [c]) =
          if exponentValue digits < exponentBound then
            10 * exponentValue digits + digitValue c
          else
            exponentValue digits := by
        unfold exponentValue
        rw [List.foldl_append]
        rfl
      rw [hvalue, hread]
      split <;> omega

/-- A number has no more digits than are written. -/
theorem digitsValue_lt
    {digits : List Char}
    (hdigits : ∀ c ∈ digits, c.isDigit = true) :
    digitsValue digits < 10 ^ digits.length := by
  induction digits using List.reverseRecOn with
  | nil =>
      exact Nat.one_pos
  | append_singleton digits c ih =>
      have hrest := ih fun d hd => hdigits d (by simp [hd])
      have hc : digitValue c < 10 := by
        have hrange := Text.toNat_of_isDigit (hdigits c (by simp))
        have hzero : '0'.toNat = 48 := rfl
        unfold digitValue
        omega
      have hvalue : digitsValue (digits ++ [c]) = 10 * digitsValue digits + digitValue c := by
        simp [digitsValue]
      rw [hvalue, List.length_append, List.length_singleton, Nat.pow_succ]
      omega

end Numeral

/-- Whether two numbers have the same sign, and both are too large, or too small, or neither. -/
structure SameRange (first second : ℚ) : Prop where
  negative : first < 0 ↔ second < 0
  large : 2 ^ 1024 - 2 ^ 970 ≤ |first| ↔ 2 ^ 1024 - 2 ^ 970 ≤ |second|
  small : |first| ≤ 1 / 2 ^ 1075 ↔ |second| ≤ 1 / 2 ^ 1075

/-- What is rounded to zero is far from what is rounded to infinity. -/
theorem small_lt_large :
    (1 : ℚ) / 2 ^ 1075 < 2 ^ 1024 - 2 ^ 970 ∧
    (2 : ℚ) ^ 1024 - 2 ^ 970 ≤ 2 ^ 1075 := by
  have hone : (1 : ℚ) ≤ 2 ^ 970 := one_le_pow₀ (by norm_num)
  have hsmall : (1 : ℚ) / 2 ^ 1075 ≤ 1 :=
    div_le_one_of_le₀ (one_le_pow₀ (by norm_num)) (by positivity)
  have hsplit : (2 : ℚ) ^ 1024 = 2 ^ 970 * 2 ^ 54 := by
    rw [← pow_add]
  have hgrow : (2 : ℚ) ^ 1024 ≤ 2 ^ 1075 :=
    pow_le_pow_right₀ (by norm_num) (by norm_num)
  generalize (2 : ℚ) ^ 970 = gap at *
  generalize (2 : ℚ) ^ 1024 = next at *
  generalize (2 : ℚ) ^ 1075 = far at *
  constructor <;> linarith

theorem SameRange.of_small
    {first second : ℚ}
    (hnegative : first < 0 ↔ second < 0)
    (hfirst : |first| ≤ 1 / 2 ^ 1075)
    (hsecond : |second| ≤ 1 / 2 ^ 1075) :
    SameRange first second := by
  have hgap := small_lt_large.1
  exact ⟨hnegative,
    iff_of_false (not_le.mpr (hfirst.trans_lt hgap)) (not_le.mpr (hsecond.trans_lt hgap)),
    iff_of_true hfirst hsecond⟩

theorem SameRange.of_large
    {first second : ℚ}
    (hnegative : first < 0 ↔ second < 0)
    (hfirst : 2 ^ 1075 ≤ |first|)
    (hsecond : 2 ^ 1075 ≤ |second|) :
    SameRange first second := by
  obtain ⟨hgap, hlarge⟩ := small_lt_large
  have hfirst' := hlarge.trans hfirst
  have hsecond' := hlarge.trans hsecond
  exact ⟨hnegative, iff_of_true hfirst' hsecond',
    iff_of_false (not_le.mpr (hgap.trans_le hfirst')) (not_le.mpr (hgap.trans_le hsecond'))⟩

namespace DecimalLiteral

variable (literal : DecimalLiteral)

theorem mantissaDigits :
    ∀ c ∈ literal.mantissa, c.isDigit = true := by
  intro c hc
  rcases List.mem_append.mp hc with hwhole | hplaces
  · exact literal.wholeDigits c hwhole
  · cases h : literal.places? with
    | none =>
        simp [h] at hplaces
    | some places =>
        rw [h] at hplaces
        exact literal.placesDigits places h c hplaces

theorem abs_factor_mul
    (sign : Sign)
    {magnitude : ℚ}
    (h : 0 ≤ magnitude) :
    |sign.factor * magnitude| = magnitude := by
  cases sign <;> simp [Sign.factor, abs_of_nonneg h]

theorem factor_mul_neg_iff
    (sign : Sign)
    {magnitude : ℚ}
    (h : 0 ≤ magnitude) :
    sign.factor * magnitude < 0 ↔ sign.isMinus = true ∧ magnitude ≠ 0 := by
  cases sign <;> simp [Sign.factor, Sign.isMinus, h, h.lt_iff_ne']

theorem magnitudeBy_nonneg
    (size : List Char → Nat) :
    0 ≤ literal.magnitudeBy size :=
  decimalValue_nonneg _ _

theorem abs_value :
    |literal.value| = literal.magnitudeBy Numeral.digitsValue :=
  abs_factor_mul literal.sign (literal.magnitudeBy_nonneg _)

theorem abs_readValue :
    |literal.readValue| = literal.magnitudeBy Numeral.exponentValue :=
  abs_factor_mul literal.sign (literal.magnitudeBy_nonneg _)

/-- Whether a number is zero does not depend on its exponent. -/
theorem magnitudeBy_eq_zero_iff
    (size : List Char → Nat) :
    literal.magnitudeBy size = 0 ↔ Numeral.digitsValue literal.mantissa = 0 := by
  simp [magnitudeBy, decimalValue, zpow_ne_zero]

/-- An exponent below ten times the bound is read as it is. -/
theorem readValue_eq_value
    (h : ∀ part ∈ literal.exponent?,
      Numeral.digitsValue part.digits < 10 * Numeral.exponentBound) :
    literal.readValue = literal.value := by
  have hexponent :
      literal.exponentBy Numeral.exponentValue = literal.exponentBy Numeral.digitsValue := by
    unfold exponentBy
    cases hpart : literal.exponent? with
    | none =>
        rfl
    | some part =>
        simp only
        rw [(Numeral.exponentValue_cut part.digits).1 (h part hpart)]
  rw [readValue, value, magnitudeBy, magnitudeBy, scaleBy, scaleBy, hexponent]

theorem two_pow_lt_ten_zpow
    {places : Int}
    (hplaces : 324 ≤ places) :
    (2 : ℚ) ^ 1075 < 10 ^ places := by
  obtain ⟨twos, htwos⟩ : ∃ twos, twos = 1075 := ⟨_, rfl⟩
  obtain ⟨tens, htens⟩ : ∃ tens, tens = 324 := ⟨_, rfl⟩
  have hpower := Binary64.two_pow_lt_ten_pow 11
  have htwosEq : 93 * 11 + 52 = twos := by
    omega
  have htensEq : 28 * 11 + 16 = tens := by
    omega
  rw [htwosEq, htensEq, ← Nat.cast_lt (α := ℚ)] at hpower
  push_cast at hpower
  rw [← htwos]
  calc
    (2 : ℚ) ^ twos < 10 ^ (tens : Int) := by
      rwa [zpow_natCast]
    _ ≤ 10 ^ places := zpow_le_zpow_right₀ (by norm_num) (by omega)

/-- A mantissa that is short compared to the exponent does not make up for it. -/
theorem magnitude_of_large_exponent
    (size : List Char → Nat)
    {part : ExponentPart}
    (hpart : literal.exponent? = some part)
    (hlarge : Numeral.exponentBound ≤ size part.digits)
    (hmantissa : literal.mantissa.length + 324 ≤ Numeral.exponentBound)
    (hpos : 0 < Numeral.digitsValue literal.mantissa) :
    (part.sign.isMinus = true → literal.magnitudeBy size ≤ 1 / 2 ^ 1075) ∧
    (part.sign.isMinus = false → 2 ^ 1075 ≤ literal.magnitudeBy size) := by
  have hplaces : (literal.places?.getD []).length ≤ literal.mantissa.length := by
    simp [mantissa]
  have hdigits : (1 : ℚ) ≤ Numeral.digitsValue literal.mantissa :=
    Nat.one_le_cast.mpr hpos
  have hlength :
      (Numeral.digitsValue literal.mantissa : ℚ) ≤ 10 ^ (literal.mantissa.length : Int) := by
    rw [zpow_natCast]
    exact_mod_cast Nat.le_of_lt (Numeral.digitsValue_lt literal.mantissaDigits)
  have hten : (1 : ℚ) ≤ 10 := by
    norm_num
  unfold magnitudeBy decimalValue scaleBy exponentBy
  rw [hpart]
  simp only
  constructor
  · intro hsign
    have hfactor : part.sign.factor = -1 := by
      rw [Sign.factor_eq, if_pos hsign]
    calc
      _ ≤ (10 : ℚ) ^ (literal.mantissa.length : Int) *
          10 ^ (part.sign.factor * size part.digits - (literal.places?.getD []).length : Int) :=
        mul_le_mul_of_nonneg_right hlength (zpow_nonneg (by norm_num) _)
      _ = 10 ^ (literal.mantissa.length +
          (part.sign.factor * size part.digits - (literal.places?.getD []).length) : Int) := by
        rw [← zpow_add₀ (by norm_num)]
      _ ≤ 10 ^ (-324 : Int) := by
        refine zpow_le_zpow_right₀ hten ?_
        rw [hfactor]
        omega
      _ ≤ 1 / 2 ^ 1075 := by
        rw [zpow_neg, ← one_div]
        exact one_div_le_one_div_of_le (by positivity) (le_of_lt (two_pow_lt_ten_zpow (by omega)))
  · intro hsign
    have hfactor : part.sign.factor = 1 := by
      rw [Sign.factor_eq, if_neg (by simp [hsign])]
    calc
      (2 : ℚ) ^ 1075 ≤
          10 ^ (part.sign.factor * size part.digits - (literal.places?.getD []).length : Int) := by
        refine le_of_lt (two_pow_lt_ten_zpow ?_)
        rw [hfactor]
        omega
      _ ≤ _ := le_mul_of_one_le_left (zpow_nonneg (by norm_num) _) hdigits

/-- A literal is read as zero if what is read of it is at most half of the least number. -/
theorem units_eq_zero_iff :
    literal.units = 0 ↔ |literal.readValue| ≤ 1 / 2 ^ 1075 := by
  rw [abs_readValue, units, Binary64.ofDecimal_eq_zero_iff, magnitudeBy]

/-- A literal is read as infinity from the middle above the largest number on. -/
theorem limit_le_units_iff :
    Binary64.limit ≤ literal.units ↔ 2 ^ 1024 - 2 ^ 970 ≤ |literal.readValue| := by
  rw [abs_readValue, units, Binary64.limit_le_ofDecimal_iff, magnitudeBy]

theorem roundsTo_units :
    Binary64.RoundsTo |literal.readValue| literal.units := by
  rw [abs_readValue]
  exact Binary64.roundsTo_ofDecimal

/-- Whether a literal has a short exponent, or a mantissa that makes up for no long one. -/
def IsShort (literal : DecimalLiteral) : Prop :=
  (∀ part ∈ literal.exponent?,
      Numeral.digitsValue part.digits < 10 * Numeral.exponentBound) ∨
    literal.mantissa.length + 324 ≤ Numeral.exponentBound

/-- A short literal is read as its exact value, or both are too small, or both are too large. -/
theorem readValue_eq_or_extreme
    (h : literal.IsShort) :
    literal.readValue = literal.value ∨
    |literal.readValue| ≤ 1 / 2 ^ 1075 ∧ |literal.value| ≤ 1 / 2 ^ 1075 ∨
    2 ^ 1075 ≤ |literal.readValue| ∧ 2 ^ 1075 ≤ |literal.value| := by
  by_cases hexponent : ∀ part ∈ literal.exponent?,
      Numeral.digitsValue part.digits < 10 * Numeral.exponentBound
  · exact Or.inl (literal.readValue_eq_value hexponent)
  · have hmantissa := h.resolve_left hexponent
    push Not at hexponent
    obtain ⟨part, hpart, hlong⟩ := hexponent
    have hread := (Numeral.exponentValue_cut part.digits).2 (by omega)
    rcases Nat.eq_zero_or_pos (Numeral.digitsValue literal.mantissa) with hzero | hpos
    · left
      rw [readValue, value, (literal.magnitudeBy_eq_zero_iff _).mpr hzero,
        (literal.magnitudeBy_eq_zero_iff _).mpr hzero]
    · right
      have hfirst := literal.magnitude_of_large_exponent _ hpart hread hmantissa hpos
      have hsecond := literal.magnitude_of_large_exponent Numeral.digitsValue hpart
        (by omega) hmantissa hpos
      rw [← abs_readValue] at hfirst
      rw [← abs_value] at hsecond
      cases hsign : part.sign.isMinus with
      | true =>
          exact Or.inl ⟨hfirst.1 hsign, hsecond.1 hsign⟩
      | false =>
          exact Or.inr ⟨hfirst.2 hsign, hsecond.2 hsign⟩

/-- What is read of a short literal is in the same range as its exact value. -/
theorem readValue_sameRange
    (h : literal.IsShort) :
    SameRange literal.readValue literal.value := by
  have hnegative : literal.readValue < 0 ↔ literal.value < 0 := by
    rw [readValue, value, factor_mul_neg_iff _ (literal.magnitudeBy_nonneg _),
      factor_mul_neg_iff _ (literal.magnitudeBy_nonneg _), ne_eq, ne_eq,
      literal.magnitudeBy_eq_zero_iff, literal.magnitudeBy_eq_zero_iff]
  rcases literal.readValue_eq_or_extreme h with heq | ⟨hfirst, hsecond⟩ | ⟨hfirst, hsecond⟩
  · rw [heq]
    exact ⟨Iff.rfl, Iff.rfl, Iff.rfl⟩
  · exact .of_small hnegative hfirst hsecond
  · exact .of_large hnegative hfirst hsecond

/-- A short literal that is not read as infinity is rounded as its exact value is. -/
theorem roundsTo_value
    (h : literal.IsShort)
    (hlimit : literal.units < Binary64.limit) :
    Binary64.RoundsTo |literal.value| literal.units := by
  rcases literal.readValue_eq_or_extreme h with heq | ⟨hfirst, hsecond⟩ | ⟨hfirst, _⟩
  · rw [← heq]
    exact literal.roundsTo_units
  · exact Or.inl ⟨literal.units_eq_zero_iff.mpr hfirst, hsecond⟩
  · exact absurd (literal.limit_le_units_iff.mpr (small_lt_large.2.trans hfirst))
      (Nat.not_le.mpr hlimit)

end DecimalLiteral
end MathBlocks
