import MathBlocks.Emit.Number
import MathBlocks.Proofs.Decimal.LongExponent
import MathBlocks.Proofs.Decimal.Plain
import MathBlocks.Proofs.Text.Padding

/-!
# The code of a numeral

A text is written as a number exactly if it is a literal with white space around it. The range of
the literal says what it is written as: infinity, zero, or a plain numeral that is read back as the
same number of the binary format.
-/

namespace MathBlocks

section Texts

theorem Sign.written_not_blank
    (sign : Sign) :
    ∀ c ∈ sign.written, Text.isBlank c = false := by
  cases sign <;> simp [written] <;> decide

/-- No character of a literal is white space. -/
theorem DecimalLiteral.written_not_blank
    (literal : DecimalLiteral) :
    ∀ c ∈ literal.written, Text.isBlank c = false := by
  intro c hc
  simp only [written, unsigned, List.mem_append] at hc
  rcases hc with hc | hc | hc | hc
  · exact literal.sign.written_not_blank c hc
  · exact Text.isBlank_of_isDigit (literal.wholeDigits c hc)
  · unfold point at hc
    cases hplaces : literal.places? with
    | none =>
        simp [hplaces] at hc
    | some places =>
        rw [hplaces] at hc
        rcases List.mem_cons.mp hc with rfl | hc
        · decide
        · exact Text.isBlank_of_isDigit (literal.placesDigits places hplaces c hc)
  · cases hpart : literal.exponent? with
    | none =>
        simp [hpart] at hc
    | some part =>
        rw [hpart] at hc
        rcases List.mem_cons.mp hc with rfl | hc
        · rcases part.isLetter with hletter | hletter <;> rw [hletter] <;> decide
        · rcases List.mem_append.mp hc with hc | hc
          · exact part.sign.written_not_blank c hc
          · exact Text.isBlank_of_isDigit (part.digitsOnly c hc)

theorem InfinityLiteral.written_not_blank
    (literal : InfinityLiteral) :
    ∀ c ∈ literal.written, Text.isBlank c = false := by
  intro c hc
  rcases List.mem_append.mp hc with hc | hc
  · exact literal.sign.written_not_blank c hc
  · exact Text.isBlank_of_isAlpha (literal.letters c hc)

/-- Whether a text is a decimal literal or a word for infinity, white space around it aside. -/
def IsNumeral (text : List Char) : Prop :=
  (∃ literal : DecimalLiteral, Text.Padded literal.written text) ∨
    ∃ literal : InfinityLiteral, Text.Padded literal.written text

theorem Numeral.ofChars?_literal
    {literal : DecimalLiteral}
    {text : List Char}
    (h : Text.Padded literal.written text) :
    Numeral.ofChars? (Text.trim text) =
      some (.finite literal.sign.isMinus (Numeral.digitsValue literal.mantissa)
        (literal.scaleBy Numeral.exponentValue)) := by
  rw [h.trim_eq literal.written_not_blank, Numeral.ofChars?_written]

/-- What is read as a number is a literal with white space around it, and is read of the literal. -/
theorem Numeral.exists_padded
    {text : List Char}
    {negative : Bool}
    {digits : Nat}
    {exponent : Int}
    (h : Numeral.ofChars? (Text.trim text) = some (.finite negative digits exponent)) :
    ∃ literal : DecimalLiteral,
      Text.Padded literal.written text ∧
      literal.sign.isMinus = negative ∧
      literal.units = Binary64.ofDecimal digits exponent := by
  obtain ⟨literal, hliteral⟩ := Numeral.exists_literal h
  have hpadded : Text.Padded literal.written text := by
    rw [hliteral]
    exact Text.padded_trim text
  rw [Numeral.ofChars?_literal hpadded] at h
  cases h
  exact ⟨literal, hpadded, rfl, rfl⟩

/-- A literal is written as the number that it is read as. -/
theorem numberValue_literal
    {literal : DecimalLiteral}
    {text : String}
    (h : Text.Padded literal.written text.toList) :
    numberValue text =
      .ok (if Binary64.limit ≤ literal.units then infinityValue literal.sign.isMinus
        else finiteValue literal.sign.isMinus literal.units) := by
  unfold numberValue
  rw [Numeral.ofChars?_literal h]
  by_cases hlimit : Binary64.limit ≤ literal.units
  · rw [if_pos hlimit]
    unfold DecimalLiteral.units at hlimit
    simp [Numeral.value?, hlimit]
  · rw [if_neg hlimit]
    unfold DecimalLiteral.units at hlimit ⊢
    simp [Numeral.value?, hlimit]

/-- Exactly the literals are written. -/
theorem exists_numberValue_iff
    (text : String) :
    (∃ value, numberValue text = .ok value) ↔ IsNumeral text.toList := by
  constructor
  · rintro ⟨value, hvalue⟩
    unfold numberValue at hvalue
    split at hvalue
    · rename_i hread
      obtain ⟨numeral, hnumeral, hwritten⟩ := Option.bind_eq_some_iff.mp hread
      cases numeral with
      | finite negative digits exponent =>
          obtain ⟨literal, hpadded, _⟩ := Numeral.exists_padded hnumeral
          exact Or.inl ⟨literal, hpadded⟩
      | infinite negative =>
          obtain ⟨literal, hliteral⟩ := Numeral.exists_infinity hnumeral
          exact Or.inr ⟨literal, hliteral ▸ Text.padded_trim text.toList⟩
      | notANumber =>
          cases hwritten
    · cases hvalue
  · rintro (⟨literal, hpadded⟩ | ⟨literal, hpadded⟩)
    · exact ⟨_, numberValue_literal hpadded⟩
    · unfold numberValue
      rw [hpadded.trim_eq literal.written_not_blank, Numeral.ofChars?_infinity]
      exact ⟨_, rfl⟩

/-- Any other text is a fault that shows it as it is. -/
theorem numberValue_of_not_isNumeral
    {text : String}
    (h : ¬ IsNumeral text.toList) :
    numberValue text = .error (.badNumber text) := by
  rw [← exists_numberValue_iff] at h
  unfold numberValue at h ⊢
  split
  · rename_i value hread
    exact absurd ⟨value, by rw [hread]⟩ h
  · rfl

end Texts

section Finite

variable {units : Nat}

/-- The code of a finite number is a plain numeral with its sign, unless it is zero. -/
theorem exists_plain_finiteValue
    (hdvd : Binary64.step units ∣ units)
    (hlimit : units < Binary64.limit)
    (negative : Bool) :
    ∃ numeral : PlainNumeral,
      numeral.negative = (negative && decide (0 < units)) ∧
      numeral.unsigned = positional (Binary64.shortest units).1 (Binary64.shortest units).2 ∧
      (finiteValue negative units).code.toList = numeral.written ∧
      (finiteValue negative units).level = if numeral.negative then .unary else .atomic := by
  obtain ⟨numeral, hnegative, hunsigned⟩ :=
    Binary64.exists_plain_shortest hdvd hlimit (negative && decide (0 < units))
  have hvalue : finiteValue negative units =
      if (negative && decide (0 < units)) = true then
        ⟨"-" ++ String.ofList (positional (Binary64.shortest units).1 (Binary64.shortest units).2),
          .unary⟩
      else
        ⟨String.ofList (positional (Binary64.shortest units).1 (Binary64.shortest units).2),
          .atomic⟩ :=
    rfl
  refine ⟨numeral, hnegative, hunsigned, ?_⟩
  rw [hvalue, PlainNumeral.written, hunsigned, hnegative]
  cases negative && decide (0 < units) <;> simp

/-- Positional notation with a sign or none is read back as the decimal that was written. -/
theorem Numeral.ofChars?_positional
    (sign : Sign)
    (digits : Nat)
    (exponent : Int) :
    Numeral.ofChars? (sign.written ++ positional digits exponent) =
      some (.finite sign.isMinus (Numeral.readBack digits exponent).1
        (Numeral.readBack digits exponent).2) := by
  obtain ⟨c, rest, hlist, hc, _⟩ := Numeral.positional_shape digits exponent
  have hne (other : Char) (hother : other.isDigit = false) :
      (positional digits exponent).head? ≠ some other := by
    rw [hlist]
    rintro ⟨rfl⟩
    rw [hother] at hc
    cases hc
  have hsplit := Numeral.splitSign_written sign _ (hne '+' (by decide)) (hne '-' (by decide))
  unfold Numeral.ofChars?
  simp [hsplit, Numeral.decimal?_positional]

/-- The finite number that a text denotes, as its sign and its size; zero has no sign. -/
def Numeral.double? (text : String) : Option (Bool × Binary64.Finite) :=
  match Numeral.ofChars? (Text.trim text.toList) with
  | some (.finite negative digits exponent) =>
      (Binary64.Finite.ofDecimal? digits exponent).map fun size =>
        (negative && decide (0 < size.units), size)
  | _ => none

/-- What a text denotes is read of it, rounded, and has the sign that is read, unless it is zero. -/
theorem Numeral.exists_of_double?
    {text : String}
    {negative : Bool}
    {size : Binary64.Finite}
    (h : Numeral.double? text = some (negative, size)) :
    ∃ minus digits exponent,
      Numeral.ofChars? (Text.trim text.toList) = some (.finite minus digits exponent) ∧
      size.units = Binary64.ofDecimal digits exponent ∧
      negative = (minus && decide (0 < size.units)) := by
  unfold Numeral.double? at h
  split at h
  · rename_i minus digits exponent hread
    obtain ⟨found, hfound, hsame⟩ := Option.map_eq_some_iff.mp h
    obtain ⟨rfl, rfl⟩ := Prod.mk.inj hsame
    unfold Binary64.Finite.ofDecimal? at hfound
    split at hfound
    · cases hfound
      exact ⟨minus, digits, exponent, hread, rfl, rfl⟩
    · cases hfound
  · cases h

/-- Only a number other than zero has a sign. -/
theorem Numeral.sign_of_double?
    {text : String}
    {negative : Bool}
    {size : Binary64.Finite}
    (h : Numeral.double? text = some (negative, size)) :
    (negative && decide (0 < size.units)) = negative := by
  obtain ⟨_, _, _, _, _, rfl⟩ := Numeral.exists_of_double? h
  simp

/-- The sign of zero is not written. -/
theorem finiteValue_sign
    (negative : Bool)
    (units : Nat) :
    finiteValue (negative && decide (0 < units)) units = finiteValue negative units := by
  unfold finiteValue
  simp

/-- A text that denotes a finite number is written as that number. -/
theorem numberValue_of_double?
    {text : String}
    {negative : Bool}
    {size : Binary64.Finite}
    (h : Numeral.double? text = some (negative, size)) :
    numberValue text = .ok (finiteValue negative size.units) := by
  obtain ⟨minus, digits, exponent, hread, hunits, rfl⟩ := Numeral.exists_of_double? h
  have hlimit := size.inRange
  rw [hunits] at hlimit
  unfold numberValue
  rw [hread, finiteValue_sign, hunits]
  simp [Numeral.value?, Nat.not_le.mpr hlimit]

/--
A text that denotes a finite number is a literal, and the number is what is read of the literal,
rounded; it is the exact value of a short literal, rounded.
-/
theorem exists_literal_of_double?
    {text : String}
    {negative : Bool}
    {size : Binary64.Finite}
    (h : Numeral.double? text = some (negative, size)) :
    ∃ literal : DecimalLiteral,
      Text.Padded literal.written text.toList ∧
      negative = (literal.sign.isMinus && decide (0 < size.units)) ∧
      Binary64.RoundsTo |literal.readValue| size.units ∧
      (literal.IsShort → Binary64.RoundsTo |literal.value| size.units) := by
  obtain ⟨minus, digits, exponent, hread, hunits, hnegative⟩ := Numeral.exists_of_double? h
  obtain ⟨literal, hpadded, rfl, hliteral⟩ := Numeral.exists_padded hread
  have hsize : size.units = literal.units := hunits.trans hliteral.symm
  have hlimit := size.inRange
  rw [hsize] at hlimit hnegative ⊢
  exact ⟨literal, hpadded, hnegative, literal.roundsTo_units,
    fun hshort => literal.roundsTo_value hshort hlimit⟩

/-- The code of a finite number denotes the number. -/
theorem double?_finiteValue
    (negative : Bool)
    (size : Binary64.Finite) :
    Numeral.double? (finiteValue negative size.units).code =
      some (negative && decide (0 < size.units), size) := by
  obtain ⟨numeral, hnegative, hunsigned, hcode, _⟩ :=
    exists_plain_finiteValue size.onGrid size.inRange negative
  obtain ⟨sign, hsign, hwritten⟩ : ∃ sign : Sign,
      sign.isMinus = numeral.negative ∧ numeral.written = sign.written ++ numeral.unsigned := by
    unfold PlainNumeral.written
    cases numeral.negative
    · exact ⟨.absent, rfl, rfl⟩
    · exact ⟨.minus, rfl, rfl⟩
  have hblank : ∀ c ∈ numeral.written, Text.isBlank c = false := by
    obtain ⟨first, rest, hlist, hfirst, hrest⟩ := Numeral.positional_shape
      (Binary64.shortest size.units).1 (Binary64.shortest size.units).2
    rw [hwritten, hunsigned, hlist]
    intro c hc
    rcases List.mem_append.mp hc with hc | hc
    · exact sign.written_not_blank c hc
    · rcases List.mem_cons.mp hc with rfl | hc
      · exact Text.isBlank_of_isDigit hfirst
      · rcases hrest c hc with hdigit | rfl
        · exact Text.isBlank_of_isDigit hdigit
        · decide
  have hread : Binary64.Finite.ofDecimal?
      (Numeral.readBack (Binary64.shortest size.units).1 (Binary64.shortest size.units).2).1
      (Numeral.readBack (Binary64.shortest size.units).1 (Binary64.shortest size.units).2).2 =
        some size := by
    have hunits := Binary64.ofDecimal_readBack (Binary64.shortest size.units).1
      (Binary64.shortest size.units).2
    rw [Binary64.ofDecimal_shortest size.onGrid] at hunits
    unfold Binary64.Finite.ofDecimal?
    rw [dif_pos (by rw [hunits]; exact size.inRange)]
    simp [hunits]
  unfold Numeral.double?
  rw [hcode, (Text.padded_self _).trim_eq hblank, hwritten, hunsigned, Numeral.ofChars?_positional]
  simp [hread, hsign, hnegative]

end Finite

section Ranges

/--
Whether a value is what an exact number is written as: infinity from the middle above the largest
number of the format on, zero up to half of the least one, and else a numeral that is read back as
a number of the format with the same sign.
-/
structure Value.Classifies
    (value : Value)
    (number : ℚ) : Prop where
  large : 2 ^ 1024 - 2 ^ 970 ≤ number → value = ⟨"math.huge", .call⟩
  largeNegative : number ≤ -(2 ^ 1024 - 2 ^ 970) → value = ⟨"-math.huge", .unary⟩
  small : |number| ≤ 1 / 2 ^ 1075 → value = ⟨"0", .atomic⟩
  between :
    1 / 2 ^ 1075 < |number| →
    |number| < 2 ^ 1024 - 2 ^ 970 →
      ∃ (numeral : PlainNumeral) (size : Binary64.Finite),
        value.code.toList = numeral.written ∧
        Numeral.double? value.code = some (decide (number < 0), size) ∧
        0 < size.units ∧
        value.level = if number < 0 then .unary else .atomic

variable {number : ℚ}

theorem small_pos :
    (0 : ℚ) < 1 / 2 ^ 1075 := by
  positivity

/-- Infinity is written with the sign of the number. -/
theorem classifies_infinityValue
    (hlarge : 2 ^ 1024 - 2 ^ 970 ≤ |number|) :
    (infinityValue (decide (number < 0))).Classifies number := by
  have hgap := small_lt_large.1
  have hsmall := small_pos
  refine ⟨?_, ?_, ?_, ?_⟩
  · intro h
    have hsign : ¬ number < 0 := not_lt.mpr ((hsmall.trans hgap).le.trans h)
    simp [hsign, infinityValue]
  · intro h
    have hsign : number < 0 := h.trans_lt (neg_lt_zero.mpr (hsmall.trans hgap))
    simp [hsign, infinityValue]
  · intro h
    exact absurd (hlarge.trans h) (not_le.mpr hgap)
  · intro _ h
    exact absurd hlarge (not_le.mpr h)

/-- A finite number is zero or is written with the sign of the number. -/
theorem classifies_finiteValue
    {negative : Bool}
    (size : Binary64.Finite)
    (hlarge : |number| < 2 ^ 1024 - 2 ^ 970)
    (hzero : size.units = 0 ↔ |number| ≤ 1 / 2 ^ 1075)
    (hsign : 0 < size.units → negative = decide (number < 0)) :
    (finiteValue negative size.units).Classifies number := by
  refine ⟨?_, ?_, ?_, ?_⟩
  · intro h
    exact absurd (h.trans (le_abs_self number)) (not_le.mpr hlarge)
  · intro h
    exact absurd ((le_neg_of_le_neg h).trans (neg_le_abs number)) (not_le.mpr hlarge)
  · intro h
    rw [hzero.mpr h]
    cases negative <;> decide
  · intro h _
    have hpos : 0 < size.units := Nat.pos_of_ne_zero fun heq => absurd (hzero.mp heq) (not_le.mpr h)
    have hdouble := double?_finiteValue negative size
    obtain ⟨numeral, hnegative, _, hcode, hlevel⟩ :=
      exists_plain_finiteValue size.onGrid size.inRange negative
    rw [decide_eq_true hpos, Bool.and_true, hsign hpos] at hdouble hnegative
    refine ⟨numeral, size, hcode, ?_, hpos, ?_⟩
    · rw [← hdouble, hsign hpos]
    · rw [hlevel, hnegative]
      simp

/-- A literal is written as the range of what is read of it says. -/
theorem exists_classifies
    {literal : DecimalLiteral}
    {text : String}
    (h : Text.Padded literal.written text.toList) :
    ∃ value,
      numberValue text = .ok value ∧
      value.Classifies literal.readValue := by
  have hsign (hpos : 0 < |literal.readValue|) :
      literal.sign.isMinus = decide (literal.readValue < 0) := by
    rw [literal.abs_readValue] at hpos
    rw [Bool.eq_iff_iff, decide_eq_true_eq, DecimalLiteral.readValue,
      DecimalLiteral.factor_mul_neg_iff _ (literal.magnitudeBy_nonneg _)]
    simp [hpos.ne']
  refine ⟨_, numberValue_literal h, ?_⟩
  split
  · rename_i hlimit
    rw [literal.limit_le_units_iff] at hlimit
    rw [hsign (small_pos.trans (small_lt_large.1.trans_le hlimit))]
    exact classifies_infinityValue hlimit
  · rename_i hlimit
    refine classifies_finiteValue
      ⟨literal.units, Binary64.step_ofDecimal_dvd _ _, Nat.lt_of_not_le hlimit⟩
      (not_le.mp fun hle => hlimit (literal.limit_le_units_iff.mpr hle))
      literal.units_eq_zero_iff ?_
    intro hpos
    apply hsign
    by_contra hnone
    have hle : |literal.readValue| ≤ 1 / 2 ^ 1075 := (not_lt.mp hnone).trans small_pos.le
    exact absurd (literal.units_eq_zero_iff.mpr hle) (Nat.ne_of_gt hpos)

/-- Numbers in the same range are written alike, as far as the range says. -/
theorem Value.Classifies.ofSameRange
    {value : Value}
    {first second : ℚ}
    (h : value.Classifies first)
    (hrange : SameRange first second) :
    value.Classifies second := by
  have hbound := small_pos.trans small_lt_large.1
  refine ⟨?_, ?_, ?_, ?_⟩
  · intro hlarge
    have hsign : ¬ first < 0 := by
      rw [hrange.negative]
      exact not_lt.mpr (hbound.le.trans hlarge)
    have hfirst := hrange.large.mpr (hlarge.trans (le_abs_self second))
    rw [abs_of_nonneg (not_lt.mp hsign)] at hfirst
    exact h.large hfirst
  · intro hlarge
    have hsign : first < 0 := by
      rw [hrange.negative]
      exact hlarge.trans_lt (neg_lt_zero.mpr hbound)
    have hfirst := hrange.large.mpr ((le_neg_of_le_neg hlarge).trans (neg_le_abs second))
    rw [abs_of_neg hsign] at hfirst
    exact h.largeNegative (le_neg_of_le_neg hfirst)
  · intro hsmall
    exact h.small (hrange.small.mpr hsmall)
  · intro hsmall hlarge
    have hfirst := h.between (not_le.mp fun hle => not_le.mpr hsmall (hrange.small.mp hle))
      (not_le.mp fun hle => not_le.mpr hlarge (hrange.large.mp hle))
    simpa only [hrange.negative] using hfirst

end Ranges

end MathBlocks
