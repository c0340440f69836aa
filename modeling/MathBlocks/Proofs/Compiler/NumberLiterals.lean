import MathBlocks.Proofs.Compiler.Value
import MathBlocks.Proofs.Emit.Number

/-!
# Number blocks

Number blocks are written for literals and for nothing else. A finite number is written so that it
is read back as the same number, with as few digits as there can be, and what was written is written
again as it is. What a literal is written as depends on the number that it stands for, except that
its exponent is cut once it has reached `Numeral.exponentBound`.
-/

namespace MathBlocks
namespace Compiler

section Numbers

variable {ν : Type} [NameSource ν]

/-- Without a writer for it, a number block is written as its text says, and asks for nothing. -/
theorem writeBlock_number
    {compiler : Compiler ν}
    (hwriter : compiler.customs.writer? "math_number" = none)
    {fields : Fields}
    {text : String}
    (hfield : fields.text? "NUM" = some text)
    (inputs : Inputs) :
    compiler.writeBlock (.node "math_number" fields inputs) =
      ((numberValue text).map Code.value, compiler) := by
  have hkind : (Block.node "math_number" fields inputs).kind = .ok .number := by
    show (Tagged.read "math_number" : Except Fault BlockKind) = .ok .number
    decide
  have hneeded : (Block.node "math_number" fields inputs).neededField "NUM" = .ok text := by
    simp [Block.neededField, Block.fields, hfield]
  have hwrite : (Block.node "math_number" fields inputs).write compiler.customs compiler.pass =
      ((numberValue text).map Code.value, compiler.pass) := by
    rw [Block.write_eq, Customs.recipe, Block.blockType, hwriter]
    show (mathRecipe (.node "math_number" fields inputs)).run _ _ = _
    rw [mathRecipe, hkind]
    show (numberRecipe (.node "math_number" fields inputs)).run _ _ = _
    rw [numberRecipe, hneeded]
    simp only [Recipe.run_bind, Recipe.run_check]
    cases numberValue text <;> rfl
  simp only [writeBlock]
  rw [hwrite]

/--
A text that denotes a finite number, what is read of a literal rounded, is written as a plain
numeral. Read back it denotes the same number, zero without its sign; no decimal that is rounded to
the number has fewer significant digits. It is a negation if it starts with a minus sign and a
numeral otherwise, and as the text of a number block it is written as it is.
-/
theorem number_lossless
    {compiler : Compiler ν}
    (hwriter : compiler.customs.writer? "math_number" = none)
    {fields : Fields}
    {inputs : Inputs}
    {text : String}
    {negative : Bool}
    {size : Binary64.Finite}
    (hfield : fields.text? "NUM" = some text)
    (hdouble : Numeral.double? text = some (negative, size)) :
    ∃ (literal : DecimalLiteral) (value : Value) (numeral : PlainNumeral),
      Text.Padded literal.written text.toList ∧
      negative = (literal.sign.isMinus && decide (0 < size.units)) ∧
      Binary64.RoundsTo |literal.readValue| size.units ∧
      (literal.IsShort → Binary64.RoundsTo |literal.value| size.units) ∧
      compiler.writeBlock (.node "math_number" fields inputs) = (.ok (.value value), compiler) ∧
      value.code.toList = numeral.written ∧
      Numeral.double? value.code = some (negative, size) ∧
      (∀ digits exponent,
        Binary64.ofDecimal digits exponent = size.units →
          (significantDigits value.code.toList).length ≤
            (significantDigits (decimalDigits digits)).length) ∧
      (value.level = .unary ↔ value.code.toList.head? = some '-') ∧
      (value.level = .atomic ↔ value.code.toList.head? ≠ some '-') ∧
      ∀ (other : Compiler ν) (again : Fields) (plugged : Inputs),
        other.customs.writer? "math_number" = none →
        again.text? "NUM" = some value.code →
          other.writeBlock (.node "math_number" again plugged) = (.ok (.value value), other) := by
  have hsign := Numeral.sign_of_double? hdouble
  have hread := double?_finiteValue negative size
  rw [hsign] at hread
  obtain ⟨numeral, hnegative, hunsigned, hcode, hlevel⟩ :=
    exists_plain_finiteValue size.onGrid size.inRange negative
  rw [hsign] at hnegative
  obtain ⟨literal, hpadded, hminus, hrounds, hshort⟩ := exists_literal_of_double? hdouble
  refine ⟨literal, finiteValue negative size.units, numeral, hpadded, hminus, hrounds, hshort, ?_,
    hcode, hread, ?_, ?_, ?_, ?_⟩
  · rw [writeBlock_number hwriter hfield, numberValue_of_double? hdouble]
    rfl
  · intro digits exponent hround
    rw [hcode, significantDigits_written, hunsigned]
    exact Binary64.significantDigits_shortest_le size.onGrid size.inRange hround
  · rw [hlevel, hcode, numeral.head?_written_iff]
    cases numeral.negative <;> simp
  · rw [hlevel, hcode, ne_eq, numeral.head?_written_iff]
    cases numeral.negative <;> simp
  · intro other again plugged hother hagain
    rw [writeBlock_number hother hagain, numberValue_of_double? hread]
    rfl

/-- A number with a place too many and white space is written in its shortest form. -/
theorem number_lossless_negative :
    ∃ (size : Binary64.Finite) (numeral : PlainNumeral),
      Numeral.double? " -2.50 " = some (true, size) ∧
      (new .standard).writeBlock (numberBlock " -2.50 ") =
        (.ok (.value ⟨"-2.5", .unary⟩), new .standard) ∧
      "-2.5".toList = numeral.written ∧
      Numeral.double? "-2.5" = some (true, size) := by
  have hlimit : Binary64.ofDecimal 250 (-2) < Binary64.limit := by
    decide +kernel
  have hpos : 0 < Binary64.ofDecimal 250 (-2) := by
    decide +kernel
  have hchars : Numeral.ofChars? (Text.trim " -2.50 ".toList) = some (.finite true 250 (-2)) := by
    decide
  have hdouble : Numeral.double? " -2.50 " =
      some (true, ⟨_, Binary64.step_ofDecimal_dvd 250 (-2), hlimit⟩) := by
    unfold Numeral.double?
    rw [hchars]
    simp [Binary64.Finite.ofDecimal?, hlimit, hpos]
  have hresult : ((new .standard).writeBlock (numberBlock " -2.50 ")).1 =
      .ok (.value ⟨"-2.5", .unary⟩) := by
    decide +kernel
  obtain ⟨_, value, numeral, _, _, _, _, hwrite, hcode, hback, _⟩ :=
    @number_lossless _ _ (new .standard) rfl [("NUM", " -2.50 ")] .empty _ _ _ rfl hdouble
  have hblock : (new .standard).writeBlock (numberBlock " -2.50 ") =
      (.ok (.value value), new .standard) :=
    hwrite
  rw [hblock] at hresult
  obtain rfl : value = ⟨"-2.5", .unary⟩ := by
    simpa using hresult
  exact ⟨_, numeral, hdouble, hblock, hcode, hback⟩

/--
Number blocks are written for literals and words for infinity with white space around them, and any
other text is a fault that shows it as it is. A literal is written as the range of its value says:
of the value with no more of the exponent than is read, and of the exact one if the exponent is
short, or the mantissa is not nearly as long as the bound for exponents.
-/
theorem number_classified
    {compiler : Compiler ν}
    (hwriter : compiler.customs.writer? "math_number" = none)
    {fields : Fields}
    {inputs : Inputs}
    {text : String}
    (hfield : fields.text? "NUM" = some text) :
    ((∃ code, (compiler.writeBlock (.node "math_number" fields inputs)).1 = .ok code) ↔
      IsNumeral text.toList) ∧
    (¬ IsNumeral text.toList →
      compiler.writeBlock (.node "math_number" fields inputs) =
        (.error (.badNumber text), compiler)) ∧
    ∀ literal : DecimalLiteral,
      Text.Padded literal.written text.toList →
      ∃ value,
        compiler.writeBlock (.node "math_number" fields inputs) = (.ok (.value value), compiler) ∧
        value.Classifies literal.readValue ∧
        (literal.IsShort → value.Classifies literal.value) := by
  rw [writeBlock_number hwriter hfield]
  refine ⟨?_, ?_, ?_⟩
  · rw [← exists_numberValue_iff]
    cases numberValue text <;> simp [Except.map]
  · intro hnumeral
    rw [numberValue_of_not_isNumeral hnumeral]
    rfl
  · intro literal hpadded
    obtain ⟨value, hvalue, hclassifies⟩ := exists_classifies hpadded
    refine ⟨value, by rw [hvalue]; rfl, hclassifies, ?_⟩
    intro hshort
    exact hclassifies.ofSameRange (literal.readValue_sameRange hshort)

/-- A literal that is too large for the format is written as infinity. -/
theorem number_classified_large :
    ∃ literal : DecimalLiteral,
      Text.Padded literal.written " -1e400".toList ∧
      literal.value ≤ -(2 ^ 1024 - 2 ^ 970) ∧
      (new .standard).writeBlock (numberBlock " -1e400") =
        (.ok (.value ⟨"-math.huge", .unary⟩), new .standard) := by
  let part : ExponentPart :=
    ⟨'e', .absent, ['4', '0', '0'], Or.inl rfl, by simp, by simp⟩
  let literal : DecimalLiteral :=
    ⟨.minus, ['1'], none, some part, by simp, by simp, Or.inl (by simp)⟩
  have hpadded : Text.Padded literal.written " -1e400".toList :=
    ⟨[' '], [], by simp; decide, by simp, by decide⟩
  have hmagnitude : literal.magnitudeBy Numeral.digitsValue = decimalValue 1 400 := rfl
  have hvalue : literal.value ≤ -(2 ^ 1024 - 2 ^ 970) := by
    have hfactor : literal.value = -(10 : ℚ) ^ (400 : Int) := by
      rw [DecimalLiteral.value, hmagnitude, decimalValue]
      simp [literal, Sign.factor]
    rw [hfactor]
    exact neg_le_neg (small_lt_large.2.trans
      (DecimalLiteral.two_pow_lt_ten_zpow (by decide)).le)
  obtain ⟨_, _, hliteral⟩ :=
    @number_classified _ _ (new .standard) rfl [("NUM", " -1e400")] .empty _ rfl
  obtain ⟨value, hwrite, _, hexact⟩ := hliteral literal hpadded
  obtain rfl := (hexact (Or.inl (by rintro _ ⟨rfl⟩; decide))).largeNegative hvalue
  exact ⟨literal, hpadded, hvalue, hwrite⟩

end Numbers

section Cut

/-- A power of ten that is written with all its zeros and scaled by an exponent. -/
def scaledPower
    (zeros : Nat)
    (part : ExponentPart) : DecimalLiteral where
  sign := .absent
  whole := '1' :: List.replicate zeros '0'
  places? := none
  exponent? := some part
  wholeDigits := by
    intro c hc
    rcases List.mem_cons.mp hc with rfl | hc
    · decide
    · rw [List.eq_of_mem_replicate hc]
      decide
  placesDigits := by simp
  digitsSome := Or.inl (by simp)

/-- The value of the power of ten, by what the digits of the exponent say. -/
theorem magnitudeBy_scaledPower
    (size : List Char → Nat)
    (zeros : Nat)
    (part : ExponentPart) :
    (scaledPower zeros part).magnitudeBy size =
      decimalValue 1 (part.sign.factor * size part.digits + zeros) := by
  have hdigits : Numeral.digitsValue (scaledPower zeros part).mantissa = 1 * 10 ^ zeros := by
    have hsplit : (scaledPower zeros part).mantissa = ['1'] ++ List.replicate zeros '0' := by
      simp [scaledPower, DecimalLiteral.mantissa]
    have hone : Numeral.digitsValue ['1'] = 1 := by
      decide
    rw [hsplit, Numeral.digitsValue_append, Nat.ofDigitChars_replicate_zero, hone, Nat.mul_comm]
  rw [DecimalLiteral.magnitudeBy, hdigits, decimalValue_mul_pow]
  simp [scaledPower, DecimalLiteral.scaleBy, DecimalLiteral.exponentBy]

/-- If an exponent is read as the number of the zeros, the power of ten is written as one. -/
theorem numberValue_scaledPower
    {zeros : Nat}
    {part : ExponentPart}
    (hminus : part.sign = .minus)
    (hread : Numeral.exponentValue part.digits = zeros)
    {text : String}
    (hpadded : Text.Padded (scaledPower zeros part).written text.toList) :
    numberValue text = .ok ⟨"1", .atomic⟩ := by
  have hvalue := magnitudeBy_scaledPower Numeral.exponentValue zeros part
  have hcancel : part.sign.factor * (Numeral.exponentValue part.digits : Int) + zeros = 0 := by
    rw [hminus, hread, Sign.factor]
    omega
  rw [hcancel] at hvalue
  have hunits : (scaledPower zeros part).units = Binary64.ofDecimal 1 0 :=
    Binary64.ofDecimal_congr hvalue
  have hfinite : ¬ Binary64.limit ≤ Binary64.ofDecimal 1 0 := by
    decide +kernel
  have hone : finiteValue false (Binary64.ofDecimal 1 0) = ⟨"1", .atomic⟩ := by
    decide +kernel
  rw [numberValue_literal hpadded, hunits, if_neg hfinite]
  exact congrArg Except.ok hone

/-- The exponent `-655360`, whose last digit is not read. -/
def cutExponent : ExponentPart where
  letter := 'e'
  sign := .minus
  digits := ['6', '5', '5', '3', '6', '0']
  isLetter := Or.inl rfl
  digitsOnly := by simp
  digitsSome := by simp

/-- The literal is read as one, and its exact value is far below the least number of the format. -/
theorem small_scaledPower
    {zeros : Nat}
    (hzeros : zeros = 65536) :
    |(scaledPower zeros cutExponent).value| ≤ 1 / 2 ^ 1075 := by
  have hdigits : Numeral.digitsValue cutExponent.digits = 655360 := by
    decide
  have hfactor : cutExponent.sign.factor = -1 := rfl
  rw [DecimalLiteral.abs_value, magnitudeBy_scaledPower, hdigits, hfactor, decimalValue,
    Nat.cast_one, one_mul]
  obtain ⟨places, hplaces⟩ : ∃ places : Int, -1 * ((655360 : Nat) : Int) + zeros = -places :=
    ⟨_, (neg_neg _).symm⟩
  rw [hplaces, zpow_neg, ← one_div]
  exact one_div_le_one_div_of_le (by positivity)
    (DecimalLiteral.two_pow_lt_ten_zpow (by omega)).le

/-- The literal is written as one. -/
theorem writeBlock_scaledPower
    {zeros : Nat}
    (hzeros : zeros = 65536) :
    (new .standard).writeBlock
        (numberBlock (String.ofList (scaledPower zeros cutExponent).written)) =
      (.ok (.value ⟨"1", .atomic⟩), new .standard) := by
  have hread : Numeral.exponentValue cutExponent.digits = zeros := by
    rw [hzeros]
    decide
  have hpadded : Text.Padded (scaledPower zeros cutExponent).written
      (String.ofList (scaledPower zeros cutExponent).written).toList := by
    rw [String.toList_ofList]
    exact Text.padded_self _
  have hwrite := @writeBlock_number _ _ (new .standard) rfl
    [("NUM", String.ofList (scaledPower zeros cutExponent).written)] _ rfl .empty
  rw [numberValue_scaledPower rfl hread hpadded] at hwrite
  exact hwrite

/--
The cut of the exponent shows: `1` followed by 65536 zeros and `e-655360` is far below the least
number of the format, and is written as one.
-/
theorem number_exponent_cut :
    let literal := scaledPower 65536 cutExponent
    |literal.value| ≤ 1 / 2 ^ 1075 ∧
    (new .standard).writeBlock (numberBlock (String.ofList literal.written)) =
      (.ok (.value ⟨"1", .atomic⟩), new .standard) := by
  obtain ⟨zeros, hzeros⟩ : ∃ zeros, zeros = 65536 := ⟨65536, rfl⟩
  rw [← hzeros]
  exact ⟨small_scaledPower hzeros, writeBlock_scaledPower hzeros⟩

end Cut

end Compiler
end MathBlocks
