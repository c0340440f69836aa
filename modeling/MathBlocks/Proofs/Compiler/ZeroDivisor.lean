import MathBlocks.Proofs.Compiler.Divisibility
import MathBlocks.Proofs.Compiler.NumberLiterals

/-!
# Questions without an answer

Whether a number can be divided by zero has no answer. The question is written as `nil` if its
divisor is missing or is a literal that is read as zero; no other block is written as the numeral
zero, so any other question is the comparison of a remainder.
-/

namespace MathBlocks

/-- Whether a block is a number whose literal is rounded to zero, by what literals are worth. -/
def Block.IsSmallLiteral
    (worth : DecimalLiteral → ℚ)
    (block : Block) : Prop :=
  block.blockType = "math_number" ∧
  ∃ text literal,
    block.fields.text? "NUM" = some text ∧
    Text.Padded literal.written text.toList ∧
    |worth literal| ≤ 1 / 2 ^ 1075

theorem Block.isZeroLiteral_iff
    (block : Block) :
    block.IsZeroLiteral ↔ block.IsSmallLiteral DecimalLiteral.readValue := by
  constructor
  · rintro ⟨htype, text, negative, digits, exponent, hfield, hread, hzero⟩
    obtain ⟨literal, hpadded, _, hunits⟩ := Numeral.exists_padded hread
    rw [← hunits] at hzero
    exact ⟨htype, text, literal, hfield, hpadded, literal.units_eq_zero_iff.mp hzero⟩
  · rintro ⟨htype, text, literal, hfield, hpadded, hsmall⟩
    exact ⟨htype, text, _, _, _, hfield, Numeral.ofChars?_literal hpadded,
      literal.units_eq_zero_iff.mpr hsmall⟩

/-- What is in a slot is nothing, or the block that is plugged in as an operand. -/
theorem Inputs.write_eq_ok
    {ν : Type}
    [NameSource ν]
    {customs : Customs}
    {slot : String}
    {allowed : BindingLevel}
    {answer : Option String}
    {pass after : Pass ν}
    (inputs : Inputs)
    (h : inputs.write customs slot allowed pass = (.ok answer, after)) :
    (inputs.block? slot = none ∧ answer = none ∧ after = pass) ∨
    ∃ child value,
      inputs.block? slot = some child ∧
      child.writeValue customs pass = (.ok value, after) ∧
      answer = some (value.operand allowed) := by
  rw [Inputs.write_eq] at h
  cases hblock : inputs.block? slot with
  | none =>
      rw [hblock] at h
      cases h
      exact Or.inl ⟨rfl, rfl, rfl⟩
  | some child =>
      rw [hblock, Option.elim_some] at h
      rcases hchild : child.writeValue customs pass with ⟨fault | value, middle⟩
      · simp [hchild, Except.map] at h
      · simp only [hchild, Except.map, Prod.mk.injEq, Except.ok.injEq] at h
        exact Or.inr ⟨child, value, rfl, h.2 ▸ hchild, h.1.symm⟩

/-- Whether the literal of a block is short, if the block is a number. -/
def Block.HasShortLiteral (block : Block) : Prop :=
  block.blockType = "math_number" →
  ∀ (text : String) (literal : DecimalLiteral),
    block.fields.text? "NUM" = some text →
    Text.Padded literal.written text.toList →
      literal.IsShort

/-- A short literal is read as zero exactly if its value is rounded to zero. -/
theorem Block.isSmallLiteral_congr
    {block : Block}
    (hshort : block.HasShortLiteral) :
    block.IsSmallLiteral DecimalLiteral.readValue ↔ block.IsSmallLiteral DecimalLiteral.value := by
  refine and_congr_right fun htype => exists_congr fun text => exists_congr fun literal => ?_
  refine and_congr_right fun hfield => and_congr_right fun hpadded => ?_
  exact (literal.readValue_sameRange (hshort htype text literal hfield hpadded)).small

/-- How a question with that answer for its divisor is written. -/
inductive DivisibilityCode : Option String → Code → Prop
  | missing : DivisibilityCode none (.expression "nil" .atomic)
  | zero : DivisibilityCode (some "0") (.expression "nil" .atomic)
  | remainder
      {divisor : String}
      (remainder : String)
      (hne : divisor ≠ "0") :
      DivisibilityCode (some divisor) (.expression (remainder ++ " == 0") .comparison)

theorem DivisibilityCode.eq_nil_iff
    {answer : Option String}
    {code : Code}
    (h : DivisibilityCode answer code) :
    code = .expression "nil" .atomic ↔ answer = none ∨ answer = some "0" := by
  cases h with
  | missing =>
      simp
  | zero =>
      simp
  | remainder remainder hne =>
      simp [Code.expression, hne]

theorem DivisibilityCode.exists_remainder
    {answer : Option String}
    {code : Code}
    (h : DivisibilityCode answer code)
    (hne : code ≠ .expression "nil" .atomic) :
    ∃ remainder, code = .expression (remainder ++ " == 0") .comparison := by
  cases h with
  | missing =>
      exact absurd rfl hne
  | zero =>
      exact absurd rfl hne
  | remainder remainder _ =>
      exact ⟨remainder, rfl⟩

/-- If the question is written, both operands are, and the divisor says what is written. -/
theorem Block.write_divisibleBy_ok
    {fields : Fields}
    {inputs : Inputs}
    {code : Code}
    {pass after : Pass NameDirectory}
    (hproperty : fields.text? "PROPERTY" = some "DIVISIBLE_BY")
    (hwrite : (Block.node "math_number_property" fields inputs).write [] pass = (.ok code, after)) :
    ∃ subject divisor middle,
      inputs.write [] "NUMBER_TO_CHECK" .product pass = (.ok subject, middle) ∧
      inputs.write [] "DIVISOR" .product middle = (.ok divisor, after) ∧
      DivisibilityCode divisor code := by
  rw [Block.write_divisibleBy hproperty] at hwrite
  obtain ⟨_, middle, hfirst, hsecond⟩ := Recipe.exists_of_run_bind hwrite
  obtain ⟨subject, _, hsubject, hdone⟩ := Recipe.exists_of_run_bind hfirst
  cases hdone
  obtain ⟨divisor, _, hdivisor, hcode⟩ := Recipe.exists_of_run_bind hsecond
  rw [Recipe.run_operand?] at hsubject hdivisor
  cases divisor with
  | none =>
      cases hcode
      exact ⟨subject, none, middle, hsubject, hdivisor, .missing⟩
  | some divisor =>
      simp only at hcode
      split at hcode
      · rename_i heq
        cases hcode
        rw [heq] at hdivisor
        exact ⟨subject, some "0", middle, hsubject, hdivisor, .zero⟩
      · rename_i hne
        cases hcode
        exact ⟨subject, some divisor, middle, hsubject, hdivisor, .remainder _ hne⟩

namespace Compiler

/-- A number that is read as zero is written as the numeral zero. -/
theorem operand_of_isSmallLiteral
    {compiler after : Compiler NameDirectory}
    (hcustoms : compiler.customs = [])
    {block : Block}
    {value : Value}
    (hzero : block.IsSmallLiteral DecimalLiteral.readValue)
    (hwrite : compiler.writeValue block = (.ok value, after)) :
    value.operand .product = "0" := by
  obtain ⟨blockType, fields, inputs⟩ := block
  obtain ⟨rfl, text, literal, hfield, hpadded, hsmall⟩ := hzero
  have hwriter : compiler.customs.writer? "math_number" = none := by
    rw [hcustoms]
    rfl
  have hfield' : fields.text? "NUM" = some text := hfield
  have hblock := writeBlock_of_writeValue hwrite
  rw [writeBlock_number hwriter hfield'] at hblock
  obtain ⟨found, hfound, hclassifies⟩ := exists_classifies hpadded
  rw [hfound, hclassifies.small hsmall] at hblock
  obtain rfl : value = ⟨"0", .atomic⟩ := by
    cases hblock
    rfl
  decide

/-- An operand is missing or the numeral zero if nothing or a zero is plugged in. -/
theorem Belongs.answer_iff
    {settings : Settings}
    {compiler : Compiler NameDirectory}
    (h : compiler.Belongs settings)
    (hcustoms : compiler.customs = [])
    {inputs : Inputs}
    {slot : String}
    {answer : Option String}
    {after : Pass NameDirectory}
    (hwrite : inputs.write [] slot .product compiler.pass = (.ok answer, after)) :
    answer = none ∨ answer = some "0" ↔
      inputs.block? slot = none ∨
      ∃ divisor,
        inputs.block? slot = some divisor ∧
        divisor.IsSmallLiteral DecimalLiteral.readValue := by
  rcases inputs.write_eq_ok hwrite with ⟨hblock, rfl, _⟩ | ⟨divisor, value, hblock, hvalue, rfl⟩
  · simp [hblock]
  · have hdivisor : compiler.writeValue divisor = (.ok value, { compiler with pass := after }) :=
      writeValue_eq_ok_iff.mpr ⟨by rw [hcustoms]; exact hvalue, rfl, rfl⟩
    have hzero :
        value.operand .product = "0" ↔ divisor.IsSmallLiteral DecimalLiteral.readValue := by
      constructor
      · intro hoperand
        by_contra hsmall
        rw [← Block.isZeroLiteral_iff] at hsmall
        exact h.operand_ne_zero hcustoms hdivisor hsmall hoperand
      · exact fun hsmall => operand_of_isSmallLiteral hcustoms hsmall hdivisor
    simp [hblock, hzero]

/--
After any calls that register no writers, a question whether a number can be divided by another one
that is written at all is written as `nil` exactly if its divisor is missing or is a literal that is
read as zero; a short literal is so if its exact value is rounded to zero. Any other question, with
whatever divisor, is a comparison with zero.
-/
theorem divisibility_nil_iff
    (settings : Settings)
    (calls : List Call)
    (hcustoms : ((new settings).after calls).customs = [])
    {fields : Fields}
    {inputs : Inputs}
    {code : Code}
    {after : Compiler NameDirectory}
    (hproperty : fields.text? "PROPERTY" = some "DIVISIBLE_BY")
    (hwrite : ((new settings).after calls).writeBlock (.node "math_number_property" fields inputs) =
      (.ok code, after)) :
    (code = .expression "nil" .atomic ↔
      inputs.block? "DIVISOR" = none ∨
      ∃ divisor,
        inputs.block? "DIVISOR" = some divisor ∧
        divisor.IsSmallLiteral DecimalLiteral.readValue) ∧
    ((∀ divisor, inputs.block? "DIVISOR" = some divisor → divisor.HasShortLiteral) →
      (code = .expression "nil" .atomic ↔
        inputs.block? "DIVISOR" = none ∨
        ∃ divisor,
          inputs.block? "DIVISOR" = some divisor ∧
          divisor.IsSmallLiteral DecimalLiteral.value)) ∧
    (code ≠ .expression "nil" .atomic →
      ∃ remainder, code = .expression (remainder ++ " == 0") .comparison) := by
  have hbelongs := (belongs_new settings).after calls
  generalize (new settings).after calls = compiler at *
  have hblock : (Block.node "math_number_property" fields inputs).write [] compiler.pass =
      (.ok code, after.pass) := by
    simp only [writeBlock, hcustoms] at hwrite
    rw [← (Prod.mk.inj hwrite).1, ← (Prod.mk.inj hwrite).2]
  obtain ⟨_, answer, middle, hsubject, hdivisor, hcode⟩ :=
    Block.write_divisibleBy_ok hproperty hblock
  -- the subject leaves a pass in which the divisor is written
  obtain ⟨_, hserves⟩ := inputs.write_serves [] "NUMBER_TO_CHECK" .product compiler.pass
  rw [hsubject] at hserves
  have hnil := ((hbelongs.serves hserves).answer_iff hcustoms hdivisor)
  rw [← hcode.eq_nil_iff] at hnil
  refine ⟨hnil, ?_, hcode.exists_remainder⟩
  intro hshort
  rw [hnil]
  refine or_congr_right (exists_congr fun divisor => and_congr_right fun hplugged => ?_)
  exact Block.isSmallLiteral_congr (hshort divisor hplugged)

/-- A literal below half of the least number of the format is a divisor without an answer. -/
theorem divisibility_nil_iff_underflow :
    ((new .standard).writeBlock (divisibilityBlock (numberBlock "7") (numberBlock "1e-400"))).1 =
      .ok (.expression "nil" .atomic) ∧
    (numberBlock "1e-400").IsSmallLiteral DecimalLiteral.readValue := by
  have hresult : ((new .standard).writeBlock
      (divisibilityBlock (numberBlock "7") (numberBlock "1e-400"))).1 =
        .ok (.expression "nil" .atomic) := by
    decide +kernel
  have hwrite : (new .standard).writeBlock
      (divisibilityBlock (numberBlock "7") (numberBlock "1e-400")) =
        (.ok (.expression "nil" .atomic), ((new .standard).writeBlock
          (divisibilityBlock (numberBlock "7") (numberBlock "1e-400"))).2) := by
    rw [← hresult]
  obtain ⟨hnil, _, _⟩ :=
    @divisibility_nil_iff .standard [] rfl [("PROPERTY", "DIVISIBLE_BY")]
      (.plug "NUMBER_TO_CHECK" (numberBlock "7") (.plug "DIVISOR" (numberBlock "1e-400") .empty))
      _ _ rfl hwrite
  rcases hnil.mp rfl with hnone | ⟨divisor, hplugged, hsmall⟩
  · cases hnone
  · cases hplugged
    exact ⟨hresult, hsmall⟩

/-- Without a subject, the question is about zero. -/
theorem write_divisibleBy_missing
    {divisor : Block}
    {value : Value}
    {pass after : Pass NameDirectory}
    (hdivisor : divisor.writeValue [] pass = (.ok value, after))
    (hzero : value.operand .product ≠ "0") :
    (Block.node "math_number_property" [("PROPERTY", "DIVISIBLE_BY")]
        (.plug "DIVISOR" divisor .empty)).write [] pass =
      (.ok (.expression ("0 % " ++ value.operand .product ++ " == 0") .comparison), after) := by
  have hsubject : (Inputs.plug "DIVISOR" divisor .empty).write [] "NUMBER_TO_CHECK" .product pass =
      (.ok none, pass) := by
    simp [Inputs.write]
  have hplugged : (Inputs.plug "DIVISOR" divisor .empty).block? "DIVISOR" = some divisor := rfl
  have hvalue := Inputs.write_of_block? .product hdivisor _ hplugged
  exact Block.write_divisibleBy_remainder rfl hsubject hvalue hzero

/--
The cut of the exponent shows: `1` followed by 65536 zeros and `e-655360` is rounded to zero, but it
is read as one, and the question is written as a comparison.
-/
theorem divisibility_exponent_cut :
    let literal := scaledPower 65536 cutExponent
    let text := String.ofList literal.written
    (numberBlock text).IsSmallLiteral DecimalLiteral.value ∧
    (new .standard).writeBlock
        (.node "math_number_property" [("PROPERTY", "DIVISIBLE_BY")]
          (.plug "DIVISOR" (numberBlock text) .empty)) =
      (.ok (.expression "0 % 1 == 0" .comparison), new .standard) := by
  obtain ⟨zeros, hzeros⟩ : ∃ zeros, zeros = 65536 := ⟨65536, rfl⟩
  rw [← hzeros]
  intro literal text
  refine ⟨⟨rfl, text, literal, rfl, ?_, small_scaledPower hzeros⟩, ?_⟩
  · rw [String.toList_ofList]
    exact Text.padded_self _
  · -- the subject is missing, and the divisor is written as one
    have hnumber : (numberBlock text).writeValue [] (new .standard).pass =
        (.ok ⟨"1", .atomic⟩, (new .standard).pass) :=
      (writeValue_eq_ok_iff.mp (writeValue_of_writeBlock (writeBlock_scaledPower hzeros))).1
    have hwrite := write_divisibleBy_missing hnumber (by decide)
    unfold writeBlock
    have hcustoms : (new .standard).customs = [] := rfl
    rw [hcustoms, hwrite]
    rfl

end Compiler
end MathBlocks
