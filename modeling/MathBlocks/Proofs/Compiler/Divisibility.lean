import MathBlocks.Proofs.Compiler.Value
import MathBlocks.Proofs.Decimal.ReadBack
import MathBlocks.Proofs.Traversal

/-!
# The divisor of a question

Whether a number can be divided by another one is asked by the remainder of the two. The divisor is
asked for at the level of the remainder itself, so one that is a product, a quotient or a remainder
is written bare: the question is then about the remainder by its first operand, carried on with the
others. Every other divisor is the divisor as a whole.
-/

namespace MathBlocks

namespace Lua

/-- Whether a text is one complete expression that is read in one way only, as that tree. -/
def ParsesAs
    (code : String)
    (tree : Expr) : Prop :=
  ∀ other, Parses code other ↔ other = tree

/-- A tree for a place of that level, in parentheses if its root binds more loosely. -/
def Expr.enclosed
    (tree : Expr)
    (allowed : BindingLevel) : Expr :=
  if tree.level ≤ allowed then tree else .group tree

theorem Reads.parsesAs
    {level : BindingLevel}
    {code : String}
    {tree : Expr}
    (h : Reads level code tree) :
    ParsesAs code tree := by
  intro other
  constructor
  · exact fun hother => Parses.unique h.parses hother
  · rintro rfl
    exact h.parses

/-- Only operations bind like a product. -/
theorem Expr.eq_binary_of_level
    {tree : Expr}
    (h : tree.level = .product) :
    ∃ operator first second,
      tree = .binary operator first second ∧
      operator.level = .product := by
  cases tree with
  | binary operator first second =>
      exact ⟨operator, first, second, rfl, h⟩
  | _ =>
      cases h

/-- An operator before a chain of its level leaves the chain as a whole in no case. -/
theorem Expr.graft_eq_binary_iff
    (left right : Expr) :
    Expr.graft .modulo left right = .binary .modulo left right ↔ right.level ≠ .product := by
  constructor
  · intro hgraft hlevel
    obtain ⟨operator, first, second, rfl, hoperator⟩ := Expr.eq_binary_of_level hlevel
    have hmodulo : operator.level = Operator.modulo.level := hoperator
    rw [Expr.graft, if_pos hmodulo] at hgraft
    -- the last operand of the chain would be the chain
    have hsize := congrArg sizeOf (Expr.binary.inj hgraft).2.2
    simp at hsize
  · intro hlevel
    have hmodulo : right.level ≠ Operator.modulo.level := hlevel
    exact Expr.graft_of_level_ne left hmodulo

theorem Expr.level_enclosed_eq_product_iff
    (tree : Expr) :
    (tree.enclosed .product).level = .product ↔ tree.level = .product := by
  unfold Expr.enclosed
  split
  · rfl
  · rename_i hlooser
    constructor
    · intro h
      cases h
    · intro h
      exact absurd (h ▸ BindingLevel.le_refl _) hlooser

end Lua

open Lua

/-- As an operand, a value is read as the tree of its code, with the parentheses around it. -/
theorem Value.Presents.reads_operand
    {value : Value}
    {tree : Expr}
    (h : value.Presents tree)
    (allowed : BindingLevel) :
    ∃ parsed,
      ParsesAs value.code parsed ∧
      Reads allowed (value.operand allowed) (parsed.enclosed allowed) := by
  obtain ⟨parsed, hreads, hlevel, _⟩ := h
  refine ⟨parsed, hreads.parsesAs, ?_⟩
  rw [Expr.enclosed, hlevel]
  split
  · rename_i hle
    rw [Value.operand, BindingLevel.enclose_of_le _ hle]
    exact hreads.loosen hle
  · rename_i hlooser
    rw [Value.operand, BindingLevel.enclose_of_lt _ (BindingLevel.lt_of_not_le hlooser)]
    exact (Reads.group (hreads.loosen value.level.le_any)).loosen (by cases allowed <;> decide)

/-- Whether a block is a number that is rounded to zero. -/
def Block.IsZeroLiteral (block : Block) : Prop :=
  block.blockType = "math_number" ∧
  ∃ text negative digits exponent,
    block.fields.text? "NUM" = some text ∧
    Numeral.ofChars? (Text.trim text.toList) = some (.finite negative digits exponent) ∧
    Binary64.ofDecimal digits exponent = 0

theorem eq_ok_of_toOption
    {α : Type}
    {outcome : Except Fault α}
    {result : α}
    (h : outcome.toOption = some result) :
    outcome = .ok result := by
  cases outcome with
  | error fault =>
      cases h
  | ok found =>
      exact congrArg Except.ok (Option.some.inj h)

namespace Tree

/-- A number that is written as the numeral zero is zero. -/
theorem eq_zero_of_finite
    {negative : Bool}
    {units : Nat}
    (hdvd : Binary64.step units ∣ units)
    (h : finite negative units = zero) :
    units = 0 := by
  have hread := Numeral.units?_shortest hdvd
  have hnegative : (negative && decide (0 < units)) = false := by
    refine Bool.eq_false_iff.mpr fun hnegative => ?_
    simp [finite, signed, hnegative, zero] at h
  have hnumeral : String.ofList
      (positional (Binary64.shortest units).1 (Binary64.shortest units).2) = "0" := by
    simpa [finite, signed, hnegative, zero] using h
  have hzero := @Numeral.units?_shortest 0 (Nat.dvd_zero _)
  have hwritten : String.ofList
      (positional (Binary64.shortest 0).1 (Binary64.shortest 0).2) = "0" := by
    decide
  rw [hnumeral, ← hwritten, hzero] at hread
  exact (Option.some.inj hread).symm

/-- A numeral that denotes the number zero is one that is rounded to it. -/
theorem eq_finite_of_zero
    {numeral : Numeral}
    (h : ofNumeral? numeral = some zero) :
    ∃ negative digits exponent,
      numeral = .finite negative digits exponent ∧
      Binary64.ofDecimal digits exponent = 0 := by
  cases numeral with
  | notANumber =>
      cases h
  | infinite negative =>
      cases negative <;> cases h
  | finite negative digits exponent =>
      refine ⟨negative, digits, exponent, rfl, ?_⟩
      simp only [ofNumeral?] at h
      split at h
      · cases negative <;> cases h
      · exact eq_zero_of_finite (Binary64.step_ofDecimal_dvd digits exponent) (Option.some.inj h)

end Tree

/-- Only numbers stand for numerals. -/
theorem BlockKind.eq_number_of_meaning
    {naming : Naming}
    {operands : Operands}
    {block : Block}
    {kind : BlockKind}
    {text : String}
    (h : kind.meaning naming operands block = some (.value (.numeral text))) :
    kind = .number := by
  have hfunction : ∀ operator : MathOperator, ∀ operand, operator.tree operand ≠ .numeral text := by
    intro operator operand
    cases operator <;> simp [MathOperator.tree, Expr.math]
  have hconstant : ∀ constant : MathConstant, constant.tree ≠ .numeral text := by
    intro constant
    cases constant <;> simp [MathConstant.tree, Tree.huge, Expr.math]
  have hhelper : ∀ name argument, Tree.helper naming name argument ≠ some (.numeral text) := by
    intro name argument
    simp [Tree.helper]
  have hproperty : ∀ property : NumberProperty, ∀ subject,
      property.tree naming operands subject ≠ some (.numeral text) := by
    intro property subject
    cases property with
    | prime =>
        exact hhelper _ _
    | divisibleBy =>
        intro h
        obtain ⟨divisor, _, htree⟩ := Option.map_eq_some_iff.mp h
        cases divisor with
        | none =>
            cases htree
        | some divisor =>
            simp only [Tree.divisible] at htree
            split at htree <;> cases htree
    | _ =>
        simp [NumberProperty.tree, Tree.remainder]
  cases kind <;> simp_all [BlockKind.meaning, Expr.math, Option.bind_eq_some_iff]

/-- A block that stands for the number zero is a number that is rounded to it. -/
theorem Block.isZeroLiteral_of_meaning
    {naming : Naming}
    {block : Block}
    (h : block.meaning naming = some (.value Tree.zero)) :
    block.IsZeroLiteral := by
  obtain ⟨blockType, fields, inputs⟩ := block
  rw [Block.meaning] at h
  obtain ⟨kind, hread, hkind⟩ := Option.bind_eq_some_iff.mp h
  obtain rfl := BlockKind.eq_number_of_meaning hkind
  have htype : "math_number" = blockType := Tagged.tag_of_read (eq_ok_of_toOption hread)
  simp only [BlockKind.meaning, Option.bind_eq_bind, Option.bind_eq_some_iff] at hkind
  obtain ⟨text, hfield, tree, htree, hzero⟩ := hkind
  obtain rfl : tree = Tree.zero := by simpa using hzero
  obtain ⟨numeral, hnumeral, hvalue⟩ := Option.bind_eq_some_iff.mp htree
  obtain ⟨negative, digits, exponent, rfl, hunits⟩ := Tree.eq_finite_of_zero hvalue
  have htext := Block.text?_of_neededField (eq_ok_of_toOption hfield)
  exact ⟨htype.symm, text, negative, digits, exponent, htext, hnumeral, hunits⟩

/-- What is plugged into a slot is written as the block that it is, for the place of an operand. -/
theorem Inputs.write_of_block?
    {ν : Type}
    [NameSource ν]
    {customs : Customs}
    {slot : String}
    {child : Block}
    {value : Value}
    {pass after : Pass ν}
    (allowed : BindingLevel)
    (hwrite : child.writeValue customs pass = (.ok value, after))
    (inputs : Inputs)
    (hblock : inputs.block? slot = some child) :
    inputs.write customs slot allowed pass = (.ok (some (value.operand allowed)), after) := by
  rw [Inputs.write_eq, hblock, Option.elim_some, hwrite]
  rfl

/-- The block that asks whether a number can be divided by another one follows this recipe. -/
theorem Block.write_divisibleBy
    {fields : Fields}
    (hproperty : fields.text? "PROPERTY" = some "DIVISIBLE_BY")
    (inputs : Inputs)
    (pass : Pass NameDirectory) :
    (Block.node "math_number_property" fields inputs).write [] pass =
      (Recipe.operandOr "NUMBER_TO_CHECK" .product "0" >>= divisibleByRecipe).run
        (Pass.supplier (inputs.write [])) pass := by
  have hkind : (Tagged.read "math_number_property" : Except Fault BlockKind) =
      .ok .numberProperty := by
    decide
  have hblock : (Block.node "math_number_property" fields inputs).kind = .ok .numberProperty :=
    hkind
  have hread : (Block.node "math_number_property" fields inputs).readTag "PROPERTY" =
      .ok NumberProperty.divisibleBy := by
    have hfield : (Block.node "math_number_property" fields inputs).neededField "PROPERTY" =
        .ok "DIVISIBLE_BY" := by
      simp [Block.neededField, Block.fields, hproperty]
    rw [Block.readTag, hfield]
    decide
  rw [Block.write_eq]
  show (mathRecipe (.node "math_number_property" fields inputs)).run
    (Pass.supplier (inputs.write [])) pass = _
  rw [mathRecipe, hblock]
  show (propertyRecipe (.node "math_number_property" fields inputs)).run
    (Pass.supplier (inputs.write [])) pass = _
  rw [propertyRecipe, hread]
  rfl

/-- With operands of which the divisor is not zero, the question is about the remainder. -/
theorem Block.write_divisibleBy_remainder
    {fields : Fields}
    {inputs : Inputs}
    {subject : Option String}
    {divisor : String}
    {pass middle after : Pass NameDirectory}
    (hproperty : fields.text? "PROPERTY" = some "DIVISIBLE_BY")
    (hsubject : inputs.write [] "NUMBER_TO_CHECK" .product pass = (.ok subject, middle))
    (hdivisor : inputs.write [] "DIVISOR" .product middle = (.ok (some divisor), after))
    (hzero : divisor ≠ "0") :
    (Block.node "math_number_property" fields inputs).write [] pass =
      (.ok (.expression (subject.getD "0" ++ " % " ++ divisor ++ " == 0") .comparison), after) := by
  have hfirst : (Recipe.operandOr "NUMBER_TO_CHECK" .product "0").run
      (Pass.supplier (inputs.write [])) pass = (.ok (subject.getD "0"), middle) := by
    rw [Recipe.operandOr, Recipe.run_bind, Recipe.run_operand?]
    simp [Pass.supplier, hsubject, pure, Recipe.run]
  have hsecond : (divisibleByRecipe (subject.getD "0")).run
      (Pass.supplier (inputs.write [])) middle =
        (.ok (.expression (subject.getD "0" ++ " % " ++ divisor ++ " == 0") .comparison),
          after) := by
    rw [divisibleByRecipe, Recipe.run_bind, Recipe.run_operand?]
    simp [Pass.supplier, hdivisor, hzero, pure, Recipe.run]
  rw [Block.write_divisibleBy hproperty, Recipe.run_bind, hfirst]
  exact hsecond

/-- The block that asks whether a number can be divided by another one is written as this. -/
theorem Block.writeValue_divisibleBy
    {fields : Fields}
    {inputs : Inputs}
    {subject divisor : Block}
    {dividend value : Value}
    {pass middle after : Pass NameDirectory}
    (hproperty : fields.text? "PROPERTY" = some "DIVISIBLE_BY")
    (hsubject : inputs.block? "NUMBER_TO_CHECK" = some subject)
    (hdivisor : inputs.block? "DIVISOR" = some divisor)
    (hwriteSubject : subject.writeValue [] pass = (.ok dividend, middle))
    (hwriteDivisor : divisor.writeValue [] middle = (.ok value, after))
    (hzero : value.operand .product ≠ "0") :
    (Block.node "math_number_property" fields inputs).writeValue [] pass =
      (.ok ⟨dividend.operand .product ++ " % " ++ value.operand .product ++ " == 0", .comparison⟩,
        after) := by
  have hdividend := inputs.write_of_block? .product hwriteSubject hsubject
  have hvalue := inputs.write_of_block? .product hwriteDivisor hdivisor
  unfold Block.writeValue
  rw [Block.write_divisibleBy_remainder hproperty hdividend hvalue hzero]
  rfl

/-- The remainder by an operand, compared with zero, is read as the operand's chain takes it up. -/
theorem Lua.Reads.divisible
    {left right : String}
    {first second : Expr}
    (hleft : Reads .product left first)
    (hright : Reads .product right second) :
    Reads .comparison (left ++ " % " ++ right ++ " == 0")
      (.binary .equal (Expr.graft .modulo first second) (.numeral "0")) := by
  have hregroups : Operator.modulo.regroups = true := rfl
  have hremainder : Reads .product (left ++ " % " ++ right) (Expr.graft .modulo first second) :=
    Reads.graft hregroups hleft hright
  have hzero : Reads .atomic "0" (.numeral "0") := .numeral (by decide)
  have hwhole := Reads.binary .equal (hremainder.loosen (by decide)) (hzero.loosen (by decide))
  rwa [String.append_assoc] at hwhole

namespace Compiler

/-- The block that asks whether a number can be divided by another one. -/
def divisibilityBlock (subject divisor : Block) : Block :=
  .node "math_number_property" [("PROPERTY", "DIVISIBLE_BY")]
    (.plug "NUMBER_TO_CHECK" subject (.plug "DIVISOR" divisor .empty))

/-- A block that is written as a value presents what it stands for. -/
theorem Belongs.writeValue_presents
    {settings : Settings}
    {compiler after : Compiler NameDirectory}
    (h : compiler.Belongs settings)
    (hcustoms : compiler.customs = [])
    {block : Block}
    {value : Value}
    (hwrite : compiler.writeValue block = (.ok value, after)) :
    ∃ tree,
      block.meaning after.pass.naming = some (.value tree) ∧
      value.Presents tree := by
  obtain ⟨log, hagrees⟩ := h.writeBlock_agrees hcustoms block
  rw [writeBlock_of_writeValue hwrite] at hagrees
  cases hmeaning : block.meaning after.pass.naming with
  | none =>
      rw [hmeaning] at hagrees
      exact hagrees.elim
  | some meaning =>
      rw [hmeaning] at hagrees
      cases meaning with
      | value tree =>
          exact ⟨tree, rfl, hagrees.1⟩
      | assignment identifier tree =>
          exact hagrees.1.elim

/-- A compiler writes a value in its pass, and nothing else of it changes. -/
theorem writeValue_eq_ok_iff
    {compiler after : Compiler NameDirectory}
    {block : Block}
    {value : Value} :
    compiler.writeValue block = (.ok value, after) ↔
      block.writeValue compiler.customs compiler.pass = (.ok value, after.pass) ∧
      after.settings = compiler.settings ∧
      after.customs = compiler.customs := by
  obtain ⟨settings, customs, pass⟩ := after
  unfold writeValue
  cases block.writeValue compiler.customs compiler.pass with
  | mk result written =>
      constructor
      · intro h
        obtain ⟨rfl, hafter⟩ := Prod.mk.inj h
        cases hafter
        exact ⟨rfl, rfl, rfl⟩
      · rintro ⟨h, rfl, rfl⟩
        obtain ⟨rfl, rfl⟩ := Prod.mk.inj h
        rfl

/-- A compiler that has written a value belongs to its settings, with the same writers. -/
theorem Belongs.writeValue
    {settings : Settings}
    {compiler after : Compiler NameDirectory}
    (h : compiler.Belongs settings)
    {block : Block}
    {value : Value}
    (hwrite : compiler.writeValue block = (.ok value, after)) :
    after.Belongs settings ∧
    after.customs = compiler.customs := by
  have hafter : (compiler.serve (.value block)).2 = after := congrArg Prod.snd hwrite
  exact ⟨hafter ▸ h.serve _, (writeValue_eq_ok_iff.mp hwrite).2.2⟩

/-- The numeral zero is written for nothing but a number that is zero. -/
theorem Belongs.operand_ne_zero
    {settings : Settings}
    {compiler after : Compiler NameDirectory}
    (h : compiler.Belongs settings)
    (hcustoms : compiler.customs = [])
    {block : Block}
    {value : Value}
    (hwrite : compiler.writeValue block = (.ok value, after))
    (hzero : ¬ block.IsZeroLiteral) :
    value.operand .product ≠ "0" := by
  intro hoperand
  obtain ⟨tree, hmeaning, hpresents⟩ := h.writeValue_presents hcustoms hwrite
  obtain rfl : tree = Tree.zero :=
    ((hpresents.stands .product).eq_numeral_iff "0" (by decide)).mp hoperand
  exact hzero (Block.isZeroLiteral_of_meaning hmeaning)

/--
After any calls that register no writers, the question whether a number can be divided by another
one is written if both are and the divisor is no zero, and it compares a remainder with zero. It is
the remainder of the whole subject by the first operand of the divisor, which goes on from there;
that is the remainder by the whole divisor exactly if the divisor does not bind like a product.
-/
theorem divisor_whole_iff
    (settings : Settings)
    (calls : List Call)
    (hcustoms : ((new settings).after calls).customs = [])
    {fields : Fields}
    {inputs : Inputs}
    {subject divisor : Block}
    {dividend value : Value}
    {middle after : Compiler NameDirectory}
    (hproperty : fields.text? "PROPERTY" = some "DIVISIBLE_BY")
    (hsubject : inputs.block? "NUMBER_TO_CHECK" = some subject)
    (hdivisor : inputs.block? "DIVISOR" = some divisor)
    (hzero : ¬ divisor.IsZeroLiteral)
    (hwriteSubject : ((new settings).after calls).writeValue subject = (.ok dividend, middle))
    (hwriteDivisor : middle.writeValue divisor = (.ok value, after)) :
    ∃ code left right,
      ((new settings).after calls).writeValue (.node "math_number_property" fields inputs) =
        (.ok ⟨code, .comparison⟩, after) ∧
      ParsesAs dividend.code left ∧
      ParsesAs value.code right ∧
      ParsesAs code
        (.binary .equal
          (Expr.graft .modulo (left.enclosed .product) (right.enclosed .product))
          (.numeral "0")) ∧
      (ParsesAs code
        (.binary .equal
          (.binary .modulo (left.enclosed .product) (right.enclosed .product))
          (.numeral "0")) ↔
        right.level ≠ .product) := by
  have hbelongs := (belongs_new settings).after calls
  obtain ⟨hmiddle, hcustomsMiddle⟩ := hbelongs.writeValue hwriteSubject
  rw [hcustoms] at hcustomsMiddle
  have hoperand := hmiddle.operand_ne_zero hcustomsMiddle hwriteDivisor hzero
  obtain ⟨_, _, hdividend⟩ := hbelongs.writeValue_presents hcustoms hwriteSubject
  obtain ⟨_, _, hvalue⟩ := hmiddle.writeValue_presents hcustomsMiddle hwriteDivisor
  obtain ⟨left, hleft, hreadsLeft⟩ := hdividend.reads_operand .product
  obtain ⟨right, hright, hreadsRight⟩ := hvalue.reads_operand .product
  have hwhole := (Reads.divisible hreadsLeft hreadsRight).parsesAs
  refine ⟨dividend.operand .product ++ " % " ++ value.operand .product ++ " == 0", left, right, ?_,
    hleft, hright, hwhole, ?_⟩
  · obtain ⟨hpass, hsettings, _⟩ := writeValue_eq_ok_iff.mp hwriteSubject
    obtain ⟨hpassDivisor, hsettingsDivisor, hcustomsAfter⟩ :=
      writeValue_eq_ok_iff.mp hwriteDivisor
    rw [hcustoms] at hpass
    rw [hcustomsMiddle] at hpassDivisor hcustomsAfter
    have hblock :=
      Block.writeValue_divisibleBy hproperty hsubject hdivisor hpass hpassDivisor hoperand
    rw [writeValue_eq_ok_iff, hcustoms]
    exact ⟨hblock, hsettingsDivisor.trans hsettings, hcustomsAfter⟩
  · rw [ne_eq, ← Expr.level_enclosed_eq_product_iff, ← ne_eq,
      ← Expr.graft_eq_binary_iff (left.enclosed .product)]
    constructor
    · intro hother
      have heq := (hwhole _).mp ((hother _).mpr rfl)
      exact (Expr.binary.inj heq).2.1.symm
    · intro heq
      rwa [heq] at hwhole

/-- A writing whose result is known is that result and the compiler that it leaves. -/
theorem eq_of_result
    {compiler : Compiler NameDirectory}
    {block : Block}
    {result : Except Fault Value}
    (h : (compiler.writeValue block).1 = result) :
    compiler.writeValue block = (result, (compiler.writeValue block).2) := by
  rw [← h]

/-- A difference as the divisor is the divisor as a whole, in parentheses. -/
theorem divisor_whole_iff_difference :
    ¬ (operatorBlock "MINUS" (numberBlock "5") (numberBlock "2")).IsZeroLiteral ∧
    ∃ code left right,
      ((new .standard).writeValue
        (divisibilityBlock (numberBlock "7")
          (operatorBlock "MINUS" (numberBlock "5") (numberBlock "2")))).1 =
        .ok ⟨code, .comparison⟩ ∧
      ParsesAs "7" left ∧
      ParsesAs "5 - 2" right ∧
      (ParsesAs code
        (.binary .equal
          (.binary .modulo (left.enclosed .product) (right.enclosed .product))
          (.numeral "0")) ↔
        right.level ≠ .product) := by
  have hzero : ¬ (operatorBlock "MINUS" (numberBlock "5") (numberBlock "2")).IsZeroLiteral :=
    fun h => absurd h.1 (by decide)
  have hsubject : ((new .standard).writeValue (numberBlock "7")).1 = .ok ⟨"7", .atomic⟩ := by
    decide +kernel
  have hdivisor :
      (((new .standard).writeValue (numberBlock "7")).2.writeValue
        (operatorBlock "MINUS" (numberBlock "5") (numberBlock "2"))).1 =
          .ok ⟨"5 - 2", .sum⟩ := by
    decide +kernel
  obtain ⟨code, left, right, hwrite, hleft, hright, _, hwhole⟩ :=
    @divisor_whole_iff .standard [] rfl [("PROPERTY", "DIVISIBLE_BY")]
      (.plug "NUMBER_TO_CHECK" (numberBlock "7")
        (.plug "DIVISOR" (operatorBlock "MINUS" (numberBlock "5") (numberBlock "2")) .empty))
      _ _ _ _ _ _ rfl rfl rfl hzero (eq_of_result hsubject) (eq_of_result hdivisor)
  exact ⟨hzero, code, left, right, congrArg Prod.fst hwrite, hleft, hright, hwhole⟩

/--
A product as the divisor is taken apart: what comes out is `7 % 2 * 3 == 0`, the product of a
remainder, and not the remainder by the product.
-/
theorem divisor_taken_apart :
    ¬ (operatorBlock "MULTIPLY" (numberBlock "2") (numberBlock "3")).IsZeroLiteral ∧
    ((new .standard).writeValue (numberBlock "7")).1 = .ok ⟨"7", .atomic⟩ ∧
    ((new .standard).writeValue
      (operatorBlock "MULTIPLY" (numberBlock "2") (numberBlock "3"))).1 =
        .ok ⟨"2 * 3", .product⟩ ∧
    ((new .standard).writeValue
      (divisibilityBlock (numberBlock "7")
        (operatorBlock "MULTIPLY" (numberBlock "2") (numberBlock "3")))).1 =
        .ok ⟨"7 % 2 * 3 == 0", .comparison⟩ ∧
    ∀ left right,
      Parses "7" left →
      Parses "2 * 3" right →
      ¬ Parses "7 % 2 * 3 == 0"
        (.binary .equal
          (.binary .modulo (left.enclosed .product) (right.enclosed .product))
          (.numeral "0")) := by
  refine ⟨fun h => absurd h.1 (by decide), by decide +kernel, by decide +kernel, by decide +kernel,
    ?_⟩
  have hzero : Reads .atomic "0" (.numeral "0") := .numeral (by decide)
  have htwo : Reads .atomic "2" (.numeral "2") := .numeral (by decide)
  have hthree : Reads .atomic "3" (.numeral "3") := .numeral (by decide)
  have hseven : Reads .atomic "7" (.numeral "7") := .numeral (by decide)
  have hproduct : Reads .product "2 * 3" (.binary .times (.numeral "2") (.numeral "3")) :=
    .binary .times (htwo.loosen (by decide)) (hthree.loosen (by decide))
  have hremainder : Reads .product "7 % 2" (.binary .modulo (.numeral "7") (.numeral "2")) :=
    .binary .modulo (hseven.loosen (by decide)) (htwo.loosen (by decide))
  have htaken : Reads .product "7 % 2 * 3"
      (.binary .times (.binary .modulo (.numeral "7") (.numeral "2")) (.numeral "3")) :=
    .binary .times hremainder (hthree.loosen (by decide))
  have hquestion : Reads .comparison "7 % 2 * 3 == 0"
      (.binary .equal
        (.binary .times (.binary .modulo (.numeral "7") (.numeral "2")) (.numeral "3"))
        (.numeral "0")) :=
    .binary .equal (htaken.loosen (by decide)) (hzero.loosen (by decide))
  intro left right hleft hright hwhole
  obtain rfl := (hseven.parsesAs left).mp hleft
  obtain rfl := (hproduct.parsesAs right).mp hright
  exact absurd ((hquestion.parsesAs _).mp hwhole) (by decide)

end Compiler
end MathBlocks
