import MathBlocks.Proofs.Decimal.Positional
import MathBlocks.Proofs.Emit.Renders

/-!
# What the recipes render

One theorem for the recipe of each kind of block: from operands that are rendered, it writes a
value that presents the tree that the block stands for, or the line of an assignment.
-/

namespace MathBlocks

open Lua

/-- Whether a block is written as what it stands for. -/
def Code.Presents : Code → Meaning → Prop
  | .value v, .value tree => v.Presents tree
  | .statement lines, .assignment identifier tree =>
      ∃ code,
        lines = [identifier ++ " = " ++ code] ∧
        Value.Presents ⟨code, .sum⟩ tree
  | _, _ => False

/-- An expression that is there, with its code put together in another way. -/
theorem Renders.expression
    {reserved : List String}
    {naming : Naming}
    {inputs : Inputs}
    {code other : String}
    {level : BindingLevel}
    {tree : Expr}
    (hcode : code = other)
    (h : Value.Presents ⟨other, level⟩ tree) :
    Renders reserved naming Code.Presents []
      ((Recipe.done (Code.expression code level)).step inputs) (some (.value tree)) := by
  rw [hcode]
  exact Renders.done h

namespace Tree

theorem stands_zero
    (allowed : BindingLevel) :
    Stands allowed "0" zero := by
  have hpresents : Value.Presents ⟨"0", .atomic⟩ zero := .numeral (by decide)
  exact hpresents.stands_of_le _ (by cases allowed <;> decide)

theorem presents_huge :
    Value.Presents ⟨"math.huge", .call⟩ huge :=
  .mathField "huge" (by decide)

theorem presents_negativeHuge :
    Value.Presents ⟨"-math.huge", .unary⟩ (.negate huge) := by
  have hstands : Stands .unary "math.huge" huge := presents_huge.stands_of_le _ (by decide)
  have hnegate := Value.Presents.negate "" (by decide) hstands
  have hcode : "-math.huge" = "-" ++ "" ++ "math.huge" := by
    decide
  rw [hcode]
  exact hnegate

theorem presents_infinity
    (negative : Bool) :
    (infinityValue negative).Presents (signed negative huge) := by
  cases negative with
  | false =>
      exact presents_huge
  | true =>
      exact presents_negativeHuge

/-- A number in positional notation is a numeral. -/
theorem lex_positional
    (digits : Nat)
    (exponent : Int) :
    lex (String.ofList (positional digits exponent)) =
      some [.numeral (String.ofList (positional digits exponent))] := by
  have hvalue := Numeral.decimal?_positional digits exponent
  obtain ⟨c, rest, hlist, hc, hrest⟩ := Numeral.positional_shape digits exponent
  rw [hlist] at hvalue ⊢
  exact lex_numeral hc hrest (by simp [hvalue])

/-- A finite number is written with its sign, if it has one. -/
theorem presents_finite
    (negative : Bool)
    (units : Nat) :
    (finiteValue negative units).Presents (finite negative units) := by
  unfold finiteValue finite
  cases hshortest : Binary64.shortest units with
  | mk digits exponent =>
      have hpresents : Value.Presents ⟨String.ofList (positional digits exponent), .atomic⟩
          (.numeral (String.ofList (positional digits exponent))) :=
        .numeral (lex_positional digits exponent)
      cases hsign : negative && decide (0 < units) with
      | false =>
          simpa [hsign, signed] using hpresents
      | true =>
          obtain ⟨c, rest, hlist, hc, _⟩ := Numeral.positional_shape digits exponent
          have hstands := hpresents.stands_of_le .unary (by decide)
          have hminus : c ≠ '-' := by
            rintro rfl
            exact absurd hc (by decide)
          have hnegate := Value.Presents.negate "" (by simp [hlist, hminus]) hstands
          simpa [hsign, signed] using hnegate

/-- A numeral is written if and only if it denotes a number. -/
theorem presents_numeral
    (numeral : Numeral) :
    Option.Rel Value.Presents numeral.value? (ofNumeral? numeral) := by
  cases numeral with
  | notANumber =>
      exact .none
  | infinite negative =>
      exact .some (presents_infinity negative)
  | finite negative digits exponent =>
      simp only [Numeral.value?, ofNumeral?]
      split
      · exact .some (presents_infinity negative)
      · exact .some (presents_finite negative _)

/-- The text of a number field is written if and only if it denotes a number. -/
theorem presents_text
    (text : String) :
    Option.Rel Value.Presents (numberValue text).toOption (ofText? text) := by
  unfold numberValue ofText?
  cases Numeral.ofChars? (Text.trim text.toList) with
  | none =>
      exact .none
  | some numeral =>
      have hnumeral := presents_numeral numeral
      simp only [Option.bind_some]
      revert hnumeral
      cases numeral.value? <;> exact id

end Tree

variable {reserved : List String} {naming : Naming} {inputs : Inputs}

theorem numberRecipe_renders
    (block : Block) :
    Renders reserved naming Code.Presents [] ((numberRecipe block).step inputs)
      (BlockKind.number.meaning naming (inputs.meaning naming) block) := by
  refine Renders.check _ ?_
  intro text _
  have hnumber : Renders reserved naming Value.Presents []
      ((Recipe.check (numberValue text)).step inputs) (Tree.ofText? text) :=
    Renders.outcome (Tree.presents_text text)
  refine Renders.bind hnumber ?_
  intro value tree _ hpresents
  exact Renders.done hpresents

/-- An operator block is written as its operator between its operands. -/
theorem arithmeticRecipe_renders
    (hinputs : inputs.Render reserved naming)
    (block : Block) :
    Renders reserved naming Code.Presents (inputs.requests "A" ++ (inputs.requests "B" ++ []))
      ((arithmeticRecipe block).step inputs)
      (BlockKind.arithmetic.meaning naming (inputs.meaning naming) block) := by
  refine Renders.check _ ?_
  intro operator _
  refine Renders.bind (Renders.operandOr hinputs "A" (Tree.stands_zero _)) ?_
  intro left first _ hleft
  refine Renders.bind (Renders.operandOr hinputs "B" (Tree.stands_zero _)) ?_
  intro right second _ hright
  refine Renders.done ?_
  cases operator with
  | add =>
      exact Value.Presents.graft .plus rfl hleft hright
  | minus =>
      exact Value.Presents.binary .minus rfl hleft hright (by decide)
  | multiply =>
      exact Value.Presents.graft .times rfl hleft hright
  | divide =>
      exact Value.Presents.binary .over rfl hleft hright (by decide)
  | power =>
      exact Value.Presents.binary .power rfl hleft hright (by decide)

theorem moduloRecipe_renders
    (hinputs : inputs.Render reserved naming)
    (block : Block) :
    Renders reserved naming Code.Presents
      (inputs.requests "DIVIDEND" ++ (inputs.requests "DIVISOR" ++ []))
      (moduloRecipe.step inputs)
      (BlockKind.modulo.meaning naming (inputs.meaning naming) block) := by
  refine Renders.bind (Renders.operandOr hinputs "DIVIDEND" (Tree.stands_zero _)) ?_
  intro dividend first _ hdividend
  refine Renders.bind (Renders.operandOr hinputs "DIVISOR" (Tree.stands_zero _)) ?_
  intro divisor second _ hdivisor
  refine Renders.done ?_
  exact Value.Presents.graft .modulo rfl hdividend hdivisor

/-- A change is written as an assignment of a sum, whose first operand is the variable. -/
theorem changeRecipe_renders
    (hkeywords : ∀ word ∈ keywords, word ∈ reserved)
    (hinputs : inputs.Render reserved naming)
    (block : Block) :
    Renders reserved naming Code.Presents (inputs.requests "DELTA" ++ ([] ++ []))
      ((changeRecipe block).step inputs)
      (BlockKind.change.meaning naming (inputs.meaning naming) block) := by
  refine Renders.check _ ?_
  intro name _
  refine Renders.bind (Renders.operandOr hinputs "DELTA" (Tree.stands_zero _)) ?_
  intro delta tree _ hdelta
  refine Renders.bind (Renders.identify hkeywords name) ?_
  rintro identifier _ _ ⟨rfl, hname, hkeyword⟩
  refine Renders.done ?_
  -- the variable is an identifier and no keyword, so it is read as a name
  have hvariable : Stands .sum identifier (.name identifier) := by
    have hreads := Reads.name hname hkeyword
    exact ⟨.name identifier, hreads.loosen (by decide), fun _ => trivial, rfl, by simp⟩
  refine ⟨identifier ++ " + " ++ delta, ?_, Value.Presents.graft .plus rfl hvariable
    hdelta⟩
  simp [String.append_assoc]

/-- A function whose frame is a call of the library is written as that call. -/
theorem MathOperator.presents_call
    {operator : MathOperator}
    (function : String)
    (hframe : operator.frame = .call ("math." ++ function ++ "(") ")")
    (hneg : operator ≠ .neg)
    (hlibrary : InLibrary function)
    {operand : String}
    {tree : Expr}
    (h : Stands operator.frame.operand operand tree) :
    Value.Presents
      ⟨operator.frame.before ++ operator.gap operand ++ operand ++ operator.frame.after,
        operator.frame.result⟩
      (.math function (.one tree)) := by
  rw [hframe] at h ⊢
  have hgap : operator.gap operand = "" := by
    simp [MathOperator.gap, hneg]
  rw [hgap, String.append_empty]
  exact Value.Presents.math function hlibrary h.list

/-- A function whose frame is a call inside another one is written as those calls. -/
theorem MathOperator.presents_nested
    {operator : MathOperator}
    (outer inner : String)
    (hframe : operator.frame = .call ("math." ++ outer ++ "(" ++ "math." ++ inner ++ "(") "))")
    (hneg : operator ≠ .neg)
    (houter : InLibrary outer)
    (hinner : InLibrary inner)
    {operand : String}
    {tree : Expr}
    (h : Stands operator.frame.operand operand tree) :
    Value.Presents
      ⟨operator.frame.before ++ operator.gap operand ++ operand ++ operator.frame.after,
        operator.frame.result⟩
      (.math outer (.one (.math inner (.one tree)))) := by
  rw [hframe] at h ⊢
  have hgap : operator.gap operand = "" := by
    simp [MathOperator.gap, hneg]
  have hargument := Value.Presents.math inner hinner h.list
  have hwhole := Value.Presents.math outer houter
    (hargument.stands_of_le .any (by decide)).list
  -- the frame of two calls is the frame of the outer one around the inner call
  have hcode : "math." ++ outer ++ "(" ++ "math." ++ inner ++ "(" ++ "" ++ operand ++ "))" =
      "math." ++ outer ++ "(" ++ ("math." ++ inner ++ "(" ++ operand ++ ")") ++ ")" := by
    simp [← String.toList_inj]
  rw [hgap]
  simp only [Frame.call]
  rw [hcode]
  exact hwhole

/-- A function is written around its operand. -/
theorem MathOperator.presents
    (operator : MathOperator)
    {operand : String}
    {tree : Expr}
    (h : Stands operator.frame.operand operand tree) :
    Value.Presents
      ⟨operator.frame.before ++ operator.gap operand ++ operand ++ operator.frame.after,
        operator.frame.result⟩
      (operator.tree tree) := by
  cases operator with
  | neg =>
      have hgap : MathOperator.neg.gap operand =
          if operand.toList.head? = some '-' then " " else "" := by
        simp [MathOperator.gap]
      have hnegate := Value.Presents.negate _ hgap h
      simpa [MathOperator.frame, MathOperator.tree] using hnegate
  | pow10 =>
      have hten : Value.Presents ⟨"10", .atomic⟩ (.numeral "10") := .numeral (by decide)
      have hpower := Value.Presents.binary .power rfl
        (hten.stands_of_le _ (by decide)) h (by decide)
      have hcode : "10 ^ " ++ "" ++ operand ++ "" = "10" ++ Operator.power.symbol ++ operand := by
        simp [Operator.symbol]
      show Value.Presents ⟨"10 ^ " ++ "" ++ operand ++ "", .power⟩ _
      rw [hcode]
      exact hpower
  | round =>
      have hhalf : Value.Presents ⟨".5", .atomic⟩ (.numeral ".5") := .numeral (by decide)
      have hsum := Value.Presents.graft .plus rfl h (hhalf.stands_of_le _ (by decide))
      have hfloor := Value.Presents.math "floor" (by decide)
        (hsum.stands_of_le .any (by decide)).list
      have hcode : "math.floor(" ++ "" ++ operand ++ " + .5)" =
          "math." ++ "floor" ++ "(" ++ (operand ++ Operator.plus.symbol ++ ".5") ++ ")" := by
        simp [← String.toList_inj, Operator.symbol]
      show Value.Presents ⟨"math.floor(" ++ "" ++ operand ++ " + .5)", .call⟩ _
      rw [hcode]
      exact hfloor
  | log10 =>
      have hten : Value.Presents ⟨"10", .atomic⟩ (.numeral "10") := .numeral (by decide)
      have hlog := Value.Presents.math "log" (by decide)
        (h.pair (hten.stands_of_le _ (by decide)))
      have hcode : "math.log(" ++ "" ++ operand ++ ", 10)" =
          "math." ++ "log" ++ "(" ++ (operand ++ ", " ++ "10") ++ ")" := by
        simp [← String.toList_inj]
      show Value.Presents ⟨"math.log(" ++ "" ++ operand ++ ", 10)", .call⟩ _
      rw [hcode]
      exact hlog
  | abs =>
      exact presents_call "abs" rfl (by decide) (by decide) h
  | root =>
      exact presents_call "sqrt" rfl (by decide) (by decide) h
  | ln =>
      exact presents_call "log" rfl (by decide) (by decide) h
  | exp =>
      exact presents_call "exp" rfl (by decide) (by decide) h
  | roundUp =>
      exact presents_call "ceil" rfl (by decide) (by decide) h
  | roundDown =>
      exact presents_call "floor" rfl (by decide) (by decide) h
  | sin =>
      exact presents_nested "sin" "rad" rfl (by decide) (by decide) (by decide) h
  | cos =>
      exact presents_nested "cos" "rad" rfl (by decide) (by decide) (by decide) h
  | tan =>
      exact presents_nested "tan" "rad" rfl (by decide) (by decide) (by decide) h
  | asin =>
      exact presents_nested "deg" "asin" rfl (by decide) (by decide) (by decide) h
  | acos =>
      exact presents_nested "deg" "acos" rfl (by decide) (by decide) (by decide) h
  | atan =>
      exact presents_nested "deg" "atan" rfl (by decide) (by decide) (by decide) h

theorem functionRecipe_renders
    (hinputs : inputs.Render reserved naming)
    (block : Block) :
    Renders reserved naming Code.Presents (inputs.requests "NUM" ++ [])
      ((functionRecipe block).step inputs)
      (BlockKind.single.meaning naming (inputs.meaning naming) block) := by
  refine Renders.check _ ?_
  intro operator _
  refine Renders.bind (Renders.operandOr hinputs "NUM" (Tree.stands_zero _)) ?_
  intro operand tree _ hoperand
  exact Renders.done (operator.presents hoperand)

namespace Tree

/-- A sum or a quotient of two numerals, or a call: the constants are written as they are read. -/
theorem presents_constant
    (constant : MathConstant) :
    constant.value.Presents constant.tree := by
  have hone : Value.Presents ⟨"1", .atomic⟩ (.numeral "1") := .numeral (by decide)
  have htwo : Value.Presents ⟨"2", .atomic⟩ (.numeral "2") := .numeral (by decide)
  cases constant with
  | pi =>
      have hfield := Value.Presents.mathField "pi" (by decide)
      have hvalue : MathConstant.pi.value = ⟨"math." ++ "pi", .call⟩ := by
        decide
      rw [hvalue]
      exact hfield
  | e =>
      have hcall := Value.Presents.math "exp" (by decide)
        (hone.stands_of_le _ (by decide)).list
      have hvalue : MathConstant.e.value = ⟨"math." ++ "exp" ++ "(" ++ "1" ++ ")", .call⟩ := by
        decide
      rw [hvalue]
      exact hcall
  | goldenRatio =>
      have hfive : Value.Presents ⟨"5", .atomic⟩ (.numeral "5") := .numeral (by decide)
      have hroot := Value.Presents.math "sqrt" (by decide)
        (hfive.stands_of_le _ (by decide)).list
      have hsum := Value.Presents.graft .plus rfl (hone.stands_of_le _ (by decide))
        (hroot.stands_of_le _ (by decide))
      have hquotient := Value.Presents.binary .over rfl (hsum.stands .product)
        (htwo.stands_of_le .unary (by decide)) (by decide)
      have hvalue : MathConstant.goldenRatio.value =
          ⟨Value.operand ⟨"1" ++ Operator.plus.symbol ++ ("math." ++ "sqrt" ++ "(" ++ "5" ++ ")"),
              Operator.plus.level⟩ .product ++ Operator.over.symbol ++ "2",
            Operator.over.level⟩ := by
        decide
      rw [hvalue]
      exact hquotient
  | rootTwo =>
      have hcall := Value.Presents.math "sqrt" (by decide)
        (htwo.stands_of_le _ (by decide)).list
      have hvalue : MathConstant.rootTwo.value =
          ⟨"math." ++ "sqrt" ++ "(" ++ "2" ++ ")", .call⟩ := by
        decide
      rw [hvalue]
      exact hcall
  | rootHalf =>
      have hhalf := Value.Presents.binary .over rfl
        (hone.stands_of_le _ (by decide)) (htwo.stands_of_le .unary (by decide))
        (by decide)
      have hcall := Value.Presents.math "sqrt" (by decide)
        (hhalf.stands_of_le _ (by decide)).list
      have hvalue : MathConstant.rootHalf.value =
          ⟨"math." ++ "sqrt" ++ "(" ++ ("1" ++ Operator.over.symbol ++ "2") ++ ")", .call⟩ := by
        decide
      rw [hvalue]
      exact hcall
  | infinity =>
      exact presents_huge

end Tree

theorem constantRecipe_renders
    (block : Block) :
    Renders reserved naming Code.Presents [] ((constantRecipe block).step inputs)
      (BlockKind.constant.meaning naming (inputs.meaning naming) block) := by
  refine Renders.check _ ?_
  intro constant _
  exact Renders.done (Tree.presents_constant constant)

theorem constrainRecipe_renders
    (hinputs : inputs.Render reserved naming)
    (block : Block) :
    Renders reserved naming Code.Presents
      (inputs.requests "VALUE" ++ (inputs.requests "LOW" ++ (inputs.requests "HIGH" ++ [])))
      (constrainRecipe.step inputs)
      (BlockKind.constrain.meaning naming (inputs.meaning naming) block) := by
  refine Renders.bind (Renders.operandOr hinputs "VALUE" (Tree.stands_zero _)) ?_
  intro value first _ hvalue
  refine Renders.bind (Renders.operandOr hinputs "LOW"
    (Tree.presents_negativeHuge.stands_of_le _ (by decide))) ?_
  intro low second _ hlow
  refine Renders.bind (Renders.operandOr hinputs "HIGH"
    (Tree.presents_huge.stands_of_le _ (by decide))) ?_
  intro high third _ hhigh
  have hmax := Value.Presents.math "max" (by decide) (hvalue.pair hlow)
  have hmin := Value.Presents.math "min" (by decide)
    ((hmax.stands_of_le .any (by decide)).pair hhigh)
  exact Renders.expression (by simp [← String.toList_inj]) hmin

theorem angleRecipe_renders
    (hinputs : inputs.Render reserved naming)
    (block : Block) :
    Renders reserved naming Code.Presents (inputs.requests "X" ++ (inputs.requests "Y" ++ []))
      (angleRecipe.step inputs)
      (BlockKind.atan2.meaning naming (inputs.meaning naming) block) := by
  refine Renders.bind (Renders.operandOr hinputs "X" (Tree.stands_zero _)) ?_
  intro x first _ hx
  refine Renders.bind (Renders.operandOr hinputs "Y" (Tree.stands_zero _)) ?_
  intro y second _ hy
  have hangle := Value.Presents.math "atan2" (by decide) (hy.pair hx)
  have hdegrees := Value.Presents.math "deg" (by decide)
    (hangle.stands_of_le .any (by decide)).list
  exact Renders.expression (by simp [← String.toList_inj]) hdegrees

theorem randomIntRecipe_renders
    (hinputs : inputs.Render reserved naming)
    (block : Block) :
    Renders reserved naming Code.Presents (inputs.requests "FROM" ++ (inputs.requests "TO" ++ []))
      (randomIntRecipe.step inputs)
      (BlockKind.randomInt.meaning naming (inputs.meaning naming) block) := by
  refine Renders.bind (Renders.operandOr hinputs "FROM" (Tree.stands_zero _)) ?_
  intro low first _ hlow
  refine Renders.bind (Renders.operandOr hinputs "TO" (Tree.stands_zero _)) ?_
  intro high second _ hhigh
  have hrandom := Value.Presents.math "random" (by decide)
    (hlow.pair hhigh)
  exact Renders.expression (by simp [← String.toList_inj]) hrandom

theorem randomFloatRecipe_renders
    (block : Block) :
    Renders reserved naming Code.Presents [] (randomFloatRecipe.step inputs)
      (BlockKind.randomFloat.meaning naming (inputs.meaning naming) block) := by
  have hrandom := Value.Presents.math "random" (by decide) .empty
  exact Renders.done hrandom

/-- A recipe for the identifier of a helper, followed by a call of that helper. -/
theorem Renders.call
    {requests : List String}
    {recipe : Recipe String String}
    {name code : String}
    {tree : Expr}
    (hrecipe : Renders reserved naming Names requests (recipe.step inputs) (naming.ofHelper name))
    (hcode : Stands .any code tree) :
    Renders reserved naming Code.Presents (requests ++ [])
      ((recipe >>= fun function =>
        pure (Code.expression (function ++ "(" ++ code ++ ")") .call)).step inputs)
      (Tree.helper naming name tree >>= fun whole => some (Meaning.value whole)) := by
  have hcall : Renders reserved naming Code.Presents (requests ++ [])
      ((recipe >>= fun function =>
        pure (Code.expression (function ++ "(" ++ code ++ ")") .call)).step inputs)
      (naming.ofHelper name >>= fun identifier =>
        some (Meaning.value (.call (.name identifier) (.one tree)))) := by
    refine Renders.bind hrecipe ?_
    rintro function _ _ ⟨rfl, hidentifier, hkeyword⟩
    exact Renders.done (Value.Presents.call hidentifier hkeyword hcode.list)
  cases hhelper : naming.ofHelper name with
  | none =>
      simpa [Tree.helper, hhelper] using hcall
  | some identifier =>
      simpa [Tree.helper, hhelper] using hcall

/-- Every statistic asks for the helpers that it needs, its own one last. -/
theorem ListOperator.helperRecipe_renders
    (hkeywords : ∀ word ∈ keywords, word ∈ reserved)
    (operator : ListOperator) :
    Renders reserved naming Names operator.requests (operator.helperRecipe.step inputs)
      (naming.ofHelper operator.helperName) := by
  cases operator with
  | average =>
      refine Renders.request_bind rfl ?_
      intro sum hsum
      refine Renders.request hkeywords ?_
      rw [Naming.template?, hsum]
      rfl
  | standardDeviation =>
      refine Renders.request_bind rfl ?_
      intro sum hsum
      refine Renders.request hkeywords ?_
      rw [Naming.template?, hsum]
      rfl
  | _ =>
      exact Renders.request hkeywords rfl

theorem statisticRecipe_renders
    (hkeywords : ∀ word ∈ keywords, word ∈ reserved)
    (hinputs : inputs.Render reserved naming)
    (block : Block) :
    Renders reserved naming Code.Presents
      (inputs.requests "LIST" ++ BlockKind.onList.requests block)
      ((statisticRecipe block).step inputs)
      (BlockKind.onList.meaning naming (inputs.meaning naming) block) := by
  refine Renders.check _ ?_
  intro operator hread
  have hempty : Stands .any "\x7b\x7d" (.list .empty) :=
    ⟨.list .empty, ⟨_, rfl, .loosen (.list .empty) (by decide)⟩, fun _ => trivial, rfl, by simp⟩
  have hrequests : BlockKind.onList.requests block = operator.requests ++ [] := by
    simp [BlockKind.requests, hread]
  rw [hrequests]
  refine Renders.bind (Renders.operandOr hinputs "LIST" hempty) ?_
  intro list tree _ hlist
  exact (operator.helperRecipe_renders hkeywords).call hlist

namespace Tree

theorem presents_remainder
    {subject divisor : String}
    {first second : Expr}
    (hsubject : Stands .product subject first)
    (hdivisor : Stands .product divisor second)
    (numeral : String)
    (hnumeral : lex numeral = some [.numeral numeral]) :
    Value.Presents ⟨subject ++ " % " ++ divisor ++ " == " ++ numeral, .comparison⟩
      (remainder first second numeral) := by
  have hremainder := Value.Presents.graft .modulo rfl hsubject hdivisor
  have hright : Stands .concatenation numeral (.numeral numeral) :=
    (Value.Presents.numeral hnumeral).stands_of_le _ (by decide)
  exact .binary .equal rfl (hremainder.stands_of_le _ (by decide)) hright (by decide)

theorem presents_sign
    (operator : Operator)
    (hoperator : operator = .greater ∨ operator = .less)
    {subject : String}
    {tree : Expr}
    (hsubject : Stands .product subject tree) :
    Value.Presents ⟨subject ++ operator.symbol ++ "0", .comparison⟩
      (.binary operator tree zero) := by
  rcases hoperator with rfl | rfl
  · exact .binary .greater rfl (hsubject.loosen (by decide) (by decide))
      (stands_zero .concatenation) (by decide)
  · exact .binary .less rfl (hsubject.loosen (by decide) (by decide))
      (stands_zero .concatenation) (by decide)

end Tree

/-- Divisibility is written as the comparison of a remainder, or as `nil` if it has no answer. -/
theorem divisibleByRecipe_renders
    (hinputs : inputs.Render reserved naming)
    {subject : String}
    {tree : Expr}
    (hsubject : Stands .product subject tree) :
    Renders reserved naming Code.Presents (inputs.requests "DIVISOR" ++ [])
      ((divisibleByRecipe subject).step inputs)
      (inputs.meaning naming "DIVISOR" >>= fun divisor =>
        some (Meaning.value (Tree.divisible tree divisor))) := by
  refine Renders.bind (Renders.operand? hinputs "DIVISOR" .product) ?_
  intro answer meant _ hanswer
  cases hanswer with
  | none =>
      exact Renders.done Value.Presents.nil
  | @some divisor second hdivisor =>
      have hzero := hdivisor.eq_numeral_iff "0" (by decide)
      by_cases h : divisor = "0"
      · have htree : second = Tree.zero := hzero.mp h
        simp only [h, htree, Tree.divisible, if_true]
        exact Renders.done Value.Presents.nil
      · have htree : second ≠ Tree.zero := fun heq => h (hzero.mpr heq)
        simp only [h, htree, Tree.divisible, if_false]
        have hremainder := Tree.presents_remainder hsubject hdivisor "0" (by decide)
        exact Renders.expression (by simp [← String.toList_inj]) hremainder

/-- A question about a number is written as a comparison or as the call of a helper. -/
theorem NumberProperty.recipe_renders
    (hkeywords : ∀ word ∈ keywords, word ∈ reserved)
    (hinputs : inputs.Render reserved naming)
    (property : NumberProperty)
    {subject : String}
    {tree : Expr}
    (hsubject : Stands .product subject tree) :
    Renders reserved naming Code.Presents
      ((if property = .divisibleBy then inputs.requests "DIVISOR" else []) ++
        (if property = .prime then [MathHelper.isPrimeName] else []))
      ((property.recipe subject).step inputs)
      (property.tree naming (inputs.meaning naming) tree >>= fun whole =>
        some (Meaning.value whole)) := by
  have htwo : Stands .product "2" (.numeral "2") :=
    (Value.Presents.numeral (by decide)).stands_of_le _ (by decide)
  have hone : Stands .product "1" (.numeral "1") :=
    (Value.Presents.numeral (by decide)).stands_of_le _ (by decide)
  cases property with
  | even =>
      have heven := Tree.presents_remainder hsubject htwo "0" (by decide)
      exact Renders.expression (by simp [← String.toList_inj]) heven
  | odd =>
      have hodd := Tree.presents_remainder hsubject htwo "1" (by decide)
      exact Renders.expression (by simp [← String.toList_inj]) hodd
  | whole =>
      have hwhole := Tree.presents_remainder hsubject hone "0" (by decide)
      exact Renders.expression (by simp [← String.toList_inj]) hwhole
  | positive =>
      have hpositive := Tree.presents_sign .greater (Or.inl rfl) hsubject
      exact Renders.expression (by simp [← String.toList_inj, Operator.symbol]) hpositive
  | negative =>
      have hnegative := Tree.presents_sign .less (Or.inr rfl) hsubject
      exact Renders.expression (by simp [← String.toList_inj, Operator.symbol]) hnegative
  | divisibleBy =>
      have hdivisible := divisibleByRecipe_renders hinputs hsubject
      cases hmeaning : inputs.meaning naming "DIVISOR" with
      | none =>
          simpa [NumberProperty.recipe, NumberProperty.tree, hmeaning] using hdivisible
      | some divisor =>
          simpa [NumberProperty.recipe, NumberProperty.tree, hmeaning] using hdivisible
  | prime =>
      have hprime : Renders reserved naming Names [MathHelper.isPrimeName]
          ((Recipe.request MathHelper.isPrimeName MathHelper.isPrime).step inputs)
          (naming.ofHelper MathHelper.isPrimeName) :=
        Renders.request hkeywords rfl
      exact hprime.call (hsubject.loosen (by decide) (by decide))

/-- The slot of the number comes first, and each property asks for what it needs besides. -/
theorem BlockKind.requests_numberProperty
    {block : Block}
    {property : NumberProperty}
    (hread : block.readTag "PROPERTY" = .ok property) :
    (BlockKind.numberProperty.slots block).flatMap inputs.requests ++
        BlockKind.numberProperty.requests block =
      inputs.requests "NUMBER_TO_CHECK" ++
        ((if property = .divisibleBy then inputs.requests "DIVISOR" else []) ++
          (if property = .prime then [MathHelper.isPrimeName] else [])) := by
  cases property <;> simp [BlockKind.slots, BlockKind.requests, hread]

/-- A question about a number is written as the question that its property asks. -/
theorem propertyRecipe_renders
    (hkeywords : ∀ word ∈ keywords, word ∈ reserved)
    (hinputs : inputs.Render reserved naming)
    (block : Block) :
    Renders reserved naming Code.Presents
      ((BlockKind.numberProperty.slots block).flatMap inputs.requests ++
        BlockKind.numberProperty.requests block)
      ((propertyRecipe block).step inputs)
      (BlockKind.numberProperty.meaning naming (inputs.meaning naming) block) := by
  refine Renders.check _ ?_
  intro property hread
  rw [BlockKind.requests_numberProperty hread]
  refine Renders.bind (Renders.operandOr hinputs "NUMBER_TO_CHECK" (Tree.stands_zero _)) ?_
  intro subject tree _ hsubject
  exact property.recipe_renders hkeywords hinputs hsubject

/-- What a block of a kind asks for, operands first, is written as what it stands for. -/
theorem BlockKind.recipe_renders
    (hkeywords : ∀ word ∈ keywords, word ∈ reserved)
    (hinputs : inputs.Render reserved naming)
    (kind : BlockKind)
    (block : Block) :
    Renders reserved naming Code.Presents
      ((kind.slots block).flatMap inputs.requests ++ kind.requests block)
      ((kind.recipe block).step inputs)
      (kind.meaning naming (inputs.meaning naming) block) := by
  cases kind with
  | number =>
      exact numberRecipe_renders block
  | arithmetic =>
      simpa [BlockKind.recipe, BlockKind.slots, BlockKind.requests] using
        arithmeticRecipe_renders hinputs block
  | single =>
      simpa [BlockKind.recipe, BlockKind.slots, BlockKind.requests, BlockKind.meaning] using
        functionRecipe_renders hinputs block
  | round =>
      simpa [BlockKind.recipe, BlockKind.slots, BlockKind.requests, BlockKind.meaning] using
        functionRecipe_renders hinputs block
  | trig =>
      simpa [BlockKind.recipe, BlockKind.slots, BlockKind.requests, BlockKind.meaning] using
        functionRecipe_renders hinputs block
  | constant =>
      exact constantRecipe_renders block
  | numberProperty =>
      exact propertyRecipe_renders hkeywords hinputs block
  | onList =>
      simpa [BlockKind.recipe, BlockKind.slots] using
        statisticRecipe_renders hkeywords hinputs block
  | modulo =>
      simpa [BlockKind.recipe, BlockKind.slots, BlockKind.requests] using
        moduloRecipe_renders hinputs block
  | constrain =>
      simpa [BlockKind.recipe, BlockKind.slots, BlockKind.requests] using
        constrainRecipe_renders hinputs block
  | randomInt =>
      simpa [BlockKind.recipe, BlockKind.slots, BlockKind.requests] using
        randomIntRecipe_renders hinputs block
  | randomFloat =>
      exact randomFloatRecipe_renders block
  | atan2 =>
      simpa [BlockKind.recipe, BlockKind.slots, BlockKind.requests] using
        angleRecipe_renders hinputs block
  | change =>
      simpa [BlockKind.recipe, BlockKind.slots, BlockKind.requests] using
        changeRecipe_renders hkeywords hinputs block

end MathBlocks
