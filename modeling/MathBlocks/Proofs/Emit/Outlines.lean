import MathBlocks.Proofs.Emit.Outline
import MathBlocks.Proofs.Emit.Walk

/-!
# Blocks are written after their outlines

One theorem for the recipe of each kind of block: from operands that are written after their
outlines, it writes what the outline of the block is, with the identifiers of a naming in its
places. The recipes that look at the code of an operand see the same in the sample of its outline.
-/

namespace MathBlocks

open Lua

/-- Whether a text is an outline with identifiers, as `Naming.Fills`, for what may be missing. -/
def Code.Fills
    (naming : Naming) :
    Code → CodeOutline → Prop
  | .value v, .value code level => v.level = level ∧ naming.Fills v.code code
  | .statement lines, .statement outlines => List.Forall₂ naming.Fills lines outlines
  | _, _ => False

/-- Whether all operands are written after their outlines. -/
def Inputs.Fill
    (inputs : Inputs)
    (reserved : List String)
    (naming : Naming) : Prop :=
  ∀ slot allowed,
    Renders reserved naming (Option.Rel naming.Fills) (inputs.requests slot)
      (inputs.write [] slot allowed) (inputs.outline slot allowed)

variable {reserved : List String} {naming : Naming} {inputs : Inputs}

namespace Renders

/-- An operand, or the text that stands in for it, is written after its outline. -/
theorem filledOr
    (hinputs : inputs.Fill reserved naming)
    (slot : String)
    (allowed : BindingLevel)
    (standIn : String) :
    Renders reserved naming naming.Fills (inputs.requests slot)
      ((Recipe.operandOr slot allowed standIn).step inputs)
      (Slots.orElse inputs.outline slot allowed standIn) :=
  Renders.slotOr (hinputs slot allowed) (Naming.Fills.ofText standIn)

/-- An expression that is there, written after an outline. -/
theorem filled
    {code : String}
    {outline : Outline}
    {level : BindingLevel}
    (h : naming.Fills code outline) :
    Renders reserved naming (Code.Fills naming) []
      ((Recipe.done (Code.expression code level)).step inputs) (some (.value outline level)) :=
  Renders.done ⟨rfl, h⟩

/-- What always has an identifier of a label for its result is written after the place for it. -/
theorem place
    {requests : List String}
    {recipe : Recipe String String}
    {meant : Option String}
    {label : Label}
    (h : Renders reserved naming Names requests (recipe.step inputs) meant)
    (hlabel : ∀ identifier, meant = some identifier → naming.Gives label identifier)
    (hanswers : ∀ pass, ∃ identifier, (recipe.step inputs pass).1 = .ok identifier) :
    Renders reserved naming naming.Fills requests (recipe.step inputs) (some [.place label]) := by
  intro pass hsound hwithin
  obtain ⟨log, hserves, hagrees⟩ := h pass hsound hwithin
  obtain ⟨identifier, hanswer⟩ := hanswers pass
  refine ⟨log, hserves, ?_⟩
  rw [hanswer] at hagrees ⊢
  cases meant with
  | none =>
      exact hagrees.elim
  | some found =>
      obtain ⟨⟨rfl, hproper, _⟩, hlogs⟩ := hagrees
      exact ⟨.ofPlace (hlabel _ rfl) hproper, hlogs⟩

end Renders

theorem numberRecipe_fills
    (block : Block) :
    Renders reserved naming (Code.Fills naming) [] ((numberRecipe block).step inputs)
      (BlockKind.number.outline inputs.outline block) := by
  refine Renders.check _ ?_
  intro text _
  refine Renders.check _ ?_
  intro value _
  exact Renders.filled (.ofText value.code)

theorem arithmeticRecipe_fills
    (hinputs : inputs.Fill reserved naming)
    (block : Block) :
    Renders reserved naming (Code.Fills naming)
      (inputs.requests "A" ++ (inputs.requests "B" ++ []))
      ((arithmeticRecipe block).step inputs)
      (BlockKind.arithmetic.outline inputs.outline block) := by
  refine Renders.check _ ?_
  intro operator _
  refine Renders.bind (Renders.filledOr hinputs "A" _ _) ?_
  intro left first _ hleft
  refine Renders.bind (Renders.filledOr hinputs "B" _ _) ?_
  intro right second _ hright
  exact Renders.filled ((hleft.append (.ofText _)).append hright)

theorem moduloRecipe_fills
    (hinputs : inputs.Fill reserved naming)
    (block : Block) :
    Renders reserved naming (Code.Fills naming)
      (inputs.requests "DIVIDEND" ++ (inputs.requests "DIVISOR" ++ []))
      (moduloRecipe.step inputs)
      (BlockKind.modulo.outline inputs.outline block) := by
  refine Renders.bind (Renders.filledOr hinputs "DIVIDEND" _ _) ?_
  intro dividend first _ hdividend
  refine Renders.bind (Renders.filledOr hinputs "DIVISOR" _ _) ?_
  intro divisor second _ hdivisor
  exact Renders.filled ((hdividend.append (.ofText _)).append hdivisor)

/-- The identifier of a variable goes to both places of the line that changes it. -/
theorem changeRecipe_fills
    (hkeywords : ∀ word ∈ keywords, word ∈ reserved)
    (hinputs : inputs.Fill reserved naming)
    (block : Block) :
    Renders reserved naming (Code.Fills naming) (inputs.requests "DELTA" ++ ([] ++ []))
      ((changeRecipe block).step inputs)
      (BlockKind.change.outline inputs.outline block) := by
  refine Renders.check _ ?_
  intro name _
  refine Renders.bind (Renders.filledOr hinputs "DELTA" _ _) ?_
  intro delta outline _ hdelta
  have hplace : Renders reserved naming naming.Fills [] ((Recipe.identify name).step inputs)
      (some [.place (.ofVariable (Text.lower name))]) :=
    Renders.place (Renders.identify hkeywords name) (fun _ hname => ⟨name, rfl, hname⟩)
      fun _ => ⟨_, rfl⟩
  refine Renders.bind_some hplace ?_
  intro identifier hidentifier
  exact Renders.done (.cons
    ((((hidentifier.append (.ofText _)).append hidentifier).append (.ofText _)).append hdelta)
    .nil)

/-- Whether two minus signs have to be kept apart does not depend on identifiers. -/
theorem MathOperator.gap_sample
    (operator : MathOperator)
    {code : String}
    {outline : Outline}
    (h : naming.Fills code outline) :
    operator.gap code = operator.gap outline.sample := by
  have hhead : decide (code.toList.head? = some '-') =
      decide (outline.sample.toList.head? = some '-') := by
    rw [decide_eq_decide]
    exact h.head?_iff
  unfold MathOperator.gap
  rw [hhead]

theorem functionRecipe_fills
    (hinputs : inputs.Fill reserved naming)
    (block : Block) :
    Renders reserved naming (Code.Fills naming) (inputs.requests "NUM" ++ [])
      ((functionRecipe block).step inputs)
      (BlockKind.single.outline inputs.outline block) := by
  refine Renders.check _ ?_
  intro operator _
  refine Renders.bind (Renders.filledOr hinputs "NUM" _ _) ?_
  intro operand outline _ hoperand
  refine Renders.filled ?_
  rw [operator.gap_sample hoperand]
  exact (((Naming.Fills.ofText _).append (.ofText _)).append hoperand).append (.ofText _)

theorem constantRecipe_fills
    (block : Block) :
    Renders reserved naming (Code.Fills naming) [] ((constantRecipe block).step inputs)
      (BlockKind.constant.outline inputs.outline block) := by
  refine Renders.check _ ?_
  intro constant _
  exact Renders.filled (.ofText constant.value.code)

theorem constrainRecipe_fills
    (hinputs : inputs.Fill reserved naming)
    (block : Block) :
    Renders reserved naming (Code.Fills naming)
      (inputs.requests "VALUE" ++ (inputs.requests "LOW" ++ (inputs.requests "HIGH" ++ [])))
      (constrainRecipe.step inputs)
      (BlockKind.constrain.outline inputs.outline block) := by
  refine Renders.bind (Renders.filledOr hinputs "VALUE" _ _) ?_
  intro value first _ hvalue
  refine Renders.bind (Renders.filledOr hinputs "LOW" _ _) ?_
  intro low second _ hlow
  refine Renders.bind (Renders.filledOr hinputs "HIGH" _ _) ?_
  intro high third _ hhigh
  have hmax := (((Naming.Fills.ofText "math.min(math.max(").append hvalue).append
    (.ofText ", ")).append hlow
  exact Renders.filled (((hmax.append (.ofText _)).append hhigh).append (.ofText _))

theorem angleRecipe_fills
    (hinputs : inputs.Fill reserved naming)
    (block : Block) :
    Renders reserved naming (Code.Fills naming) (inputs.requests "X" ++ (inputs.requests "Y" ++ []))
      (angleRecipe.step inputs)
      (BlockKind.atan2.outline inputs.outline block) := by
  refine Renders.bind (Renders.filledOr hinputs "X" _ _) ?_
  intro x first _ hx
  refine Renders.bind (Renders.filledOr hinputs "Y" _ _) ?_
  intro y second _ hy
  exact Renders.filled
    (((((Naming.Fills.ofText _).append hy).append (.ofText _)).append hx).append (.ofText _))

theorem randomIntRecipe_fills
    (hinputs : inputs.Fill reserved naming)
    (block : Block) :
    Renders reserved naming (Code.Fills naming)
      (inputs.requests "FROM" ++ (inputs.requests "TO" ++ []))
      (randomIntRecipe.step inputs)
      (BlockKind.randomInt.outline inputs.outline block) := by
  refine Renders.bind (Renders.filledOr hinputs "FROM" _ _) ?_
  intro low first _ hlow
  refine Renders.bind (Renders.filledOr hinputs "TO" _ _) ?_
  intro high second _ hhigh
  exact Renders.filled
    (((((Naming.Fills.ofText _).append hlow).append (.ofText _)).append hhigh).append (.ofText _))

/-- A recipe for the identifier of a helper, followed by a call of that helper. -/
theorem Renders.filledCall
    {requests : List String}
    {recipe : Recipe String String}
    {label : Label}
    (hrecipe : Renders reserved naming naming.Fills requests (recipe.step inputs)
      (some [.place label]))
    {code : String}
    {outline : Outline}
    (hcode : naming.Fills code outline) :
    Renders reserved naming (Code.Fills naming) (requests ++ [])
      ((recipe >>= fun function =>
        pure (Code.expression (function ++ "(" ++ code ++ ")") .call)).step inputs)
      (some (.value ([.place label, .text "("] ++ outline ++ [.text ")"]) .call)) := by
  refine Renders.bind_some hrecipe ?_
  intro function hfunction
  exact Renders.filled (((hfunction.append (.ofText _)).append hcode).append (.ofText _))

theorem statisticRecipe_fills
    (hkeywords : ∀ word ∈ keywords, word ∈ reserved)
    (hinputs : inputs.Fill reserved naming)
    (block : Block) :
    Renders reserved naming (Code.Fills naming)
      (inputs.requests "LIST" ++ BlockKind.onList.requests block)
      ((statisticRecipe block).step inputs)
      (BlockKind.onList.outline inputs.outline block) := by
  refine Renders.check _ ?_
  intro operator hread
  have hrequests : BlockKind.onList.requests block = operator.requests ++ [] := by
    simp [BlockKind.requests, hread]
  have hplace : Renders reserved naming naming.Fills operator.requests
      (operator.helperRecipe.step inputs) (some [.place (.ofHelper operator.helperName)]) := by
    refine Renders.place (operator.helperRecipe_renders hkeywords) (fun _ hname => hname) ?_
    intro pass
    cases operator <;> exact ⟨_, rfl⟩
  rw [hrequests]
  refine Renders.bind (Renders.filledOr hinputs "LIST" _ _) ?_
  intro list outline _ hlist
  exact hplace.filledCall hlist

/-- Whether a divisor is the numeral zero does not depend on identifiers. -/
theorem Naming.Fills.eq_zero_iff
    {code : String}
    {outline : Outline}
    (h : naming.Fills code outline) :
    code = "0" ↔ outline.sample = "0" := by
  rw [← String.toList_inj, ← String.toList_inj]
  exact h.eq_iff (by simp)

theorem divisibleByRecipe_fills
    (hinputs : inputs.Fill reserved naming)
    {subject : String}
    {outline : Outline}
    (hsubject : naming.Fills subject outline) :
    Renders reserved naming (Code.Fills naming) (inputs.requests "DIVISOR" ++ [])
      ((divisibleByRecipe subject).step inputs)
      (NumberProperty.divisibleBy.outline inputs.outline outline) := by
  refine Renders.bind (Renders.slot (hinputs "DIVISOR" .product)) ?_
  intro answer meant _ hanswer
  cases hanswer with
  | none =>
      exact Renders.filled (.ofText "nil")
  | @some divisor second hdivisor =>
      by_cases h : divisor = "0"
      · have hsample := hdivisor.eq_zero_iff.mp h
        simp only [h, hsample, if_true]
        exact Renders.filled (.ofText "nil")
      · have hsample : second.sample ≠ "0" := fun hzero => h (hdivisor.eq_zero_iff.mpr hzero)
        simp only [h, hsample, if_false]
        exact Renders.filled
          (((hsubject.append (.ofText _)).append hdivisor).append (.ofText _))

theorem NumberProperty.recipe_fills
    (hkeywords : ∀ word ∈ keywords, word ∈ reserved)
    (hinputs : inputs.Fill reserved naming)
    (property : NumberProperty)
    {subject : String}
    {outline : Outline}
    (hsubject : naming.Fills subject outline) :
    Renders reserved naming (Code.Fills naming)
      ((if property = .divisibleBy then inputs.requests "DIVISOR" else []) ++
        (if property = .prime then [MathHelper.isPrimeName] else []))
      ((property.recipe subject).step inputs)
      (property.outline inputs.outline outline) := by
  cases property with
  | divisibleBy =>
      exact divisibleByRecipe_fills hinputs hsubject
  | prime =>
      have hprime : Renders reserved naming naming.Fills [MathHelper.isPrimeName]
          ((Recipe.request MathHelper.isPrimeName MathHelper.isPrime).step inputs)
          (some [.place (.ofHelper MathHelper.isPrimeName)]) :=
        Renders.place (Renders.request hkeywords rfl) (fun _ hname => hname) fun _ => ⟨_, rfl⟩
      exact hprime.filledCall hsubject
  | _ =>
      exact Renders.filled (hsubject.append (.ofText _))

theorem propertyRecipe_fills
    (hkeywords : ∀ word ∈ keywords, word ∈ reserved)
    (hinputs : inputs.Fill reserved naming)
    (block : Block) :
    Renders reserved naming (Code.Fills naming)
      ((BlockKind.numberProperty.slots block).flatMap inputs.requests ++
        BlockKind.numberProperty.requests block)
      ((propertyRecipe block).step inputs)
      (BlockKind.numberProperty.outline inputs.outline block) := by
  refine Renders.check _ ?_
  intro property hread
  rw [BlockKind.requests_numberProperty hread]
  refine Renders.bind (Renders.filledOr hinputs "NUMBER_TO_CHECK" _ _) ?_
  intro subject outline _ hsubject
  exact property.recipe_fills hkeywords hinputs hsubject

/-- What a block of a kind asks for, operands first, is written after its outline. -/
theorem BlockKind.recipe_fills
    (hkeywords : ∀ word ∈ keywords, word ∈ reserved)
    (hinputs : inputs.Fill reserved naming)
    (kind : BlockKind)
    (block : Block) :
    Renders reserved naming (Code.Fills naming)
      ((kind.slots block).flatMap inputs.requests ++ kind.requests block)
      ((kind.recipe block).step inputs)
      (kind.outline inputs.outline block) := by
  cases kind with
  | number =>
      exact numberRecipe_fills block
  | arithmetic =>
      simpa [BlockKind.recipe, BlockKind.slots, BlockKind.requests] using
        arithmeticRecipe_fills hinputs block
  | single =>
      simpa [BlockKind.recipe, BlockKind.slots, BlockKind.requests, BlockKind.outline] using
        functionRecipe_fills hinputs block
  | round =>
      simpa [BlockKind.recipe, BlockKind.slots, BlockKind.requests, BlockKind.outline] using
        functionRecipe_fills hinputs block
  | trig =>
      simpa [BlockKind.recipe, BlockKind.slots, BlockKind.requests, BlockKind.outline] using
        functionRecipe_fills hinputs block
  | constant =>
      exact constantRecipe_fills block
  | numberProperty =>
      exact propertyRecipe_fills hkeywords hinputs block
  | onList =>
      simpa [BlockKind.recipe, BlockKind.slots] using
        statisticRecipe_fills hkeywords hinputs block
  | modulo =>
      simpa [BlockKind.recipe, BlockKind.slots, BlockKind.requests] using
        moduloRecipe_fills hinputs block
  | constrain =>
      simpa [BlockKind.recipe, BlockKind.slots, BlockKind.requests] using
        constrainRecipe_fills hinputs block
  | randomInt =>
      simpa [BlockKind.recipe, BlockKind.slots, BlockKind.requests] using
        randomIntRecipe_fills hinputs block
  | randomFloat =>
      exact Renders.filled (.ofText _)
  | atan2 =>
      simpa [BlockKind.recipe, BlockKind.slots, BlockKind.requests] using
        angleRecipe_fills hinputs block
  | change =>
      simpa [BlockKind.recipe, BlockKind.slots, BlockKind.requests] using
        changeRecipe_fills hkeywords hinputs block

/-- What is plugged into a slot is written after its outline, if it is a value. -/
theorem Agrees.filledOperand
    {requests : List String}
    {log : List Request}
    {result : Except Fault Code}
    {outline : Option CodeOutline}
    (h : Agrees naming (Code.Fills naming) requests log result outline)
    (blockType : String)
    (allowed : BindingLevel) :
    Agrees naming (Option.Rel naming.Fills) requests log
      (do
        let code ← result
        let value ← code.asValue blockType
        return some (value.operand allowed))
      (do
        let code ← outline
        let operand ← code.operand? allowed
        return some operand) := by
  cases result with
  | error fault =>
      cases outline with
      | none =>
          trivial
      | some outline =>
          exact h.elim
  | ok code =>
      cases outline with
      | none =>
          exact h.elim
      | some outline =>
          obtain ⟨hfills, hlogs⟩ := h
          cases code with
          | value v =>
              cases outline with
              | value code level =>
                  obtain ⟨rfl, hcode⟩ := hfills
                  exact ⟨.some (hcode.enclose v.level allowed), hlogs⟩
              | statement lines =>
                  exact hfills.elim
          | statement lines =>
              cases outline with
              | value code level =>
                  exact hfills.elim
              | statement outlines =>
                  trivial

mutual

/-- A block is written after its outline. -/
theorem Block.fills
    (hkeywords : ∀ word ∈ keywords, word ∈ reserved) :
    (block : Block) →
    Renders reserved naming (Code.Fills naming) block.requests (block.write []) block.outline
  | .node blockType fields inputs => by
      have hinputs : inputs.Fill reserved naming :=
        fun slot allowed => inputs.fills hkeywords slot allowed
      have hblock : Renders reserved naming (Code.Fills naming)
          (Block.node blockType fields inputs).requests
          ((mathRecipe (.node blockType fields inputs)).step inputs)
          (Block.node blockType fields inputs).outline := by
        refine Renders.check _ ?_
        intro kind hread
        have hkind : (Tagged.read blockType : Except Fault BlockKind) = .ok kind := hread
        have hrecipe := kind.recipe_fills hkeywords hinputs (.node blockType fields inputs)
        simpa [Block.requests, hkind] using hrecipe
      intro pass
      rw [Block.write_eq]
      exact hblock pass

theorem Inputs.fills
    (hkeywords : ∀ word ∈ keywords, word ∈ reserved) :
    (inputs : Inputs) →
    (slot : String) →
    (allowed : BindingLevel) →
    Renders reserved naming (Option.Rel naming.Fills) (inputs.requests slot)
      (inputs.write [] slot allowed) (inputs.outline slot allowed)
  | .empty, slot, allowed => by
      intro pass _ _
      exact ⟨[], .nothing, .none, .nil⟩
  | .plug slot child rest, wanted, allowed => by
      by_cases h : slot = wanted
      · intro pass hsound
        have hchild := child.fills hkeywords pass hsound
        simp only [Inputs.write, Inputs.requests, Inputs.outline, h, if_true]
        intro hwithin
        obtain ⟨log, hserves, hagrees⟩ := hchild hwithin
        exact ⟨log, hserves, hagrees.filledOperand child.blockType allowed⟩
      · have hrest := rest.fills hkeywords wanted allowed
        intro pass
        have hpass := hrest pass
        simpa [Inputs.write, Inputs.requests, Inputs.outline, h] using hpass

end

/-- The lines of a block at the top level are written after their outlines. -/
theorem Code.Fills.topLines
    {code : Code}
    {outline : CodeOutline}
    (h : code.Fills naming outline)
    (wrapBareValues : Bool) :
    List.Forall₂ naming.Fills (code.topLines wrapBareValues) (outline.topLines wrapBareValues) := by
  cases code with
  | value v =>
      cases outline with
      | value code level =>
          obtain ⟨_, hcode⟩ := h
          refine .cons ?_ .nil
          cases wrapBareValues with
          | false =>
              exact hcode
          | true =>
              exact (Naming.Fills.ofText _).append hcode
      | statement lines =>
          exact h.elim
  | statement lines =>
      cases outline with
      | value code level =>
          exact h.elim
      | statement outlines =>
          exact h

end MathBlocks
