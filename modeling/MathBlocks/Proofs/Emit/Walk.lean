import MathBlocks.Proofs.Emit.Recipes

/-!
# What the walk renders

Every tree of math blocks is written as what it stands for, and a program block by block. This is
the induction over the blocks; each of its steps is the theorem of a recipe.
-/

namespace MathBlocks

open Lua

variable {reserved : List String} {naming : Naming}

/-- What is plugged into a slot stands for its meaning, if it is written as one that is a value. -/
theorem Agrees.operand
    {requests : List String}
    {log : List Request}
    {result : Except Fault Code}
    {meant : Option Meaning}
    (h : Agrees naming Code.Presents requests log result meant)
    (blockType : String)
    (allowed : BindingLevel) :
    Agrees naming (Option.Rel (Stands allowed)) requests log
      (do
        let code ← result
        let value ← code.asValue blockType
        return some (value.operand allowed))
      (do
        let meaning ← meant
        let tree ← meaning.tree?
        return some tree) := by
  cases result with
  | error fault =>
      cases meant with
      | none =>
          trivial
      | some meaning =>
          exact h.elim
  | ok code =>
      cases meant with
      | none =>
          exact h.elim
      | some meaning =>
          obtain ⟨hpresents, hlogs⟩ := h
          cases code with
          | value v =>
              cases meaning with
              | value tree =>
                  exact ⟨.some (Value.Presents.stands hpresents allowed), hlogs⟩
              | assignment identifier tree =>
                  exact hpresents.elim
          | statement lines =>
              cases meaning with
              | value tree =>
                  exact hpresents.elim
              | assignment identifier tree =>
                  trivial

mutual

/-- A block is written as what it stands for. -/
theorem Block.renders
    (hkeywords : ∀ word ∈ keywords, word ∈ reserved) :
    (block : Block) →
    Renders reserved naming Code.Presents block.requests (block.write []) (block.meaning naming)
  | .node blockType fields inputs => by
      have hinputs : inputs.Render reserved naming :=
        fun slot allowed => inputs.renders hkeywords slot allowed
      have hblock : Renders reserved naming Code.Presents
          (Block.node blockType fields inputs).requests
          ((mathRecipe (.node blockType fields inputs)).step inputs)
          ((Block.node blockType fields inputs).meaning naming) := by
        refine Renders.check _ ?_
        intro kind hread
        have hkind : (Tagged.read blockType : Except Fault BlockKind) = .ok kind := hread
        have hrequests :=
          kind.recipe_renders hkeywords hinputs (.node blockType fields inputs)
        simpa [Block.requests, hkind] using hrequests
      intro pass
      rw [Block.write_eq]
      exact hblock pass

theorem Inputs.renders
    (hkeywords : ∀ word ∈ keywords, word ∈ reserved) :
    (inputs : Inputs) →
    (slot : String) →
    (allowed : BindingLevel) →
    Renders reserved naming (Option.Rel (Stands allowed)) (inputs.requests slot)
      (inputs.write [] slot allowed) (inputs.meaning naming slot)
  | .empty, slot, allowed => by
      intro pass _ _
      exact ⟨[], .nothing, .none, .nil⟩
  | .plug slot child rest, wanted, allowed => by
      by_cases h : slot = wanted
      · intro pass hsound
        have hchild := child.renders hkeywords pass hsound
        simp only [Inputs.write, Inputs.requests, Inputs.meaning, h, if_true]
        intro hwithin
        obtain ⟨log, hserves, hagrees⟩ := hchild hwithin
        exact ⟨log, hserves, hagrees.operand child.blockType allowed⟩
      · have hrest := rest.renders hkeywords wanted allowed
        intro pass
        have hpass := hrest pass
        simpa [Inputs.write, Inputs.requests, Inputs.meaning, h] using hpass

end

/-- Blocks that are each written as something are written as the lines of all of these, in turn. -/
theorem writeBlocks_renders_each
    {β : Type}
    {holds : Code → β → Prop}
    {meaning : Block → Option β}
    (hblock : ∀ block : Block,
      Renders reserved naming holds block.requests (block.write []) (meaning block))
    (wrapBareValues : Bool)
    (blocks : List Block) :
    Renders reserved naming
      (fun lines meanings => ∃ codes,
        List.Forall₂ holds codes meanings ∧
        lines = codes.flatMap (Code.topLines wrapBareValues))
      (blocks.flatMap Block.requests)
      (writeBlocks [] wrapBareValues blocks) (blocks.mapM meaning) := by
  induction blocks with
  | nil =>
      intro pass _ _
      exact ⟨[], .nothing, ⟨[], .nil, rfl⟩, .nil⟩
  | cons block rest ih =>
      have hstep : writeBlocks [] wrapBareValues (block :: rest) =
          Step.andThen (block.write []) fun code pass =>
            ((writeBlocks [] wrapBareValues rest pass).1.map (code.topLines wrapBareValues ++ ·),
              (writeBlocks [] wrapBareValues rest pass).2) := by
        funext pass
        simp only [writeBlocks, Step.andThen]
        cases block.write [] pass with
        | mk result middle =>
            cases result <;> rfl
      have hmeant : (block :: rest).mapM meaning =
          meaning block >>= fun meant => (rest.mapM meaning).map (meant :: ·) := by
        rw [List.mapM_cons]
        cases meaning block <;> cases rest.mapM meaning <;> rfl
      rw [hstep, hmeant, List.flatMap_cons]
      refine Renders.andThen (fun code => writeBlocks_serves [] wrapBareValues rest)
        (hblock block) ?_
      intro code meant _ hcode
      refine Renders.map ih ?_
      rintro lines meanings ⟨codes, hcodes, rfl⟩
      exact ⟨code :: codes, .cons hcode hcodes, by simp⟩

/-- Whether these are the lines of codes that present these meanings, in turn. -/
def PresentsAll
    (wrapBareValues : Bool)
    (lines : List String)
    (meanings : List Meaning) : Prop :=
  ∃ codes,
    List.Forall₂ Code.Presents codes meanings ∧
    lines = codes.flatMap (Code.topLines wrapBareValues)

/-- The blocks of a program are written as what they stand for, in turn. -/
theorem writeBlocks_renders
    (hkeywords : ∀ word ∈ keywords, word ∈ reserved)
    (wrapBareValues : Bool)
    (blocks : List Block) :
    Renders reserved naming (PresentsAll wrapBareValues) (blocks.flatMap Block.requests)
      (writeBlocks [] wrapBareValues blocks) (blocks.mapM (Block.meaning naming)) :=
  writeBlocks_renders_each (Block.renders hkeywords) wrapBareValues blocks

end MathBlocks
