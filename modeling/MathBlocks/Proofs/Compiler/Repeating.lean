import MathBlocks.Compiler
import MathBlocks.Proofs.Emit.Pass

/-!
# Writing a block again

All that a recipe asks of a pass is kept: helpers by their logical names, variables by theirs. A
block that is written once more, at any later time of the same pass, is therefore answered as it was
before, asks the same, and leaves the pass as it is. That holds of a block with a fault, too, whose
writing ends where it ended before.
-/

namespace MathBlocks

section Repeating

variable {α : Type}

/--
Whether a writing gives the same result again, and changes nothing, in every later pass that has
the identifiers that the first one has given.
-/
def Repeats (write : Pass NameDirectory → α × Pass NameDirectory) : Prop :=
  ∀ pass later,
    (write pass).2.naming.Within later.naming →
    write later = ((write pass).1, later)

/-- A helper that was asked for is not written again. -/
theorem Pass.repeats_helper
    (name : String)
    (template : List String) :
    Repeats (Pass.helper name template) := by
  intro pass later hwithin
  have hidentifier := hwithin.ofHelper_eq (pass.identifier?_helper name template)
  obtain ⟨helper, hfind, hhelper⟩ := Option.map_eq_some_iff.mp hidentifier
  rw [Pass.helper_of_find hfind, hhelper]

/-- A variable that was asked for keeps its identifier. -/
theorem Pass.repeats_identify
    (name : String) :
    Repeats (Pass.identify name) := by
  intro pass later hwithin
  exact Pass.identify_of_some (hwithin.ofVariable_eq (pass.ofVariable_identify name))

/-- A recipe repeats itself if its operands do, whatever has become of them. -/
theorem Recipe.repeats
    {operand : String → BindingLevel → Pass NameDirectory →
      Except Fault (Option String) × Pass NameDirectory}
    (hserves : ∀ slot allowed (pass : Pass NameDirectory),
      ∃ log, pass.Serves log (operand slot allowed pass).2)
    (hoperand : ∀ slot allowed, Repeats (operand slot allowed))
    (recipe : Recipe String α) :
    Repeats (recipe.run (Pass.supplier operand)) := by
  -- what is handed out at a question is still there at the end of the recipe
  have hrest (rest : Recipe String α) (middle : Pass NameDirectory) :
      middle.naming.Within (rest.run (Pass.supplier operand) middle).2.naming := by
    obtain ⟨_, hrun⟩ := Recipe.run_serves hserves rest middle
    exact hrun.within
  induction recipe with
  | done result =>
      exact fun _ _ _ => rfl
  | fail fault =>
      exact fun _ _ _ => rfl
  | operand slot allowed next ih =>
      intro pass later hwithin
      have hsame := hoperand slot allowed pass later ((hrest _ _).trans hwithin)
      have hnext := ih (operand slot allowed pass).1 (operand slot allowed pass).2 later hwithin
      simp only [Recipe.run, Pass.supplier] at hnext ⊢
      rw [hsame]
      exact hnext
  | helper name template next ih =>
      intro pass later hwithin
      have hsame := Pass.repeats_helper name template pass later ((hrest _ _).trans hwithin)
      have hnext := ih (pass.helper name template).1 (pass.helper name template).2 later hwithin
      simp only [Recipe.run, Pass.supplier] at hnext ⊢
      rw [hsame]
      exact hnext
  | identifier name next ih =>
      intro pass later hwithin
      have hsame := Pass.repeats_identify name pass later ((hrest _ _).trans hwithin)
      have hnext := ih (pass.identify name).1 (pass.identify name).2 later hwithin
      simp only [Recipe.run, Pass.supplier] at hnext ⊢
      rw [hsame]
      exact hnext

mutual

/-- A block repeats itself, whatever the writers are. -/
theorem Block.write_repeats
    (customs : Customs) :
    (block : Block) →
    Repeats (block.write customs)
  | .node blockType fields inputs => by
      have hinputs := fun slot allowed => inputs.write_repeats customs slot allowed
      have hserves := fun slot allowed (pass : Pass NameDirectory) =>
        inputs.write_serves customs slot allowed pass
      have hrecipe :=
        Recipe.repeats hserves hinputs (customs.recipe (.node blockType fields inputs))
      intro pass later hwithin
      rw [Block.write_eq] at hwithin
      rw [Block.write_eq, Block.write_eq]
      exact hrecipe pass later hwithin

theorem Inputs.write_repeats
    (customs : Customs)
    (wanted : String)
    (allowed : BindingLevel) :
    (inputs : Inputs) →
    Repeats (inputs.write customs wanted allowed)
  | .empty => fun _ _ _ => rfl
  | .plug slot child rest => by
      by_cases h : slot = wanted
      · intro pass later hwithin
        simp only [Inputs.write, if_pos h] at hwithin ⊢
        rw [child.write_repeats customs pass later hwithin]
      · intro pass later hwithin
        simp only [Inputs.write, if_neg h] at hwithin ⊢
        exact rest.write_repeats customs wanted allowed pass later hwithin

end

end Repeating

namespace Compiler

/--
Whatever a compiler was asked before and whatever writers it has, a block that it has written, or
for which it has found a fault, gives the same result when it is written again, and the compiler
stays as it is with all its helpers and names. The first writing already leaves every helper in its
place as it is, and every variable with its identifier.
-/
theorem writeBlock_again
    (compiler : Compiler NameDirectory)
    (block : Block) :
    let first := compiler.writeBlock block
    first.2.writeBlock block = first ∧
    compiler.helpers <+: first.2.helpers ∧
    compiler.pass.naming.Within first.2.pass.naming := by
  obtain ⟨log, hserves⟩ := block.write_serves compiler.customs compiler.pass
  have hagain := block.write_repeats compiler.customs compiler.pass
    (block.write compiler.customs compiler.pass).2 ⟨id, id⟩
  refine ⟨?_, hserves.helpers_prefix, hserves.within⟩
  simp only [writeBlock]
  rw [hagain]

end Compiler
end MathBlocks
