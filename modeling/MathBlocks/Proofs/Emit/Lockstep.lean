import MathBlocks.Proofs.Emit.Codes
import MathBlocks.Proofs.Emit.Variables

/-!
# Two passes over one program

A walk depends on its pass only through the answers that it gets. So two walks over the same blocks
go the same way as long as their passes answer alike, be it from different sources of names.
`Pass.Lockstep` says that of single requests, for any relation between the two passes; one of them
may get lost, after which nothing is said of the other. The theorems here carry it over to blocks
and to whole programs.
-/

namespace MathBlocks

variable {ν μ : Type} [NameSource ν] [NameSource μ]

/-- Whether two results are one and their passes are together, unless the first pass is lost. -/
def Pass.Alike
    {α : Type}
    (lost : Pass ν → Prop)
    (together : Pass ν → Pass μ → Prop)
    (outcome : α × Pass ν)
    (other : α × Pass μ) : Prop :=
  lost outcome.2 ∨ (outcome.1 = other.1 ∧ together outcome.2 other.2)

/--
Whether passes that are together stay so when both serve one request, unless the first one gets
lost by it. Variables are asked for only if they are known ones. A pass that is lost stays lost.
-/
structure Pass.Lockstep
    (lost : Pass ν → Prop)
    (known : String → Prop)
    (together : Pass ν → Pass μ → Prop) : Prop where
  helper :
    ∀ {pass other} name template, together pass other →
      Pass.Alike lost together (pass.helper name template) (other.helper name template)
  identify :
    ∀ {pass other} name, known name → together pass other →
      Pass.Alike lost together (pass.identify name) (other.identify name)
  lost_helper : ∀ {pass} name template, lost pass → lost (pass.helper name template).2
  lost_identify : ∀ {pass} name, lost pass → lost (pass.identify name).2

namespace Pass.Lockstep

variable
  {lost : Pass ν → Prop}
  {known : String → Prop}
  {together : Pass ν → Pass μ → Prop}

/-- A pass that is lost stays lost whatever it serves. -/
theorem lost_of_serves
    (hsteps : Pass.Lockstep lost known together)
    {pass after : Pass ν}
    {log : List Request}
    (hserves : pass.Serves log after)
    (hlost : lost pass) :
    lost after := by
  induction hserves with
  | nothing =>
      exact hlost
  | helper name template _ ih =>
      exact hsteps.lost_helper name template ih
  | identify name _ ih =>
      exact hsteps.lost_identify name ih

/-- A recipe is carried out alike in passes that are together, if the operands are written so. -/
theorem run
    (hsteps : Pass.Lockstep lost known together)
    {α : Type}
    {operand : String → BindingLevel → Pass ν → Except Fault (Option String) × Pass ν}
    {otherOperand : String → BindingLevel → Pass μ → Except Fault (Option String) × Pass μ}
    (hserves : ∀ slot allowed (pass : Pass ν),
      ∃ log, pass.Serves log (operand slot allowed pass).2)
    (hoperand : ∀ slot allowed {pass : Pass ν} {other : Pass μ}, together pass other →
      Pass.Alike lost together (operand slot allowed pass) (otherOperand slot allowed other))
    {recipe : Recipe String α}
    (hknown : recipe.Identifies known)
    {pass : Pass ν}
    {other : Pass μ}
    (htogether : together pass other) :
    Pass.Alike lost together (recipe.run (Pass.supplier operand) pass)
      (recipe.run (Pass.supplier otherOperand) other) := by
  -- a pass that is lost by a request is lost in the end
  have hlost : ∀ (next : Recipe String α) (middle : Pass ν), lost middle →
      lost (next.run (Pass.supplier operand) middle).2 := by
    intro next middle hmiddle
    obtain ⟨log, hlog⟩ := Recipe.run_serves hserves next middle
    exact hsteps.lost_of_serves hlog hmiddle
  induction recipe generalizing pass other with
  | done result =>
      exact Or.inr ⟨rfl, htogether⟩
  | fail fault =>
      exact Or.inr ⟨rfl, htogether⟩
  | operand slot allowed next ih =>
      rcases hoperand slot allowed htogether with hgone | ⟨hanswer, hmiddle⟩
      · exact Or.inl (hlost (next _) _ hgone)
      · have hrest := ih (operand slot allowed pass).1 (hknown _) hmiddle
        simp only [Recipe.run, Pass.supplier] at hrest ⊢
        rwa [← hanswer]
  | helper name template next ih =>
      rcases hsteps.helper name template htogether with hgone | ⟨hanswer, hmiddle⟩
      · exact Or.inl (hlost (next _) _ hgone)
      · have hrest := ih (pass.helper name template).1 (hknown _) hmiddle
        simp only [Recipe.run, Pass.supplier] at hrest ⊢
        rwa [← hanswer]
  | identifier name next ih =>
      rcases hsteps.identify name hknown.1 htogether with hgone | ⟨hanswer, hmiddle⟩
      · exact Or.inl (hlost (next _) _ hgone)
      · have hrest := ih (pass.identify name).1 (hknown.2 _) hmiddle
        simp only [Recipe.run, Pass.supplier] at hrest ⊢
        rwa [← hanswer]

mutual

/-- A block is written alike in passes that are together. -/
theorem write
    (hsteps : Pass.Lockstep lost known together)
    {customs : Customs} :
    (block : Block) →
    block.Identifies customs known →
    {pass : Pass ν} →
    {other : Pass μ} →
    together pass other →
    Pass.Alike lost together (block.write customs pass) (block.write customs other)
  | .node blockType fields inputs, hknown, pass, other, htogether => by
      rw [Block.write_eq, Block.write_eq]
      exact hsteps.run (inputs.write_serves customs · · ·)
        (fun slot allowed _ _ hinputs => writeInputs hsteps inputs hknown.2 slot allowed hinputs)
        hknown.1 htogether

/-- What is plugged into a slot is written alike in passes that are together. -/
theorem writeInputs
    (hsteps : Pass.Lockstep lost known together)
    {customs : Customs} :
    (inputs : Inputs) →
    inputs.Identifies customs known →
    (wanted : String) →
    (allowed : BindingLevel) →
    {pass : Pass ν} →
    {other : Pass μ} →
    together pass other →
    Pass.Alike lost together (inputs.write customs wanted allowed pass)
      (inputs.write customs wanted allowed other)
  | .empty, _, _, _, _, _, htogether => Or.inr ⟨rfl, htogether⟩
  | .plug slot child rest, hknown, wanted, allowed, pass, other, htogether => by
      by_cases h : slot = wanted
      · have hchild := write hsteps child hknown.1 htogether
        simp only [Inputs.write, h, if_true]
        rcases hchild with hgone | ⟨hresult, hafter⟩
        · exact Or.inl hgone
        · exact Or.inr ⟨by rw [hresult], hafter⟩
      · have hrest := writeInputs hsteps rest hknown.2 wanted allowed htogether
        simpa [Inputs.write, h] using hrest

end

/-- The blocks at the top level are written alike in passes that are together. -/
theorem writeCodes
    (hsteps : Pass.Lockstep lost known together)
    {customs : Customs}
    {blocks : List Block}
    (hknown : ∀ block ∈ blocks, block.Identifies customs known)
    {pass : Pass ν}
    {other : Pass μ}
    (htogether : together pass other) :
    Pass.Alike lost together
      (writeCodes customs blocks pass) (writeCodes customs blocks other) := by
  induction blocks generalizing pass other with
  | nil =>
      exact Or.inr ⟨rfl, htogether⟩
  | cons block rest ih =>
      obtain ⟨hblock, hrest⟩ := List.forall_mem_cons.mp hknown
      have hfirst := hsteps.write block hblock htogether
      simp only [MathBlocks.writeCodes]
      cases hwrite : block.write customs pass with
      | mk result middle =>
          rw [hwrite] at hfirst
          rcases hfirst with hgone | ⟨hresult, hmiddle⟩
          · refine Or.inl ?_
            cases result with
            | error fault =>
                exact hgone
            | ok code =>
                exact hsteps.lost_of_serves (writeCodes_serves customs rest middle) hgone
          · cases hother : block.write customs other with
            | mk otherResult otherMiddle =>
                rw [hother] at hresult hmiddle
                obtain rfl : result = otherResult := hresult
                cases result with
                | error fault =>
                    exact Or.inr ⟨rfl, hmiddle⟩
                | ok code =>
                    rcases ih hrest hmiddle with hgone | ⟨hcodes, hafter⟩
                    · exact Or.inl hgone
                    · exact Or.inr ⟨congrArg (Except.map (code :: ·)) hcodes, hafter⟩

end Pass.Lockstep
end MathBlocks
