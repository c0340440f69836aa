import Mathlib.Tactic.Choose
import MathBlocks.Emit.Walk
import MathBlocks.Proofs.Helper.Table

/-!
# What a pass is asked for

While blocks are written, a pass only ever answers requests for helpers and for variables.
`Pass.Serves` is this relation between a pass and a later one, with the requests for helpers
listed in their order. The walk over the blocks stays within it, whatever writers are registered
and whether or not it ends in a fault; what the walk keeps is then a matter of single requests.
`Block.log` is the list of the requests that a walk makes.
-/

namespace MathBlocks

/-- A helper that is asked for: its logical name and the template of its lines. -/
abbrev Request := String × List String

section Serving

variable {ν : Type} [NameSource ν]

/-- A later pass, after these requests for helpers and any requests for variables. -/
inductive Pass.Serves (pass : Pass ν) : List Request → Pass ν → Prop
  | nothing :
      Serves pass [] pass
  | helper
      {log : List Request}
      {after : Pass ν}
      (name : String)
      (template : List String)
      (hserves : Serves pass log after) :
      Serves pass (log ++ [(name, template)]) (after.helper name template).2
  | identify
      {log : List Request}
      {after : Pass ν}
      (name : String)
      (hserves : Serves pass log after) :
      Serves pass log (after.identify name).2

theorem Pass.Serves.trans
    {pass middle after : Pass ν}
    {first second : List Request}
    (hfirst : pass.Serves first middle)
    (hsecond : middle.Serves second after) :
    pass.Serves (first ++ second) after := by
  induction hsecond with
  | nothing =>
      rw [List.append_nil]
      exact hfirst
  | helper name template _ ih =>
      rw [← List.append_assoc]
      exact .helper name template ih
  | identify name _ ih =>
      exact .identify name ih

theorem Pass.serves_helper
    (pass : Pass ν)
    (name : String)
    (template : List String) :
    pass.Serves [(name, template)] (pass.helper name template).2 :=
  .helper name template .nothing

theorem Pass.serves_identify
    (pass : Pass ν)
    (name : String) :
    pass.Serves [] (pass.identify name).2 :=
  .identify name .nothing

/-- The supplier that answers for operands in this way and for names from the pass. -/
def Pass.supplier
    (operand : String → BindingLevel → Pass ν → Except Fault (Option String) × Pass ν) :
    Supplier String (Pass ν) where
  operand := operand
  helper := Pass.helper
  identify := Pass.identify

/-- A block is written by carrying out its recipe with the blocks plugged into it. -/
theorem Block.write_eq
    (customs : Customs)
    (block : Block)
    (pass : Pass ν) :
    block.write customs pass =
      (customs.recipe block).run (Pass.supplier (block.inputs.write customs)) pass := by
  cases block
  rfl

/-- What is plugged into a slot is written as a value and then put into a place of that level. -/
theorem Inputs.write_eq
    (customs : Customs)
    (slot : String)
    (allowed : BindingLevel) :
    (inputs : Inputs) →
    (pass : Pass ν) →
    inputs.write customs slot allowed pass =
      (inputs.block? slot).elim (.ok none, pass) fun child =>
        ((child.writeValue customs pass).1.map fun value => some (value.operand allowed),
          (child.writeValue customs pass).2)
  | .empty, _ => rfl
  | .plug other child rest, pass => by
      rw [Inputs.write, Inputs.block?]
      by_cases hslot : other = slot
      · rw [if_pos hslot, if_pos hslot, Option.elim_some]
        unfold Block.writeValue
        rcases child.write customs pass with ⟨fault | code, after⟩
        · rfl
        · show (code.asValue child.blockType >>= _, after) = _
          cases hvalue : code.asValue child.blockType with
          | error fault =>
              simp only [hvalue, bind, Except.bind]
              rfl
          | ok value =>
              simp only [hvalue, bind, Except.bind]
              rfl
      · rw [if_neg hslot, if_neg hslot]
        exact rest.write_eq customs slot allowed pass

/-- The requests for helpers that carrying out a recipe makes, those of the operands included. -/
def Recipe.log
    {α : Type}
    (operand : String → BindingLevel → Pass ν → Except Fault (Option String) × Pass ν)
    (operandLog : String → BindingLevel → Pass ν → List Request) :
    Recipe String α → Pass ν → List Request
  | .done _, _ => []
  | .fail _, _ => []
  | .operand slot allowed next, pass =>
      let (answer, middle) := operand slot allowed pass
      operandLog slot allowed pass ++ (next answer).log operand operandLog middle
  | .helper name template next, pass =>
      let (answer, middle) := pass.helper name template
      (name, template) :: (next answer).log operand operandLog middle
  | .identifier name next, pass =>
      let (answer, middle) := pass.identify name
      (next answer).log operand operandLog middle

mutual

/-- The requests for helpers that writing a block makes, in turn. -/
def Block.log
    (customs : Customs) :
    Block → Pass ν → List Request
  | .node blockType fields inputs, pass =>
      (customs.recipe (.node blockType fields inputs)).log (inputs.write customs)
        (fun slot _ pass => inputs.log customs slot pass) pass

/-- The requests for helpers that writing what is plugged into a slot makes. -/
def Inputs.log
    (customs : Customs) :
    Inputs → String → Pass ν → List Request
  | .empty, _, _ => []
  | .plug slot child rest, wanted, pass =>
      if slot = wanted then child.log customs pass else rest.log customs wanted pass

end

/-- The requests for helpers that writing the blocks at the top level makes, up to a fault. -/
def logBlocks
    (customs : Customs) :
    List Block → Pass ν → List Request
  | [], _ => []
  | block :: rest, pass =>
      block.log customs pass ++
        match block.write customs pass with
        | (.error _, _) => []
        | (.ok _, middle) => logBlocks customs rest middle

/-- Carrying out a recipe makes the requests of its log, if the operands make those of theirs. -/
theorem Recipe.run_serves_log
    {α : Type}
    {operand : String → BindingLevel → Pass ν → Except Fault (Option String) × Pass ν}
    {operandLog : String → BindingLevel → Pass ν → List Request}
    (hoperand : ∀ slot allowed (pass : Pass ν),
      pass.Serves (operandLog slot allowed pass) (operand slot allowed pass).2)
    (recipe : Recipe String α)
    (pass : Pass ν) :
    pass.Serves (recipe.log operand operandLog pass)
      (recipe.run (Pass.supplier operand) pass).2 := by
  induction recipe generalizing pass with
  | done result =>
      exact .nothing
  | fail fault =>
      exact .nothing
  | operand slot allowed next ih =>
      exact (hoperand slot allowed pass).trans (ih _ (operand slot allowed pass).2)
  | helper name template next ih =>
      exact (pass.serves_helper name template).trans (ih _ (pass.helper name template).2)
  | identifier name next ih =>
      exact (pass.serves_identify name).trans (ih _ (pass.identify name).2)

mutual

/-- Writing a block makes the requests of its log. -/
theorem Block.write_serves_log
    (customs : Customs)
    (pass : Pass ν) :
    (block : Block) →
    pass.Serves (block.log customs pass) (block.write customs pass).2
  | .node blockType fields inputs => by
      rw [Block.write_eq, Block.log]
      have hinputs := fun slot allowed pass => inputs.write_serves_log customs slot allowed pass
      exact Recipe.run_serves_log hinputs _ pass

theorem Inputs.write_serves_log
    (customs : Customs)
    (wanted : String)
    (allowed : BindingLevel)
    (pass : Pass ν) :
    (inputs : Inputs) →
    pass.Serves (inputs.log customs wanted pass) (inputs.write customs wanted allowed pass).2
  | .empty => .nothing
  | .plug slot child rest => by
      by_cases h : slot = wanted
      · simpa [Inputs.write, Inputs.log, h] using child.write_serves_log customs pass
      · simpa [Inputs.write, Inputs.log, h] using
          rest.write_serves_log customs wanted allowed pass

end

/-- Writing the blocks at the top level makes the requests of their log. -/
theorem writeBlocks_serves_log
    (customs : Customs)
    (wrapBareValues : Bool)
    (blocks : List Block)
    (pass : Pass ν) :
    pass.Serves (logBlocks customs blocks pass)
      (writeBlocks customs wrapBareValues blocks pass).2 := by
  induction blocks generalizing pass with
  | nil =>
      exact .nothing
  | cons block rest ih =>
      have hfirst := block.write_serves_log customs pass
      rw [logBlocks, writeBlocks]
      cases hwrite : block.write customs pass with
      | mk result middle =>
          rw [hwrite] at hfirst
          cases result with
          | error fault =>
              exact hfirst.trans .nothing
          | ok code =>
              exact hfirst.trans (ih middle)

/-- A recipe only makes requests, if the operands do. -/
theorem Recipe.run_serves
    {α : Type}
    {operand : String → BindingLevel → Pass ν → Except Fault (Option String) × Pass ν}
    (hoperand : ∀ slot allowed (pass : Pass ν),
      ∃ log, pass.Serves log (operand slot allowed pass).2)
    (recipe : Recipe String α)
    (pass : Pass ν) :
    ∃ log, pass.Serves log (recipe.run (Pass.supplier operand) pass).2 := by
  choose operandLog hlog using hoperand
  exact ⟨_, Recipe.run_serves_log hlog recipe pass⟩

/-- Writing a block only makes requests. -/
theorem Block.write_serves
    (customs : Customs)
    (pass : Pass ν)
    (block : Block) :
    ∃ log, pass.Serves log (block.write customs pass).2 :=
  ⟨_, block.write_serves_log customs pass⟩

theorem Inputs.write_serves
    (customs : Customs)
    (wanted : String)
    (allowed : BindingLevel)
    (pass : Pass ν)
    (inputs : Inputs) :
    ∃ log, pass.Serves log (inputs.write customs wanted allowed pass).2 :=
  ⟨_, inputs.write_serves_log customs wanted allowed pass⟩

/-- Writing the blocks at the top level only makes requests. -/
theorem writeBlocks_serves
    (customs : Customs)
    (wrapBareValues : Bool)
    (blocks : List Block)
    (pass : Pass ν) :
    ∃ log, pass.Serves log (writeBlocks customs wrapBareValues blocks pass).2 :=
  ⟨_, writeBlocks_serves_log customs wrapBareValues blocks pass⟩

end Serving
end MathBlocks
