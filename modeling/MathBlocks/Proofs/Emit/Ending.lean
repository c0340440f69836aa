import MathBlocks.Proofs.Emit.Serving
import MathBlocks.Proofs.Emit.Slots
import MathBlocks.Proofs.Traversal

/-!
# How the walk ends

A tree of math blocks is written without a fault, or the walk over it ends with the first fault
that is found when the tree is looked through. This holds for any source of names. What is written
consists of printable characters and of those that are in the names handed out.
-/

namespace MathBlocks

section Walk

variable {ν : Type} [NameSource ν]

/-- Whether passes hand out names over a class of characters and stay fit for that. -/
structure Pass.Names
    (fit : Char → Prop)
    (keeps : Pass ν → Prop) : Prop where
  helper :
    ∀ name template pass, keeps pass →
      Text.Over fit (pass.helper name template).1 ∧
      keeps (pass.helper name template).2
  identify :
    ∀ name pass, keeps pass →
      Text.Over fit (pass.identify name).1 ∧
      keeps (pass.identify name).2

/-- The first fault of a block is the one in itself, or the first one in its slots. -/
theorem Block.findSome?_visits
    (blockType : String)
    (fields : Fields)
    (inputs : Inputs) :
    (Block.node blockType fields inputs).visits.findSome? Visit.fault? =
      (Block.node blockType fields inputs).ownFault?.or
        ((match (Block.node blockType fields inputs).kind with
          | .ok kind => kind.slots (.node blockType fields inputs)
          | .error _ => []).findSome? fun slot => (inputs.visits slot).findSome? Visit.fault?) := by
  have hvisits : (Block.node blockType fields inputs).visits =
      .node (.node blockType fields inputs) ::
        (match (Block.node blockType fields inputs).kind with
          | .ok kind => kind.slots (.node blockType fields inputs)
          | .error _ => []).flatMap fun slot => inputs.visits slot := by
    rw [Block.visits]
    show _ = _ :: (match (Tagged.read blockType : Except Fault BlockKind) with
      | .ok kind => kind.slots (.node blockType fields inputs)
      | .error _ => []).flatMap _
    cases (Tagged.read blockType : Except Fault BlockKind) <;> rfl
  rw [hvisits, List.findSome?_cons, findSome?_flatMap]
  simp only [Visit.fault?]
  cases (Block.node blockType fields inputs).ownFault? <;> rfl

variable
  {fit : Char → Prop}
  {keeps : Pass ν → Prop}
  (hfit : ∀ c, Text.isPrintable c = true → fit c)

include hfit

omit [NameSource ν] in
/-- What is plugged in has to be a value, and is put in parentheses where its place asks for it. -/
theorem Ends.operand
    {fault? : Option Fault}
    {child : Block}
    {outcome : Except Fault Code × Pass ν}
    (h : Ends fault? (Code.Fits fit (isStatementType child.blockType)) keeps outcome)
    (allowed : BindingLevel) :
    Ends (fault?.or (Visit.operand child).fault?) (AnswerOver fit) keeps
      (do
        let code ← outcome.1
        let value ← code.asValue child.blockType
        return some (value.operand allowed), outcome.2) := by
  obtain ⟨result, pass⟩ := outcome
  obtain ⟨hfault, hresult, hkeeps⟩ := h
  subst hfault
  cases result with
  | error fault =>
      exact ⟨rfl, by rintro _ ⟨⟩, hkeeps⟩
  | ok code =>
      have hfits := hresult code rfl
      cases code with
      | statement lines =>
          obtain ⟨hstatement, _⟩ := hfits
          refine ⟨?_, by rintro _ ⟨⟩, hkeeps⟩
          simp only [faultIn_ok, Visit.fault?, hstatement]
          rfl
      | value v =>
          obtain ⟨hvalue, hcode⟩ := hfits
          refine ⟨?_, ?_, hkeeps⟩
          · simp only [faultIn_ok, Visit.fault?, hvalue]
            rfl
          · rintro answer ⟨rfl⟩ code ⟨rfl⟩
            have hopening : Text.Over fit "(" := Text.over_of_printable hfit (by decide)
            have hclosing : Text.Over fit ")" := Text.over_of_printable hfit (by decide)
            simp only [Value.operand, BindingLevel.enclose]
            split
            · simp [hopening, hcode, hclosing]
            · exact hcode

omit [NameSource ν] in
/-- The lines that fit code is written as at the top level. -/
theorem Code.Fits.topLines
    {statement : Bool}
    {code : Code}
    (h : code.Fits fit statement)
    (wrapBareValues : Bool) :
    ∀ line ∈ code.topLines wrapBareValues, Text.Over fit line := by
  intro line hline
  cases code with
  | statement lines =>
      obtain ⟨_, only, rfl, honly⟩ := h
      rw [List.mem_singleton.mp hline]
      exact honly
  | value v =>
      have hassignment : Text.Over fit "local _ = " := Text.over_of_printable hfit (by decide)
      rw [List.mem_singleton.mp hline]
      split
      · simp [hassignment, h.2]
      · exact h.2

mutual

/-- A block is written up to its first fault. -/
theorem Block.write_ends
    (hnames : Pass.Names fit keeps) :
    (block : Block) →
    (pass : Pass ν) →
    keeps pass →
    Ends (block.visits.findSome? Visit.fault?) (Code.Fits fit (isStatementType block.blockType))
      keeps (block.write [] pass)
  | .node blockType fields inputs, pass, hkeeps => by
      have hinputs := fun slot allowed pass hkeeps =>
        inputs.write_ends hnames slot allowed pass hkeeps
      have hrecipe := mathRecipe_follows hfit (.node blockType fields inputs)
      have hmath : Customs.recipe [] (.node blockType fields inputs) =
          mathRecipe (.node blockType fields inputs) := rfl
      have hgives : (Pass.supplier (inputs.write [])).Gives fit keeps fun slot =>
          (inputs.visits slot).findSome? Visit.fault? :=
        ⟨hinputs, hnames.helper, hnames.identify⟩
      rw [Block.write_eq, Block.findSome?_visits, hmath]
      exact hrecipe.run hgives hkeeps

theorem Inputs.write_ends
    (hnames : Pass.Names fit keeps) :
    (inputs : Inputs) →
    (slot : String) →
    (allowed : BindingLevel) →
    (pass : Pass ν) →
    keeps pass →
    Ends ((inputs.visits slot).findSome? Visit.fault?) (AnswerOver fit) keeps
      (inputs.write [] slot allowed pass)
  | .empty, _, _, _, hkeeps => ⟨rfl, by rintro _ ⟨rfl⟩ _ ⟨⟩, hkeeps⟩
  | .plug slot child rest, wanted, allowed, pass, hkeeps => by
      by_cases h : slot = wanted
      · have hchild := (child.write_ends hnames pass hkeeps).operand hfit allowed
        simp only [Inputs.write, Inputs.visits, h, if_true, List.findSome?_append]
        have hsingle : [Visit.operand child].findSome? Visit.fault? =
            (Visit.operand child).fault? := by
          rw [List.findSome?_cons]
          cases (Visit.operand child).fault? <;> rfl
        rw [hsingle]
        exact hchild
      · have hrest := rest.write_ends hnames wanted allowed pass hkeeps
        simpa [Inputs.write, Inputs.visits, h] using hrest

end

/-- The blocks of a program are written up to the first fault in them. -/
theorem writeBlocks_ends
    (hnames : Pass.Names fit keeps)
    (wrapBareValues : Bool)
    (blocks : List Block)
    (pass : Pass ν)
    (hkeeps : keeps pass) :
    Ends ((blocks.flatMap Block.visits).findSome? Visit.fault?)
      (fun lines => ∀ line ∈ lines, Text.Over fit line)
      keeps (writeBlocks [] wrapBareValues blocks pass) := by
  induction blocks generalizing pass with
  | nil =>
      exact ⟨rfl, by rintro _ ⟨rfl⟩; simp, hkeeps⟩
  | cons block rest ih =>
      have hblock := block.write_ends hfit hnames pass hkeeps
      rw [List.flatMap_cons, List.findSome?_append]
      cases hwrite : block.write [] pass with
      | mk result middle =>
          rw [hwrite] at hblock
          obtain ⟨hfault, hresult, hmiddle⟩ := hblock
          rw [← hfault]
          cases result with
          | error fault =>
              have hstep : writeBlocks [] wrapBareValues (block :: rest) pass =
                  (.error fault, middle) := by
                simp [writeBlocks, hwrite]
              rw [hstep]
              exact ⟨rfl, by rintro _ ⟨⟩, hmiddle⟩
          | ok code =>
              have hstep : writeBlocks [] wrapBareValues (block :: rest) pass =
                  ((writeBlocks [] wrapBareValues rest middle).1.map
                      (code.topLines wrapBareValues ++ ·),
                    (writeBlocks [] wrapBareValues rest middle).2) := by
                simp [writeBlocks, hwrite]
              obtain ⟨hrestFault, hrestResult, hafter⟩ := ih middle hmiddle
              rw [hstep, ← hrestFault]
              cases hrest : (writeBlocks [] wrapBareValues rest middle).1 with
              | error fault =>
                  exact ⟨rfl, by rintro _ ⟨⟩, hafter⟩
              | ok others =>
                  refine ⟨rfl, ?_, hafter⟩
                  rintro _ ⟨rfl⟩ line hline
                  rcases List.mem_append.mp hline with hline | hline
                  · exact (hresult code rfl).topLines hfit wrapBareValues line hline
                  · exact hrestResult others hrest line hline

end Walk
end MathBlocks
