import MathBlocks.Proofs.Compiler.History
import MathBlocks.Proofs.Emit.Ending

/-!
# The fault of a program

A compiler without registered writers compiles a program if no fault is found when the program is
looked through, and else it reports the fault that is found first. Neither its settings nor its
names nor what it has done before matter, and neither does anything in slots that are not looked
into.
-/

namespace MathBlocks

theorem Visit.fault?_operand_pruned
    (block : Block) :
    (Visit.operand block.pruned).fault? = (Visit.operand block).fault? := by
  cases block
  rfl

mutual

/-- What is not looked into has no fault that is found. -/
theorem Block.findSome?_visits_pruned :
    (block : Block) →
    block.pruned.visits.findSome? Visit.fault? = block.visits.findSome? Visit.fault?
  | .node blockType fields inputs => by
      rw [Block.pruned, Block.findSome?_visits, Block.findSome?_visits,
        Block.ownFault?_node _ _ _ inputs]
      simp only [Block.kind, Block.blockType]
      cases (Tagged.read blockType : Except Fault BlockKind) with
      | error fault =>
          rfl
      | ok kind =>
          have hsame := kind.slots_node blockType fields
            (inputs.pruned (kind.slots (.node blockType fields inputs))) inputs
          have hslots : ∀ slot ∈ kind.slots (.node blockType fields inputs),
              ((inputs.pruned (kind.slots (.node blockType fields inputs))).visits slot).findSome?
                  Visit.fault? =
                (inputs.visits slot).findSome? Visit.fault? :=
            fun slot hslot => inputs.findSome?_visits_pruned _ slot hslot
          simp only
          rw [hsame, findSome?_congr hslots]

theorem Inputs.findSome?_visits_pruned :
    (inputs : Inputs) →
    (slots : List String) →
    (slot : String) →
    slot ∈ slots →
    ((inputs.pruned slots).visits slot).findSome? Visit.fault? =
      (inputs.visits slot).findSome? Visit.fault?
  | .empty, _, _, _ => rfl
  | .plug slot child rest, slots, wanted, hwanted => by
      have hrest := rest.findSome?_visits_pruned slots wanted hwanted
      by_cases h : slot = wanted
      · subst h
        have hchild := child.findSome?_visits_pruned
        simp [Inputs.pruned, Inputs.visits, hwanted, List.findSome?_append, hchild,
          Visit.fault?_operand_pruned]
      · by_cases hslot : slot ∈ slots
        · simpa [Inputs.pruned, Inputs.visits, hslot, h] using hrest
        · simpa [Inputs.pruned, Inputs.visits, hslot, h] using hrest

end

theorem Program.findSome?_visits_pruned
    (program : Program) :
    program.pruned.visits.findSome? Visit.fault? = program.visits.findSome? Visit.fault? := by
  obtain ⟨blocks⟩ := program
  simp only [Program.visits, Program.pruned, findSome?_flatMap, List.findSome?_map]
  congr 1
  funext block
  exact block.findSome?_visits_pruned

namespace Compiler

variable {ν : Type} [NameSource ν]

/-- A compiler without writers finds the fault that is found when a program is looked through. -/
theorem faultIn_compile
    {compiler : Compiler ν}
    (hcustoms : compiler.customs = [])
    (program : Program) :
    faultIn (compiler.compile program).1 = program.visits.findSome? Visit.fault? := by
  have hnames : Pass.Names (fun _ => True) (fun _ : Pass ν => True) :=
    ⟨fun _ _ _ _ => ⟨fun _ _ => trivial, trivial⟩, fun _ _ _ => ⟨fun _ _ => trivial, trivial⟩⟩
  have hends := writeBlocks_ends (fun _ _ => trivial) hnames compiler.settings.wrapBareValues
    program.blocks (declared compiler.pass.forget program) trivial
  rw [← hcustoms] at hends
  rw [Program.visits, ← hends.fault_eq]
  cases hwrite : writeBlocks compiler.customs compiler.settings.wrapBareValues program.blocks
      (declared compiler.pass.forget program) with
  | mk result pass =>
      cases result with
      | ok lines =>
          rw [compile_of_ok hwrite]
          rfl
      | error fault =>
          rw [compile_of_error hwrite]
          rfl

/--
A compiler without registered writers refuses a program with the fault that is found first when the
program is looked through, and compiles it if none is found. What is in slots that are not looked
into makes no difference to that.
-/
theorem compile_refused_iff
    (compiler : Compiler ν)
    (hcustoms : compiler.customs = [])
    (program : Program) :
    (∀ fault, (compiler.compile program).1 = .error fault ↔
      ∃ before visit after,
        program.visits = before ++ visit :: after ∧
        visit.fault? = some fault ∧
        ∀ earlier ∈ before, earlier.fault? = none) ∧
    ((∃ lua, (compiler.compile program).1 = .ok lua) ↔
      ∀ visit ∈ program.visits, visit.fault? = none) ∧
    (faultIn (compiler.compile program.pruned).1 = faultIn (compiler.compile program).1) := by
  have hfault := faultIn_compile hcustoms program
  refine ⟨?_, ?_, ?_⟩
  · intro fault
    rw [← List.findSome?_eq_some_iff, ← hfault]
    cases (compiler.compile program).1 <;> simp
  · rw [← List.findSome?_eq_none_iff, ← hfault]
    cases (compiler.compile program).1 <;> simp
  · rw [hfault, faultIn_compile hcustoms, program.findSome?_visits_pruned]

/-- A statement in the place of a value, which lacks its field: the field is found missing first. -/
theorem compile_refused_statement :
    ((new .standard).compile
      ⟨[.node "math_single" [("OP", "NEG")]
        (.plug "NUM" (.node "math_change" [] .empty) .empty)]⟩).1 =
      .error (.missingField "math_change" "VAR") :=
  ((compile_refused_iff (new .standard) rfl _).1 _).mpr
    ⟨[_], .node (.node "math_change" [] .empty), [_], rfl, rfl, by simp; rfl⟩

end Compiler
end MathBlocks
