import MathBlocks.Proofs.Compiler.OpenHistory

/-!
# Compiling as a new compiler does

What a program is compiled to depends on the settings and on the writers for the types of the
blocks that are met, and on nothing that was served before. Any writers may be registered. Those
that ask for no types but the ones in their own block meet none that the program does not have; a
writer that makes up a block adds its type to those that are met.
-/

namespace MathBlocks

mutual

/-- The types of a block and of the blocks in it. -/
def Block.blockTypes : Block → List String
  | .node blockType _ inputs => blockType :: inputs.blockTypes

def Inputs.blockTypes : Inputs → List String
  | .empty => []
  | .plug _ child rest => child.blockTypes ++ rest.blockTypes

end

/-- The types of the blocks of a program, at every depth. -/
def Program.blockTypes (program : Program) : List String :=
  program.blocks.flatMap Block.blockTypes

/-- The types in what is plugged into a slot are types in the inputs. -/
theorem Inputs.blockTypes_subset :
    {inputs : Inputs} →
    {slot : String} →
    {child : Block} →
    inputs.block? slot = some child →
    child.blockTypes ⊆ inputs.blockTypes
  | .empty, _, _, h => nomatch h
  | .plug other held rest, slot, child, h => by
      rw [Inputs.block?] at h
      rw [Inputs.blockTypes]
      split at h
      · cases h
        exact List.subset_append_left _ _
      · exact List.subset_append_of_subset_right _ (rest.blockTypes_subset h)

theorem Block.blockTypes_subset
    {block child : Block}
    {slot : String}
    (h : block.input? slot = some child) :
    child.blockTypes ⊆ block.blockTypes := by
  cases block
  exact List.subset_cons_of_subset _ (Inputs.blockTypes_subset h)

namespace OpenCustoms

end OpenCustoms

namespace OpenCompiler

end OpenCompiler

namespace OpenCompiler

/-- A writer that writes another block in place of its own. -/
def standIn (block : Block) : OpenWriter := fun _ => do
  let code ← Recipe.operandOr ⟨.node "" [] (.plug "" block .empty), ""⟩ .any ""
  return .expression code .atomic

end OpenCompiler
end MathBlocks
