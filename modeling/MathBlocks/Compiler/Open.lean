import MathBlocks.Compiler
import MathBlocks.Emit.Open

/-!
# The compiler with open writers

A compiler on which any writers can be registered, also those that ask about blocks of their own
making. Its calls are those of a `Compiler`; the ones that write blocks are given a limit for the
blocks under way inside each other, and where it is not enough nothing comes of them.
-/

namespace MathBlocks

/-- The settings, the registered open writers and the current pass. -/
structure OpenCompiler (ν : Type) where
  settings : Settings
  customs : OpenCustoms
  pass : Pass ν

/-- A compiler as one with open writers. -/
def Compiler.opened
    {ν : Type}
    (compiler : Compiler ν) : OpenCompiler ν where
  settings := compiler.settings
  customs := compiler.customs.opened
  pass := compiler.pass

namespace OpenCompiler

/-- A compiler with the usual source of names, which keeps off the words of the settings. -/
def new (settings : Settings) : OpenCompiler NameDirectory :=
  (Compiler.new settings).opened

variable {ν : Type}

/-- Registers a writer for a block type, in place of any other. -/
def register
    (compiler : OpenCompiler ν)
    (blockType : String)
    (writer : OpenWriter) : OpenCompiler ν :=
  { compiler with customs := (blockType, writer) :: compiler.customs }

/-- The helpers of the current pass. -/
def helpers (compiler : OpenCompiler ν) : List Helper :=
  compiler.pass.helpers.helpers

variable [NameSource ν]

/-- Starts a new pass. -/
def forget (compiler : OpenCompiler ν) : OpenCompiler ν :=
  { compiler with pass := compiler.pass.forget }

/-- The identifier of a helper in the current pass. -/
def helper
    (compiler : OpenCompiler ν)
    (name : String)
    (template : List String) : String × OpenCompiler ν :=
  let (identifier, pass) := compiler.pass.helper name template
  (identifier, { compiler with pass := pass })

/-- The identifier of a variable in the current pass. -/
def identify
    (compiler : OpenCompiler ν)
    (name : String) : String × OpenCompiler ν :=
  let (identifier, pass) := compiler.pass.identify name
  (identifier, { compiler with pass := pass })

/-- A compiler that goes on with the pass that came of writing. -/
def goOn
    {α : Type}
    (compiler : OpenCompiler ν)
    (written : Except Fault α × Pass ν) : Except Fault α × OpenCompiler ν :=
  (written.1, { compiler with pass := written.2 })

/-- Writes a block in the current pass. -/
def writeBlock
    (depth : Nat)
    (compiler : OpenCompiler ν)
    (block : Block) : Option (Except Fault Code × OpenCompiler ν) :=
  (compiler.customs.write depth block compiler.pass).map compiler.goOn

/-- Writes a block that has to be a value in the current pass. -/
def writeValue
    (depth : Nat)
    (compiler : OpenCompiler ν)
    (block : Block) : Option (Except Fault Value × OpenCompiler ν) :=
  (compiler.customs.writeValue depth block compiler.pass).map compiler.goOn

/-- The program that lines make with the helpers of the pass; after a fault nothing is left. -/
def finish
    (compiler : OpenCompiler ν) :
    Except Fault (List String) × Pass ν → Except Fault LuaProgram × OpenCompiler ν
  | (.ok lines, pass) => (.ok ⟨pass.helpers.helpers, lines⟩, { compiler with pass := pass })
  | (.error fault, pass) => (.error fault, { compiler with pass := pass.forget })

/-- Compiles a program in a pass of its own. -/
def compile
    (depth : Nat)
    (compiler : OpenCompiler ν)
    (program : Program) : Option (Except Fault LuaProgram × OpenCompiler ν) :=
  let start := Compiler.declared compiler.pass.forget program
  let wrap := compiler.settings.wrapBareValues
  (compiler.customs.writeBlocks depth wrap program.blocks start).map compiler.finish

end OpenCompiler
end MathBlocks
