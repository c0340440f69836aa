import MathBlocks.Emit.Walk
import MathBlocks.Lua.Program
import MathBlocks.Names.Directory

/-!
# The compiler

A compiler turns programs of blocks into Lua programs. It holds the settings, the writers that
were registered for block types outside math, and what the current pass has handed out. Each
program is a pass of its own: it starts with no helpers and no names, and a pass that fails leaves
none behind. Single blocks can be written too; they go on with the current pass.
-/

namespace MathBlocks

/-- The settings, the registered writers and the current pass. -/
structure Compiler (ν : Type) where
  settings : Settings
  customs : Customs
  pass : Pass ν

namespace Compiler

variable {ν : Type}

/-- A compiler with a source of names of its own. -/
def withSource
    (settings : Settings)
    (names : ν) : Compiler ν where
  settings := settings
  customs := []
  pass := ⟨.empty settings.indent, names⟩

/-- A compiler with the usual source of names, which keeps off the words of the settings. -/
def new (settings : Settings) : Compiler NameDirectory :=
  withSource settings (.fresh settings.reservedWords)

/-- Registers a writer for a block type, in place of any other. -/
def register
    (compiler : Compiler ν)
    (blockType : String)
    (writer : Writer) : Compiler ν :=
  { compiler with customs := (blockType, writer) :: compiler.customs }

/-- Registers ready-made writers. -/
def registerAll
    (compiler : Compiler ν)
    (blocks : List (String × CustomKind)) : Compiler ν :=
  blocks.foldl (fun compiler block => compiler.register block.1 block.2.writer) compiler

variable [NameSource ν]

/-- Starts a new pass. -/
def forget (compiler : Compiler ν) : Compiler ν :=
  { compiler with pass := compiler.pass.forget }

/-- Writes a block in the current pass. -/
def writeBlock
    (compiler : Compiler ν)
    (block : Block) : Except Fault Code × Compiler ν :=
  let (result, pass) := block.write compiler.customs compiler.pass
  (result, { compiler with pass := pass })

/-- Writes a block that has to be a value in the current pass. -/
def writeValue
    (compiler : Compiler ν)
    (block : Block) : Except Fault Value × Compiler ν :=
  let (result, pass) := block.writeValue compiler.customs compiler.pass
  (result, { compiler with pass := pass })

/-- Writes what is plugged into a slot of a block, fit for a place of that level. -/
def writeSlot
    (compiler : Compiler ν)
    (block : Block)
    (slot : String)
    (allowed : BindingLevel) : Except Fault (Option String) × Compiler ν :=
  let (result, pass) := block.inputs.write compiler.customs slot allowed compiler.pass
  (result, { compiler with pass := pass })

/-- The identifier of a helper in the current pass. -/
def helper
    (compiler : Compiler ν)
    (name : String)
    (template : List String) : String × Compiler ν :=
  let (identifier, pass) := compiler.pass.helper name template
  (identifier, { compiler with pass := pass })

/-- The identifier of a variable in the current pass. -/
def identify
    (compiler : Compiler ν)
    (name : String) : String × Compiler ν :=
  let (identifier, pass) := compiler.pass.identify name
  (identifier, { compiler with pass := pass })

/-- The helpers of the current pass. -/
def helpers (compiler : Compiler ν) : List Helper :=
  compiler.pass.helpers.helpers

/-- A pass in which the variables that a program changes have their identifiers. -/
def declared
    (pass : Pass ν)
    (program : Program) : Pass ν :=
  { pass with names := program.blocks.foldl (fun names block => block.declare names) pass.names }

/-- Compiles a program in a pass of its own. -/
def compile
    (compiler : Compiler ν)
    (program : Program) : Except Fault LuaProgram × Compiler ν :=
  let start := declared compiler.pass.forget program
  match writeBlocks compiler.customs compiler.settings.wrapBareValues program.blocks start with
  | (.ok lines, pass) => (.ok ⟨pass.helpers.helpers, lines⟩, { compiler with pass := pass })
  | (.error fault, pass) => (.error fault, { compiler with pass := pass.forget })

end Compiler

/-- The text of a program under the standard settings. -/
def compileText (program : Program) : Except Fault String :=
  (Compiler.new .standard).compile program |>.1.map LuaProgram.text

end MathBlocks
