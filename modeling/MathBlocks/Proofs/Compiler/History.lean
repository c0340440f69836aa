import MathBlocks.Compiler
import MathBlocks.Proofs.Emit.Codes
import MathBlocks.Proofs.Emit.Pass

/-!
# What a compiler remembers

A compiler serves calls one after the other. However they turn out, what it keeps from them beside
the registered writers is the current pass, and that is one of its settings: taken back, it is the
pass that a new compiler starts with. A program is therefore compiled as by a new compiler.
-/

namespace MathBlocks

/-- A call of a compiler. -/
inductive Call where
  | compile (program : Program)
  | block (block : Block)
  | value (block : Block)
  | slot (block : Block) (slot : String) (allowed : BindingLevel)
  | helper (name : String) (template : List String)
  | identify (name : String)
  | forget
  | register (blockType : String) (writer : Writer)

/-- What a compiler answers to a call. -/
inductive Answer where
  | program (result : Except Fault LuaProgram)
  | code (result : Except Fault Code)
  | value (result : Except Fault Value)
  | operand (result : Except Fault (Option String))
  | identifier (identifier : String)
  | done

namespace Compiler

/-- Serves a call. -/
def serve
    {ν : Type}
    [NameSource ν]
    (compiler : Compiler ν) :
    Call → Answer × Compiler ν
  | .compile program =>
      let (result, compiler) := compiler.compile program
      (.program result, compiler)
  | .block block =>
      let (result, compiler) := compiler.writeBlock block
      (.code result, compiler)
  | .value block =>
      let (result, compiler) := compiler.writeValue block
      (.value result, compiler)
  | .slot block slot allowed =>
      let (result, compiler) := compiler.writeSlot block slot allowed
      (.operand result, compiler)
  | .helper name template =>
      let (identifier, compiler) := compiler.helper name template
      (.identifier identifier, compiler)
  | .identify name =>
      let (identifier, compiler) := compiler.identify name
      (.identifier identifier, compiler)
  | .forget => (.done, compiler.forget)
  | .register blockType writer => (.done, compiler.register blockType writer)

/-- A compiler after it has served these calls. -/
def after
    {ν : Type}
    [NameSource ν]
    (compiler : Compiler ν)
    (calls : List Call) : Compiler ν :=
  calls.foldl (fun compiler call => (compiler.serve call).2) compiler

end Compiler

/-- The words that a compiler of these settings keeps off. -/
def Settings.avoided (settings : Settings) : List String :=
  Lua.reservedWords ++ settings.reservedWords

section Declaring

variable {ν : Type} [NameSource ν]

mutual

/-- The variables that a block changes are requests for variables. -/
theorem Block.declare_serves
    (pass : Pass ν) :
    (block : Block) →
    pass.Serves [] { pass with names := block.declare pass.names }
  | .node blockType fields inputs => by
      simp only [Block.declare]
      cases hstatement : isStatementType blockType with
      | false =>
          exact inputs.declare_serves pass
      | true =>
          cases hfield : fields.text? "VAR" with
          | none =>
              exact inputs.declare_serves pass
          | some name =>
              exact (pass.serves_identify name).trans (inputs.declare_serves (pass.identify name).2)

theorem Inputs.declare_serves
    (pass : Pass ν) :
    (inputs : Inputs) →
    pass.Serves [] { pass with names := inputs.declare pass.names }
  | .empty => .nothing
  | .plug slot child rest => by
      have hchild := child.declare_serves pass
      have hrest := rest.declare_serves { pass with names := child.declare pass.names }
      exact hchild.trans hrest

end

theorem declared_serves
    (pass : Pass ν)
    (program : Program) :
    pass.Serves [] (Compiler.declared pass program) := by
  obtain ⟨blocks⟩ := program
  unfold Compiler.declared
  induction blocks generalizing pass with
  | nil =>
      exact .nothing
  | cons block rest ih =>
      have hrest := ih { pass with names := block.declare pass.names }
      exact (block.declare_serves pass).trans hrest

end Declaring

namespace Compiler

/-- Whether a compiler is one of these settings, with a pass that may have come about under them. -/
structure Belongs
    (settings : Settings)
    (compiler : Compiler NameDirectory) : Prop where
  settings_eq : compiler.settings = settings
  indent_eq : compiler.pass.helpers.indent = settings.indent
  sound : compiler.pass.Sound settings.avoided

theorem belongs_new
    (settings : Settings) :
    (new settings).Belongs settings :=
  ⟨rfl, rfl, NameDirectory.sound_fresh _, fun _ hmem => nomatch hmem⟩

/-- A compiler belongs to its settings with a pass that only served requests, too. -/
theorem Belongs.serves
    {settings : Settings}
    {compiler : Compiler NameDirectory}
    (h : compiler.Belongs settings)
    {log : List Request}
    {pass : Pass NameDirectory}
    (hserves : compiler.pass.Serves log pass) :
    Belongs settings { compiler with pass := pass } :=
  ⟨h.settings_eq, hserves.indent_eq.trans h.indent_eq, hserves.sound h.sound⟩

/-- Whatever the pass has handed out, taken back it is the one that a new compiler starts with. -/
theorem Belongs.forget_eq
    {settings : Settings}
    {compiler : Compiler NameDirectory}
    (h : compiler.Belongs settings) :
    compiler.pass.forget = (new settings).pass := by
  have hhelpers : compiler.pass.helpers.emptied = .empty settings.indent := by
    rw [HelperTable.emptied, h.indent_eq]
    rfl
  have hnames : compiler.pass.names.forget = .fresh settings.reservedWords := by
    rw [NameDirectory.forget, h.sound.names.reserved_eq]
    rfl
  show Pass.mk compiler.pass.helpers.emptied compiler.pass.names.forget = _
  rw [hhelpers, hnames]
  rfl

theorem Belongs.forget
    {settings : Settings}
    {compiler : Compiler NameDirectory}
    (h : compiler.Belongs settings) :
    compiler.forget.Belongs settings :=
  ⟨h.settings_eq, h.indent_eq, h.sound.forget⟩

/-- The pass that a program is written in makes requests only, from the start of a new pass on. -/
theorem writeBlocks_declared_serves
    (compiler : Compiler NameDirectory)
    (program : Program) :
    ∃ log,
      compiler.pass.forget.Serves log
        (writeBlocks compiler.customs compiler.settings.wrapBareValues program.blocks
          (declared compiler.pass.forget program)).2 := by
  obtain ⟨log, hlog⟩ := writeBlocks_serves compiler.customs compiler.settings.wrapBareValues
    program.blocks (declared compiler.pass.forget program)
  exact ⟨[] ++ log, (declared_serves compiler.pass.forget program).trans hlog⟩

/-- A program that is compiled leaves its helpers and names in the pass. -/
theorem compile_of_ok
    {ν : Type}
    [NameSource ν]
    {compiler : Compiler ν}
    {program : Program}
    {lines : List String}
    {pass : Pass ν}
    (h : writeBlocks compiler.customs compiler.settings.wrapBareValues program.blocks
      (declared compiler.pass.forget program) = (.ok lines, pass)) :
    compiler.compile program =
      (.ok ⟨pass.helpers.helpers, lines⟩, { compiler with pass := pass }) := by
  simp [compile, h]

/-- A program that is not compiled leaves nothing in the pass. -/
theorem compile_of_error
    {ν : Type}
    [NameSource ν]
    {compiler : Compiler ν}
    {program : Program}
    {fault : Fault}
    {pass : Pass ν}
    (h : writeBlocks compiler.customs compiler.settings.wrapBareValues program.blocks
      (declared compiler.pass.forget program) = (.error fault, pass)) :
    compiler.compile program = (.error fault, { compiler with pass := pass.forget }) := by
  simp [compile, h]

/-- A program is compiled to what its blocks are written as from the start of a new compiler on. -/
theorem Belongs.compile_eq_codes
    {settings : Settings}
    {compiler : Compiler NameDirectory}
    (h : compiler.Belongs settings)
    (program : Program) :
    compiler.compile program =
      match writeCodes compiler.customs program.blocks (declared (new settings).pass program) with
      | (.ok codes, pass) =>
          (.ok ⟨pass.helpers.helpers, codes.flatMap (Code.topLines settings.wrapBareValues)⟩,
            { compiler with pass := pass })
      | (.error fault, pass) => (.error fault, { compiler with pass := pass.forget }) := by
  have hwrite := writeBlocks_eq compiler.customs settings.wrapBareValues program.blocks
    (declared compiler.pass.forget program)
  rw [compile, h.settings_eq, hwrite, h.forget_eq]
  cases writeCodes compiler.customs program.blocks (declared (new settings).pass program) with
  | mk result pass =>
      cases result <;> rfl

/-- A program that is compiled is written as codes, and its lines are made of these. -/
theorem Belongs.codes_of_compile
    {settings : Settings}
    {compiler after : Compiler NameDirectory}
    (h : compiler.Belongs settings)
    {program : Program}
    {lua : LuaProgram}
    (hok : compiler.compile program = (.ok lua, after)) :
    ∃ codes,
      writeCodes compiler.customs program.blocks (declared (new settings).pass program) =
        (.ok codes, after.pass) ∧
      lua.helpers = after.pass.helpers.helpers ∧
      lua.lines = codes.flatMap (Code.topLines settings.wrapBareValues) := by
  rw [h.compile_eq_codes] at hok
  cases hcodes : writeCodes compiler.customs program.blocks
      (declared (new settings).pass program) with
  | mk result pass =>
      rw [hcodes] at hok
      cases result with
      | error fault =>
          cases hok
      | ok codes =>
          cases hok
          exact ⟨codes, rfl, rfl, rfl⟩

theorem Belongs.compile
    {settings : Settings}
    {compiler : Compiler NameDirectory}
    (h : compiler.Belongs settings)
    (program : Program) :
    (compiler.compile program).2.Belongs settings := by
  obtain ⟨log, hserves⟩ := compiler.writeBlocks_declared_serves program
  cases hwrite : writeBlocks compiler.customs compiler.settings.wrapBareValues program.blocks
      (declared compiler.pass.forget program) with
  | mk result pass =>
      rw [hwrite] at hserves
      have hpass := h.forget.serves hserves
      cases result with
      | ok lines =>
          rw [compile_of_ok hwrite]
          exact hpass
      | error fault =>
          rw [compile_of_error hwrite]
          exact hpass.forget

/-- A compiler belongs to its settings after every call. -/
theorem Belongs.serve
    {settings : Settings}
    {compiler : Compiler NameDirectory}
    (h : compiler.Belongs settings)
    (call : Call) :
    (compiler.serve call).2.Belongs settings := by
  cases call with
  | compile program =>
      exact h.compile program
  | block block =>
      obtain ⟨log, hserves⟩ := block.write_serves compiler.customs compiler.pass
      exact h.serves hserves
  | value block =>
      obtain ⟨log, hserves⟩ := block.write_serves compiler.customs compiler.pass
      exact h.serves hserves
  | slot block slot allowed =>
      obtain ⟨log, hserves⟩ :=
        block.inputs.write_serves compiler.customs slot allowed compiler.pass
      exact h.serves hserves
  | helper name template =>
      exact h.serves (compiler.pass.serves_helper name template)
  | identify name =>
      exact h.serves (compiler.pass.serves_identify name)
  | forget =>
      exact h.forget
  | register blockType writer =>
      exact ⟨h.settings_eq, h.indent_eq, h.sound⟩

/-- A compiler belongs to its settings after any calls. -/
theorem Belongs.after
    {settings : Settings}
    {compiler : Compiler NameDirectory}
    (h : compiler.Belongs settings)
    (calls : List Call) :
    (compiler.after calls).Belongs settings := by
  induction calls generalizing compiler with
  | nil =>
      exact h
  | cons call rest ih =>
      exact ih (h.serve call)

end Compiler

end MathBlocks
