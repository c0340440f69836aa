import MathBlocks.CommandLine.Run
import MathBlocks.Proofs.Compiler.Harmless
import MathBlocks.Proofs.Document.LuaProgram
import MathBlocks.Proofs.Lua.Margins

/-!
# What a compilation gives out

A compilation reads its files, compiles the program in them and gives it out in one of two formats.
As text it is the text of the compiled program, as a document it holds the program itself. So who
reads the document has the text as well.
-/

namespace MathBlocks

/-- A program of math blocks is compiled to helpers that have lines. -/
theorem Compiler.Belongs.lines_ne_nil
    {settings : Settings}
    {compiler : Compiler NameDirectory}
    (h : compiler.Belongs settings)
    (hcustoms : compiler.customs = [])
    {program : Program}
    {lua : LuaProgram}
    (hok : (compiler.compile program).1 = .ok lua) :
    ∀ helper ∈ lua.helpers, helper.lines ≠ [] := by
  obtain ⟨log, meanings, hserves, hlogs, hhelpers, _, _⟩ :=
    h.compile_math hcustoms (Prod.ext hok rfl)
  have hsound := hserves.sound h.sound.forget
  have hidentifiers : ∀ helper ∈ lua.helpers,
      Identifier.IsIdentifier helper.identifier.toList := by
    rw [hhelpers]
    exact fun helper hmem => (hsound.helpers helper hmem).1
  exact fun helper hmem =>
    ((h.written hserves hlogs hhelpers).printable hidentifiers helper hmem).1

namespace CommandLine

/-- The text that a plan gives out, printed or written to a file, unless it has failed already. -/
def Plan.output? : Plan → Option String
  | .finish outcome => if outcome.exit = 0 then some outcome.stdout else none
  | .write _ text _ => some text

/-- The program that a compilation of these files has to give out, if there is one. -/
def compiled?
    (files : Files)
    (input : String)
    (config : Option String) : Option LuaProgram := do
  let (program, settings) ← (load files input config).toOption
  ((Compiler.new settings).compile program).1.toOption

/-- A compilation gives out the compiled program in the format asked for, nothing without one. -/
theorem compilePlan_output?
    (files : Files)
    (input : String)
    (output : Option String)
    (format : ProgramFormat)
    (config : Option String)
    (verbose : Bool) :
    (compilePlan files input output format config verbose).output? =
      (compiled? files input config).map fun lua => lua.written format .none := by
  unfold compilePlan compiled?
  cases load files input config with
  | error failure =>
      rfl
  | ok loaded =>
      obtain ⟨program, settings⟩ := loaded
      simp only [Except.toOption, Option.bind_eq_bind, Option.bind_some]
      cases ((Compiler.new settings).compile program).1 with
      | error fault =>
          rfl
      | ok lua =>
          cases output <;> rfl

/-- The helpers of what a compilation gives out have lines. -/
theorem lines_ne_nil_of_compiled?
    {files : Files}
    {input : String}
    {config : Option String}
    {lua : LuaProgram}
    (h : compiled? files input config = some lua) :
    ∀ helper ∈ lua.helpers, helper.lines ≠ [] := by
  obtain ⟨⟨program, settings⟩, _, hcompile⟩ := Option.bind_eq_some_iff.mp h
  cases hresult : ((Compiler.new settings).compile program).1 with
  | error fault =>
      simp [hresult, Except.toOption] at hcompile
  | ok compiled =>
      obtain rfl : compiled = lua := by
        simpa [hresult, Except.toOption] using hcompile
      exact (Compiler.belongs_new settings).lines_ne_nil rfl hresult

/-- As text, a compilation gives out the text of the compiled program. -/
theorem compilePlan_output?_text
    (files : Files)
    (input : String)
    (output config : Option String)
    (verbose : Bool) :
    (compilePlan files input output .text config verbose).output? =
      (compiled? files input config).map LuaProgram.text := by
  rw [compilePlan_output?]
  refine Option.map_congr fun lua hlua => ?_
  exact LuaProgram.indentedText_zero_eq_text _ (lines_ne_nil_of_compiled? hlua)

/-- Without settings of its own, a compilation is one under the standard settings. -/
theorem compiled?_standard
    {files : Files}
    {input : String}
    {program : Program}
    (h : readProgram files input = .ok program) :
    compiled? files input none = ((Compiler.new .standard).compile program).1.toOption := by
  have hload : load files input none = .ok (program, .standard) := by
    unfold load
    rw [h]
    rfl
  unfold compiled?
  rw [hload]
  rfl

/--
Behind no margin, what is written line by line is the text of a program if and only if every helper
has a line, and a margin makes no other difference than to stand before each line. The programs that
blocks are compiled to have such helpers, after any calls that register no writers. So a compilation
that is to give out text gives out the text of the program, as does one under standard settings.
-/
theorem layouts_agree :
    (∀ unit lua,
      LuaProgram.indentedText ⟨0, unit⟩ lua = lua.text ↔
        ∀ helper ∈ lua.helpers, helper.lines ≠ []) ∧
    (∀ margin unit lua,
      LuaProgram.indentedText margin lua = (lua.behind margin).indentedText ⟨0, unit⟩) ∧
    (∀ settings calls,
      ((Compiler.new settings).after calls).customs = [] →
      ∀ program lua,
        (((Compiler.new settings).after calls).compile program).1 = .ok lua →
        (∀ helper ∈ lua.helpers, helper.lines ≠ []) ∧
        lua.written .text .none = lua.text) ∧
    (∀ files input output config verbose,
      ((Request.compile input output .text config verbose).plan files).output? =
        (compiled? files input config).map LuaProgram.text) ∧
    (∀ files input output verbose program,
      readProgram files input = .ok program →
      ((Request.compile input output .text none verbose).plan files).output? =
        (compileText program).toOption) := by
  refine ⟨LuaProgram.indentedText_zero_eq_text_iff, LuaProgram.indentedText_behind, ?_,
    compilePlan_output?_text, ?_⟩
  · intro settings calls hcustoms program lua hok
    have hbelongs := (Compiler.belongs_new settings).after calls
    have hlines := hbelongs.lines_ne_nil hcustoms hok
    exact ⟨hlines, LuaProgram.indentedText_zero_eq_text _ hlines⟩
  · intro files input output verbose program hprogram
    refine (compilePlan_output?_text files input output none verbose).trans ?_
    rw [compiled?_standard hprogram, compileText]
    cases ((Compiler.new .standard).compile program).1 <;> rfl

/-- A mean in a file: its helper and the one for the sum stand apart. -/
theorem layouts_agree_mean :
    let average := Block.node "math_on_list" [("OP", "AVERAGE")] .empty
    let files : Files := fun _ => .ok
      "\x7b\"blocks\":[\x7b\"type\":\"math_on_list\",\"fields\":\x7b\"OP\":\"AVERAGE\"\x7d\x7d]\x7d"
    (((Compiler.new .standard).compile ⟨[average]⟩).2.helpers.map Helper.logicalName =
        [MathHelper.sumName, MathHelper.averageName] ∧
      ∀ helper ∈ ((Compiler.new .standard).compile ⟨[average]⟩).2.helpers, helper.lines ≠ []) ∧
    ((Request.compile "mean.json" none .text none false).plan files).output? =
      (compileText ⟨[average]⟩).toOption := by
  intro average files
  have hok : ((Compiler.new .standard).compile ⟨[average]⟩).1 =
      .ok ⟨((Compiler.new .standard).compile ⟨[average]⟩).2.helpers,
        ["local _ = math_average(\x7b\x7d)"]⟩ := by
    decide +kernel
  obtain ⟨_, _, hlines, _, htext⟩ := layouts_agree
  refine ⟨⟨by decide +kernel, ?_⟩, ?_⟩
  · exact (hlines .standard [] rfl ⟨[average]⟩ _ hok).1
  · exact htext files "mean.json" none false ⟨[average]⟩ (by decide +kernel)

/--
The document of a program holds the program, whatever texts are in it. So what is read from the
document that a compilation gives out has the text that it gives out as text.
-/
theorem formats_agree :
    (∀ lua margin, LuaProgram.ofDocument? (lua.written .json margin) = some lua) ∧
    (∀ files input config output verbose otherOutput otherVerbose,
      (((Request.compile input output .json config verbose).plan files).output?.bind
          LuaProgram.ofDocument?).map LuaProgram.text =
        ((Request.compile input otherOutput .text config otherVerbose).plan files).output?) := by
  refine ⟨LuaProgram.ofDocument?_written, ?_⟩
  intro files input config output verbose otherOutput otherVerbose
  have hjson := compilePlan_output? files input output .json config verbose
  have htext := compilePlan_output?_text files input otherOutput config otherVerbose
  refine Eq.trans ?_ htext.symm
  have hread := congrArg (fun o => (Option.bind o LuaProgram.ofDocument?).map LuaProgram.text) hjson
  refine hread.trans ?_
  cases compiled? files input config with
  | none =>
      rfl
  | some lua =>
      exact congrArg (Option.map LuaProgram.text) (lua.ofDocument?_written .none)

end CommandLine
end MathBlocks
