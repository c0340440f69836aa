import MathBlocks.Proofs.Compiler.ParseBack

/-!
# The helpers of a program

The helpers that a program of math blocks is given are the ones that its blocks ask for, each where
it is asked for first. A helper that calls the sum of a list stands after it and calls it by its
identifier, and so do the calls in the lines of the program.
-/

namespace MathBlocks

open Lua

theorem ListOperator.sumFirst_requests
    (operator : ListOperator) :
    SumFirst operator.requests := by
  cases operator with
  | average =>
      exact .pair
  | standardDeviation =>
      exact .pair
  | _ =>
      exact .single (by decide)

theorem BlockKind.sumFirst_requests
    (block : Block)
    (kind : BlockKind) :
    SumFirst (kind.requests block) := by
  cases kind with
  | numberProperty =>
      simp only [BlockKind.requests]
      split
      · exact .single (by decide)
      · exact .nil
  | onList =>
      simp only [BlockKind.requests]
      split
      · exact ListOperator.sumFirst_requests _
      · exact .nil
  | _ =>
      exact .nil

mutual

/-- A block with its operands asks for the sum before any helper that calls it. -/
theorem Block.sumFirst_requests :
    (block : Block) →
    SumFirst block.requests
  | .node blockType fields inputs => by
      unfold Block.requests
      split
      · exact (SumFirst.flatMap fun slot _ => inputs.sumFirst_requests slot).append
          (BlockKind.sumFirst_requests _ _)
      · exact .nil

theorem Inputs.sumFirst_requests :
    (inputs : Inputs) →
    (slot : String) →
    SumFirst (inputs.requests slot)
  | .empty, _ => .nil
  | .plug slot child rest, wanted => by
      unfold Inputs.requests
      split
      · exact child.sumFirst_requests
      · exact rest.sumFirst_requests wanted

end

/-- The identifier of the helper of a logical name. -/
def LuaProgram.identifier?
    (lua : LuaProgram)
    (name : String) : Option String :=
  (lua.helpers.find? fun helper => helper.logicalName = name).map Helper.identifier

namespace Compiler

section Renders

variable {β : Type} {holds : Naming → List String → β → Prop} {meaning : Naming → Option β}
variable {settings : Settings} {compiler : Compiler NameDirectory} {program : Program}

/-- What is written for the blocks of a program agrees with what is meant by them. -/
theorem Belongs.writeBlocks_agrees
    (h : compiler.Belongs settings)
    (hrenders : ∀ naming : Naming,
      Renders settings.avoided naming (holds naming) (program.blocks.flatMap Block.requests)
        (writeBlocks [] settings.wrapBareValues program.blocks) (meaning naming))
    {result : Except Fault (List String)}
    {pass : Pass NameDirectory}
    (hwrite : writeBlocks [] settings.wrapBareValues program.blocks
      (declared compiler.pass.forget program) = (result, pass)) :
    ∃ log,
      compiler.pass.forget.Serves log pass ∧
      Agrees pass.naming (holds pass.naming) (program.blocks.flatMap Block.requests) log result
        (meaning pass.naming) := by
  have hstart := declared_serves compiler.pass.forget program
  have hpass := hrenders pass.naming _ (hstart.sound h.sound.forget)
  rw [hwrite] at hpass
  obtain ⟨log, hserves, hagrees⟩ := hpass ⟨id, id⟩
  exact ⟨log, hstart.trans hserves, hagrees⟩

/-- A program that is compiled has a meaning, and its lines are those of what is meant. -/
theorem Belongs.compile_renders
    (h : compiler.Belongs settings)
    (hcustoms : compiler.customs = [])
    (hrenders : ∀ naming : Naming,
      Renders settings.avoided naming (holds naming) (program.blocks.flatMap Block.requests)
        (writeBlocks [] settings.wrapBareValues program.blocks) (meaning naming))
    {lua : LuaProgram}
    {after : Compiler NameDirectory}
    (hok : compiler.compile program = (.ok lua, after)) :
    ∃ log meant,
      compiler.pass.forget.Serves log after.pass ∧
      after.pass.naming.Logs (program.blocks.flatMap Block.requests) log ∧
      lua.helpers = after.pass.helpers.helpers ∧
      meaning after.pass.naming = some meant ∧
      holds after.pass.naming lua.lines meant := by
  cases hwrite : writeBlocks compiler.customs compiler.settings.wrapBareValues program.blocks
      (declared compiler.pass.forget program) with
  | mk result pass =>
      cases result with
      | error fault =>
          rw [compile_of_error hwrite] at hok
          cases hok
      | ok lines =>
          rw [compile_of_ok hwrite] at hok
          cases hok
          rw [hcustoms, h.settings_eq] at hwrite
          obtain ⟨log, hserves, hagrees⟩ := h.writeBlocks_agrees hrenders hwrite
          cases hmeaning : meaning pass.naming with
          | none =>
              rw [hmeaning] at hagrees
              exact hagrees.elim
          | some meant =>
              rw [hmeaning] at hagrees
              exact ⟨log, meant, hserves, hagrees.2, rfl, rfl, hagrees.1⟩

/-- A program that is refused has no meaning. -/
theorem Belongs.compile_renders_error
    (h : compiler.Belongs settings)
    (hcustoms : compiler.customs = [])
    (hrenders : ∀ naming : Naming,
      Renders settings.avoided naming (holds naming) (program.blocks.flatMap Block.requests)
        (writeBlocks [] settings.wrapBareValues program.blocks) (meaning naming))
    {fault : Fault}
    (hfault : (compiler.compile program).1 = .error fault) :
    ∃ naming, meaning naming = none := by
  cases hwrite : writeBlocks compiler.customs compiler.settings.wrapBareValues program.blocks
      (declared compiler.pass.forget program) with
  | mk result pass =>
      cases result with
      | ok lines =>
          rw [compile_of_ok hwrite] at hfault
          cases hfault
      | error other =>
          rw [hcustoms, h.settings_eq] at hwrite
          obtain ⟨log, _, hagrees⟩ := h.writeBlocks_agrees hrenders hwrite
          cases hmeaning : meaning pass.naming with
          | none =>
              exact ⟨pass.naming, hmeaning⟩
          | some meant =>
              rw [hmeaning] at hagrees
              exact hagrees.elim

end Renders

/-- A program of math blocks is compiled to the lines of what its blocks stand for. -/
theorem Belongs.compile_math
    {settings : Settings}
    {compiler : Compiler NameDirectory}
    (h : compiler.Belongs settings)
    (hcustoms : compiler.customs = [])
    {program : Program}
    {lua : LuaProgram}
    {after : Compiler NameDirectory}
    (hok : compiler.compile program = (.ok lua, after)) :
    ∃ log meanings,
      compiler.pass.forget.Serves log after.pass ∧
      after.pass.naming.Logs (program.blocks.flatMap Block.requests) log ∧
      lua.helpers = after.pass.helpers.helpers ∧
      program.blocks.mapM (Block.meaning after.pass.naming) = some meanings ∧
      PresentsAll settings.wrapBareValues lua.lines meanings :=
  h.compile_renders hcustoms
    (fun _ => writeBlocks_renders settings.keywords_avoided settings.wrapBareValues program.blocks)
    hok

theorem identifier?_eq
    {lua : LuaProgram}
    {after : Compiler NameDirectory}
    (h : lua.helpers = after.pass.helpers.helpers)
    (name : String) :
    lua.identifier? name = after.pass.naming.ofHelper name := by
  unfold LuaProgram.identifier?
  rw [h]
  rfl

/-- The helpers stand in the order in which their names are asked for first. -/
theorem logicalNames_eq
    {pass : Pass NameDirectory}
    {after : Compiler NameDirectory}
    {log : List Request}
    {requests : List String}
    {lua : LuaProgram}
    (hserves : pass.forget.Serves log after.pass)
    (hlogs : after.pass.naming.Logs requests log)
    (hhelpers : lua.helpers = after.pass.helpers.helpers) :
    lua.helpers.map Helper.logicalName = requests.eraseDups := by
  rw [hhelpers, hserves.logicalNames rfl, hlogs.names]

/-- The helpers that the blocks of a program ask for have the sum before those that call it. -/
theorem sumFirst_requests
    (program : Program) :
    SumFirst (program.blocks.flatMap Block.requests).eraseDups :=
  (SumFirst.flatMap fun block _ => block.sumFirst_requests).eraseDups

end Compiler

/-- The line in which a helper calls the sum, one level deep. -/
def MathHelper.sumLine
    (name sum : String) : String :=
  (if name = MathHelper.averageName then "return " else "m = #t == 0 and 0 or ") ++ sum ++
    "(t) / #t"

theorem MathHelper.sumLine_mem_template
    {name sum : String}
    {template : List String}
    (hname : MathHelper.CallsSum name)
    (htemplate : MathHelper.template? sum name = some template) :
    "  " ++ MathHelper.sumLine name sum ∈ template := by
  rcases hname with rfl | rfl
  · have haverage : MathHelper.average sum = template := Option.some.inj htemplate
    have hline : "  " ++ MathHelper.sumLine MathHelper.averageName sum =
        "  return " ++ sum ++ "(t) / #t" := by
      simp [MathHelper.sumLine, ← String.toList_inj]
    rw [← haverage, hline]
    simp [MathHelper.average, MathHelper.function]
  · have hdeviation : MathHelper.standardDeviation sum = template := Option.some.inj htemplate
    have hne : MathHelper.standardDeviationName ≠ MathHelper.averageName := by
      decide
    have hline : "  " ++ MathHelper.sumLine MathHelper.standardDeviationName sum =
        "  m = #t == 0 and 0 or " ++ sum ++ "(t) / #t" := by
      simp [MathHelper.sumLine, hne, ← String.toList_inj]
    rw [← hdeviation, hline]
    simp [MathHelper.standardDeviation, MathHelper.function]

/-- The line that calls the sum is indented by one unit and holds no place for an identifier. -/
theorem MathHelper.fillLine_sumLine
    {sum : String}
    (hsum : Identifier.IsIdentifier sum.toList)
    (indent : Indent)
    (identifier name : String) :
    HelperTable.fillLine indent identifier ("  " ++ MathHelper.sumLine name sum) =
      indent.unit ++ MathHelper.sumLine name sum := by
  -- an identifier holds no brace, so the line holds no placeholder
  have hplace : '\x7b' ∉ sum.toList := hsum.not_mem (by decide)
  refine HelperTable.fillLine_level indent identifier ?_ ?_
  · unfold MathHelper.sumLine
    split <;> simp
  · unfold MathHelper.sumLine
    split <;> simpa using hplace

/-- The helper that stands first under a logical name is found by it in the whole list. -/
theorem LuaProgram.identifier?_of_mem
    {lua : LuaProgram}
    {before rest : List Helper}
    {name : String}
    (hsplit : lua.helpers = before ++ rest)
    (hname : name ∈ before.map Helper.logicalName) :
    ∃ helper ∈ before,
      helper.logicalName = name ∧
      lua.identifier? name = some helper.identifier := by
  have hsome : (before.find? fun helper => helper.logicalName = name).isSome = true := by
    simpa [List.find?_isSome] using hname
  obtain ⟨helper, hfind⟩ := Option.isSome_iff_exists.mp hsome
  refine ⟨helper, List.mem_of_find?_eq_some hfind, by simpa using List.find?_some hfind, ?_⟩
  unfold LuaProgram.identifier?
  rw [hsplit, List.find?_append, hfind]
  rfl

/-- The template of a helper in a program, with the sum of a list as it stands there. -/
def LuaProgram.template?
    (lua : LuaProgram)
    (name : String) : Option (List String) :=
  MathHelper.template? ((lua.identifier? MathHelper.sumName).getD "") name

/-- Whether every helper is written after its template, under the identifier that it has. -/
def LuaProgram.Written
    (settings : Settings)
    (lua : LuaProgram) : Prop :=
  ∀ helper ∈ lua.helpers,
    ∃ template,
      lua.template? helper.logicalName = some template ∧
      helper.lines = template.map (HelperTable.fillLine settings.indent helper.identifier)

/-- Whether the sum stands before each helper that calls it, and is called by its identifier. -/
def LuaProgram.CallsSumBefore
    (settings : Settings)
    (lua : LuaProgram) : Prop :=
  ∀ before helper rest,
    lua.helpers = before ++ helper :: rest →
    MathHelper.CallsSum helper.logicalName →
    ∃ sum ∈ before,
      sum.logicalName = MathHelper.sumName ∧
      settings.indent.unit ++ MathHelper.sumLine helper.logicalName sum.identifier ∈ helper.lines

/-- In helpers that are written after their templates, the sum is called where it stands first. -/
theorem LuaProgram.Written.callsSumBefore
    {settings : Settings}
    {lua : LuaProgram}
    (h : lua.Written settings)
    (hidentifiers : ∀ helper ∈ lua.helpers, Identifier.IsIdentifier helper.identifier.toList)
    (hfirst : SumFirst (lua.helpers.map Helper.logicalName)) :
    lua.CallsSumBefore settings := by
  intro before helper rest hsplit hcalls
  have hmem : helper ∈ lua.helpers := by
    rw [hsplit]
    simp
  have hsum := hfirst (before.map Helper.logicalName) helper.logicalName
    (rest.map Helper.logicalName) (by simp [hsplit]) hcalls
  obtain ⟨sum, hbefore, hname, hidentifier⟩ := LuaProgram.identifier?_of_mem hsplit hsum
  obtain ⟨template, htemplate, hlines⟩ := h helper hmem
  -- the template was filled in with the identifier of the sum that is found before the helper
  rw [LuaProgram.template?, hidentifier] at htemplate
  have hline := MathHelper.sumLine_mem_template hcalls htemplate
  have hproper : Identifier.IsIdentifier sum.identifier.toList := by
    refine hidentifiers sum ?_
    rw [hsplit]
    exact List.mem_append_left _ hbefore
  refine ⟨sum, hbefore, hname, ?_⟩
  rw [hlines, ← MathHelper.fillLine_sumLine hproper settings.indent helper.identifier]
  exact List.mem_map_of_mem hline

namespace Compiler

/-- The helpers of a program of math blocks are written after their templates. -/
theorem Belongs.written
    {settings : Settings}
    {compiler after : Compiler NameDirectory}
    (h : compiler.Belongs settings)
    {requests : List String}
    {log : List Request}
    {lua : LuaProgram}
    (hserves : compiler.pass.forget.Serves log after.pass)
    (hlogs : after.pass.naming.Logs requests log)
    (hhelpers : lua.helpers = after.pass.helpers.helpers) :
    lua.Written settings := by
  intro helper hmem
  rw [hhelpers] at hmem
  rcases hserves.lines_eq helper hmem with hstart | ⟨template, hlookup, hlines⟩
  · -- the pass starts without helpers
    exact nomatch hstart
  · have hlog : (helper.logicalName, template) ∈ log := by
      obtain ⟨earlier, others, rfl, _⟩ := List.lookup_eq_some_iff.mp hlookup
      simp
    refine ⟨template, ?_, ?_⟩
    · rw [LuaProgram.template?, identifier?_eq hhelpers]
      exact hlogs.templates _ hlog
    · rw [hlines]
      exact congrArg (fun indent => template.map (HelperTable.fillLine indent helper.identifier))
        h.indent_eq

/--
After any calls that register no writers, a program is compiled with the helpers that its blocks
ask for, each once, where it is asked for first and written after its template. The sum stands
before the helpers that call it, and every call in the lines is that of the helper asked for.
-/
theorem helpers_exact
    (settings : Settings)
    (calls : List Call)
    (hcustoms : ((new settings).after calls).customs = [])
    (program : Program)
    (lua : LuaProgram)
    (after : Compiler NameDirectory)
    (hok : ((new settings).after calls).compile program = (.ok lua, after)) :
    (lua.helpers.map Helper.logicalName = (program.blocks.flatMap Block.requests).eraseDups) ∧
    (lua.helpers.map Helper.logicalName).Nodup ∧
    lua.Written settings ∧
    lua.CallsSumBefore settings ∧
    (∀ name, after.pass.naming.ofHelper name = lua.identifier? name) ∧
    (∃ meanings codes,
      program.blocks.mapM (Block.meaning after.pass.naming) = some meanings ∧
      List.Forall₂ Code.ReadsAs codes meanings ∧
      lua.lines = codes.flatMap (Code.topLines settings.wrapBareValues)) := by
  have hbelongs := (belongs_new settings).after calls
  obtain ⟨log, meanings, hserves, hlogs, hhelpers, hmeanings, hpresents⟩ :=
    hbelongs.compile_math hcustoms hok
  have hnames : lua.helpers.map Helper.logicalName =
      (program.blocks.flatMap Block.requests).eraseDups := by
    rw [hhelpers, hserves.logicalNames rfl, hlogs.names]
  have hfirst : SumFirst (lua.helpers.map Helper.logicalName) := by
    rw [hnames]
    exact (SumFirst.flatMap fun block _ => block.sumFirst_requests).eraseDups
  have hwritten := hbelongs.written hserves hlogs hhelpers
  have hsound := hserves.sound hbelongs.sound.forget
  have hidentifiers : ∀ helper ∈ lua.helpers,
      Identifier.IsIdentifier helper.identifier.toList := by
    rw [hhelpers]
    exact fun helper hmem => (hsound.helpers helper hmem).1
  obtain ⟨codes, hcodes, hlines⟩ := hpresents.readsAs
  refine ⟨hnames, ?_, hwritten, hwritten.callsSumBefore hidentifiers hfirst, ?_, ?_⟩
  · rw [hnames]
    exact nodup_eraseDups _
  · exact fun name => (identifier?_eq hhelpers name).symm
  · exact ⟨meanings, codes, hmeanings, hcodes, hlines⟩

/-- Two means of nothing come with the sum and the mean, each once. -/
theorem helpers_exact_average :
    let average := Block.node "math_on_list" [("OP", "AVERAGE")] .empty
    ((new .standard).compile ⟨[average, average]⟩).2.helpers.map Helper.logicalName =
      [MathHelper.sumName, MathHelper.averageName] := by
  intro average
  have hnames := (helpers_exact .standard [] rfl ⟨[average, average]⟩ _ _ rfl).1
  exact hnames.trans (by decide)

end Compiler
end MathBlocks
