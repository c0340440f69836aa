import Mathlib.Data.List.TakeWhile
import MathBlocks.Proofs.Compiler.History
import MathBlocks.Proofs.Emit.Lockstep
import MathBlocks.Proofs.Helper.Lines

/-!
# Settings of looks

The indentation inside helpers and the wrapping of bare values change how a program looks and
nothing else. Two passes that differ in the indentation answer every request alike, and their
helpers stay the same behind the margins of the lines. What bare values are wrapped in is added to
codes that are the same in both.
-/

namespace MathBlocks

/-- A line without the spaces and tabs that it begins with. -/
def Text.withoutMargin (line : String) : String :=
  String.ofList (line.toList.dropWhile fun c => c = ' ' || c = '\t')

/-- A helper without the margins of its lines. -/
def Helper.withoutMargins (helper : Helper) : Helper :=
  { helper with lines := helper.lines.map Text.withoutMargin }

namespace Indent

/-- A line that is indented in some style is the same behind its margin. -/
theorem withoutMargin_apply
    (indent : Indent)
    (line : String) :
    Text.withoutMargin (indent.apply line) = Text.withoutMargin line := by
  obtain ⟨blanks, hblanks, happly⟩ := indent.apply_eq line
  have hmargin : ∀ c ∈ blanks.toList, (c = ' ' || c = '\t') = true := by
    simpa [Text.Over] using hblanks
  have hspaces : ∀ c ∈ line.toList.takeWhile (· = ' '), (c = ' ' || c = '\t') = true := by
    intro c hc
    have hspace := List.mem_takeWhile_imp hc
    simp_all
  unfold Text.withoutMargin
  rw [happly, String.toList_append, String.toList_ofList, List.dropWhile_append_of_pos hmargin]
  conv_rhs => rw [← List.takeWhile_append_dropWhile (p := (· = ' ')) (l := line.toList)]
  rw [List.dropWhile_append_of_pos hspaces]

/-- Two spaces a level are what lines are indented by already. -/
theorem apply_two_spaces
    (line : String) :
    (Indent.spaces 2).apply line = line := by
  have hspaces : line.toList.takeWhile (· = ' ') =
      List.replicate (line.toList.takeWhile (· = ' ')).length ' ' :=
    List.eq_replicate_iff.mpr ⟨rfl, fun c hc => by simpa using List.mem_takeWhile_imp hc⟩
  have hlevel : ∀ level, (Text.repeated level (Indent.spaces 2).unit).toList =
      List.replicate (level * 2) ' ' := by
    intro level
    have hunit : (Indent.spaces 2).unit.toList = List.replicate 2 ' ' := by
      decide
    rw [Text.toList_repeated, hunit, List.flatten_replicate_replicate]
  have hone : ∀ count, (Text.repeated count " ").toList = List.replicate count ' ' := by
    intro count
    simp [Text.toList_repeated]
  rw [← String.toList_inj, Indent.apply, String.toList_append, String.toList_append, hlevel, hone,
    ← List.replicate_add, String.toList_ofList, Nat.div_add_mod', ← hspaces,
    List.takeWhile_append_dropWhile]

end Indent

/-- Under two spaces a level, a line of a template is written with the identifier put in. -/
theorem HelperTable.fillLine_two_spaces
    (identifier line : String) :
    fillLine (.spaces 2) identifier line = Text.replaceWord helperPlaceholder identifier line :=
  Indent.apply_two_spaces _

/-- Helpers that are written after one template are the same behind the margins. -/
theorem HelperTable.withoutMargins_written
    (table other : HelperTable)
    (name identifier : String)
    (template : List String) :
    (table.written name identifier template).withoutMargins =
      (other.written name identifier template).withoutMargins := by
  simp [written, Helper.withoutMargins, fillLine, Indent.withoutMargin_apply, Function.comp_def]

section Passes

variable {ν : Type}

/-- Whether two passes have the same names, and the same helpers behind the margins. -/
structure Pass.SameBehindMargins (pass other : Pass ν) : Prop where
  names_eq : pass.names = other.names
  helpers_eq :
    pass.helpers.helpers.map Helper.withoutMargins =
      other.helpers.helpers.map Helper.withoutMargins

namespace Pass.SameBehindMargins

variable {pass other : Pass ν}

/-- A logical name leads to the same helper behind the margins. -/
theorem find?_eq
    (h : pass.SameBehindMargins other)
    (name : String) :
    (pass.helpers.find? name).map Helper.withoutMargins =
      (other.helpers.find? name).map Helper.withoutMargins := by
  have hfind : ∀ table : HelperTable,
      (table.find? name).map Helper.withoutMargins =
        (table.helpers.map Helper.withoutMargins).find? fun helper =>
          helper.logicalName = name := by
    intro table
    rw [List.find?_map]
    rfl
  rw [hfind, hfind, h.helpers_eq]

variable [NameSource ν]

/-- A request for a helper has the same answer in both passes. -/
theorem helper
    (h : pass.SameBehindMargins other)
    (name : String)
    (template : List String) :
    (pass.helper name template).1 = (other.helper name template).1 ∧
    (pass.helper name template).2.SameBehindMargins (other.helper name template).2 := by
  have hsame := h.find?_eq name
  cases hfind : pass.helpers.find? name with
  | some helper =>
      rw [hfind, Option.map_some] at hsame
      obtain ⟨found, hother, hmargins⟩ := Option.map_eq_some_iff.mp hsame.symm
      rw [helper_of_find hfind, helper_of_find hother]
      have hidentifier := congrArg Helper.identifier hmargins
      exact ⟨hidentifier.symm, h⟩
  | none =>
      rw [hfind, Option.map_none] at hsame
      have hother := Option.map_eq_none_iff.mp hsame.symm
      rw [helper_of_new hfind, helper_of_new hother, h.names_eq]
      refine ⟨rfl, rfl, ?_⟩
      rw [List.map_append, List.map_append, h.helpers_eq, List.map_singleton, List.map_singleton,
        pass.helpers.withoutMargins_written other.helpers]

/-- A request for a variable has the same answer in both passes. -/
theorem identify
    (h : pass.SameBehindMargins other)
    (name : String) :
    (pass.identify name).1 = (other.identify name).1 ∧
    (pass.identify name).2.SameBehindMargins (other.identify name).2 := by
  obtain ⟨helpers, names⟩ := pass
  obtain ⟨otherHelpers, otherNames⟩ := other
  obtain ⟨rfl, hhelpers⟩ := h
  exact ⟨rfl, rfl, hhelpers⟩

end Pass.SameBehindMargins

/-- Passes that differ in margins only answer alike, and neither ever gets lost. -/
theorem Pass.sameBehindMargins_lockstep
    [NameSource ν] :
    Pass.Lockstep (fun _ : Pass ν => False) (fun _ => True) Pass.SameBehindMargins where
  helper name template h := Or.inr (h.helper name template)
  identify name _ h := Or.inr (h.identify name)
  lost_helper _ _ := id
  lost_identify _ := id

end Passes

namespace Compiler

/-- The requests for helpers that are made while a program is compiled. -/
def log
    (compiler : Compiler NameDirectory)
    (program : Program) : List Request :=
  logBlocks compiler.customs program.blocks (declared compiler.pass.forget program)

variable {settings other : Settings} {compiler : Compiler NameDirectory} {program : Program}

/-- Settings that keep off the same words let a program start with the same names. -/
theorem sameBehindMargins_declared
    (hwords : settings.reservedWords = other.reservedWords)
    (program : Program) :
    (declared (new settings).pass program).SameBehindMargins
      (declared (new other).pass program) := by
  refine ⟨?_, rfl⟩
  unfold declared new
  rw [hwords]
  rfl

/-- Whatever the margins are, the same codes are written, and the helpers differ in margins only. -/
theorem writeCodes_sameBehindMargins
    (hwords : settings.reservedWords = other.reservedWords)
    (customs : Customs)
    (program : Program) :
    (writeCodes customs program.blocks (declared (new settings).pass program)).1 =
      (writeCodes customs program.blocks (declared (new other).pass program)).1 ∧
    (writeCodes customs program.blocks (declared (new settings).pass program)).2.SameBehindMargins
      (writeCodes customs program.blocks (declared (new other).pass program)).2 := by
  have hknown : ∀ block ∈ program.blocks, block.Identifies customs fun _ => True :=
    fun block _ => block.identifies_true customs
  have halike := Pass.sameBehindMargins_lockstep.writeCodes hknown
    (sameBehindMargins_declared hwords program)
  exact Or.resolve_left halike id

/-- Under two spaces a level, helpers are the templates that were asked for first, filled in. -/
theorem Belongs.lines_of_two_spaces
    (h : compiler.Belongs settings)
    (hindent : settings.indent = .spaces 2)
    {lua : LuaProgram}
    {after : Compiler NameDirectory}
    (hok : compiler.compile program = (.ok lua, after)) :
    ∀ helper ∈ lua.helpers,
      ∃ template,
        (compiler.log program).lookup helper.logicalName = some template ∧
        helper.lines = template.map (Text.replaceWord helperPlaceholder helper.identifier) := by
  intro helper hmem
  obtain ⟨codes, hcodes, hhelpers, _⟩ := h.codes_of_compile hok
  have hserves : (new settings).pass.Serves (compiler.log program) after.pass := by
    have hwrite := writeCodes_serves compiler.customs program.blocks
      (declared (new settings).pass program)
    rw [hcodes] at hwrite
    rw [log, h.forget_eq]
    exact (declared_serves _ program).trans hwrite
  rw [hhelpers] at hmem
  rcases hserves.lines_eq helper hmem with hstart | ⟨template, hlookup, hlines⟩
  · -- a new compiler has no helpers
    exact nomatch hstart
  · refine ⟨template, hlookup, ?_⟩
    have hnew : (new settings).pass.helpers.indent = .spaces 2 := hindent
    rw [hlines, hnew]
    exact List.map_congr_left fun line _ => HelperTable.fillLine_two_spaces _ line

/--
Under settings that keep off the same words, after any calls that register the same writers, a
program is refused for the same fault, or it is compiled to programs that differ in looks only. The
helpers are the same behind the margins of their lines, and the lines are made of the same codes,
in which a value is wrapped as the settings have it. Under two spaces a level the helpers are
written as in the templates that they were asked for with first.
-/
theorem compile_cosmetics
    (first second : Settings)
    (hwords : first.reservedWords = second.reservedWords)
    (calls others : List Call)
    (hcustoms : ((new first).after calls).customs = ((new second).after others).customs)
    (program : Program) :
    let compiler := (new first).after calls
    match (compiler.compile program).1, (((new second).after others).compile program).1 with
    | .ok lua, .ok other =>
        lua.helpers.map Helper.withoutMargins = other.helpers.map Helper.withoutMargins ∧
        (∃ codes,
          (writeCodes compiler.customs program.blocks (declared (new first).pass program)).1 =
            .ok codes ∧
          lua.lines = codes.flatMap (Code.topLines first.wrapBareValues) ∧
          other.lines = codes.flatMap (Code.topLines second.wrapBareValues)) ∧
        (first.indent = .spaces 2 →
          ∀ helper ∈ lua.helpers,
            ∃ template,
              (compiler.log program).lookup helper.logicalName = some template ∧
              helper.lines =
                template.map (Text.replaceWord helperPlaceholder helper.identifier))
    | .error fault, .error other => fault = other
    | _, _ => False := by
  intro compiler
  have hbelongs : compiler.Belongs first := (belongs_new first).after calls
  have hother := (belongs_new second).after others
  obtain ⟨hresult, hpasses⟩ := writeCodes_sameBehindMargins hwords compiler.customs program
  cases hcodes : writeCodes compiler.customs program.blocks
      (declared (new first).pass program) with
  | mk result pass =>
      cases hotherCodes : writeCodes compiler.customs program.blocks
          (declared (new second).pass program) with
      | mk otherResult otherPass =>
          rw [hcodes, hotherCodes] at hresult hpasses
          obtain rfl : result = otherResult := hresult
          have hfirst := hbelongs.compile_eq_codes program
          have hsecond := hother.compile_eq_codes program
          rw [hcodes] at hfirst
          rw [← hcustoms, hotherCodes] at hsecond
          cases result with
          | error fault =>
              rw [hfirst, hsecond]
          | ok codes =>
              have htemplates := fun hindent => hbelongs.lines_of_two_spaces hindent hfirst
              rw [hfirst, hsecond]
              exact ⟨hpasses.helpers_eq, ⟨codes, rfl, rfl, rfl⟩, htemplates⟩

/-- A helper with an odd margin is the same behind it, under two spaces and under tabs. -/
theorem compile_cosmetics_odd :
    let calls := [Call.register "once" CustomKind.helper.writer]
    let body := "function \x7b%FUNCTION_NAME%\x7d()\n   \treturn 1\nend"
    let program : Program := ⟨[.node "once" [("BODY", body), ("NAME", "one")] .empty]⟩
    ∃ lua other,
      (((new .standard).after calls).compile program).1 = .ok lua ∧
      (((new ⟨.tab, [], false⟩).after calls).compile program).1 = .ok other ∧
      lua.helpers.map Helper.lines = [["function one()", "   \treturn 1", "end"]] ∧
      other.helpers.map Helper.lines = [["function one()", "\t \treturn 1", "end"]] ∧
      lua.helpers.map Helper.withoutMargins = other.helpers.map Helper.withoutMargins := by
  intro calls body program
  have hcosmetics := compile_cosmetics .standard ⟨.tab, [], false⟩ rfl calls calls rfl program
  exact ⟨_, _, rfl, rfl, by decide +kernel, by decide +kernel, hcosmetics.1⟩

end Compiler
end MathBlocks
