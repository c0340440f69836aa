import MathBlocks.Proofs.Compiler.HelperSection
import MathBlocks.Proofs.Emit.Apart
import MathBlocks.Proofs.Emit.Ending
import MathBlocks.Proofs.Helper.Lines
import MathBlocks.Proofs.Lua.Harmless
import MathBlocks.Proofs.Lua.Layout

/-!
# No text gets out of its line

Whatever texts are in the fields of math blocks and in the settings, each block at the top level is
written as one line that is printable, begins no comment and closes all brackets that it opens. The
helpers are printable behind their indentation. So the lines of the text are the lines that were
written, and it is known how many there are.
-/

namespace MathBlocks

open Lua

/-- What a statement assigns to is the identifier of a variable. -/
theorem Block.ofVariable_of_assignment
    {naming : Naming}
    {block : Block}
    {identifier : String}
    {tree : Expr}
    (h : block.meaning naming = some (.assignment identifier tree)) :
    ∃ name, naming.ofVariable name = some identifier := by
  obtain ⟨blockType, fields, inputs⟩ := block
  rw [Block.meaning] at h
  obtain ⟨kind, _, hkind⟩ := Option.bind_eq_some_iff.mp h
  cases kind with
  | change =>
      simp only [BlockKind.meaning, Option.bind_eq_bind, Option.bind_eq_some_iff] at hkind
      obtain ⟨name, _, delta, _, found, hfound, hmeaning⟩ := hkind
      cases hmeaning
      exact ⟨name, hfound⟩
  | _ =>
      simp [BlockKind.meaning, Option.bind_eq_some_iff] at hkind

/-- Passes hand out printable identifiers as long as they are sound. -/
theorem Pass.names_printable
    (reserved : List String) :
    Pass.Names (fun c => Text.isPrintable c = true) (Pass.Sound reserved) where
  helper name template _ hpass :=
    ⟨(hpass.helper name template).1.1.printable, (hpass.helper name template).2⟩
  identify name _ hpass :=
    ⟨(hpass.identify name).1.1.printable, (hpass.identify name).2⟩

/-- Whether a line is what a block is written as at the top level. -/
def Block.WrittenAs
    (naming : Naming)
    (wrapBareValues : Bool)
    (block : Block)
    (line : String) : Prop :=
  ∃ (code : Code) (meaning : Meaning),
    block.meaning naming = some meaning ∧
    code.ReadsAs meaning ∧
    code.topLines wrapBareValues = [line]

/-- A block is written as one line. -/
theorem Code.ReadsAs.topLines
    {code : Code}
    {meaning : Meaning}
    (h : code.ReadsAs meaning)
    (wrapBareValues : Bool) :
    ∃ line, code.topLines wrapBareValues = [line] := by
  cases code with
  | value v =>
      exact ⟨_, rfl⟩
  | statement lines =>
      cases meaning with
      | value tree =>
          exact h.elim
      | assignment identifier tree =>
          obtain ⟨code, rfl, _⟩ := h
          exact ⟨_, rfl⟩

/-- A printable line that a block is written as is harmless. -/
theorem Block.WrittenAs.harmless
    {reserved : List String}
    {pass : Pass NameDirectory}
    (hsound : pass.Sound reserved)
    {wrapBareValues : Bool}
    {block : Block}
    {line : String}
    (h : block.WrittenAs pass.naming wrapBareValues line)
    (hprintable : Text.Printable line) :
    Text.Harmless line := by
  obtain ⟨code, meaning, hmeaning, hreads, hline⟩ := h
  cases code with
  | value v =>
      cases meaning with
      | assignment identifier tree =>
          exact hreads.elim
      | value tree =>
          obtain ⟨parsed, hparses, _⟩ := hreads
          obtain rfl := List.singleton_inj.mp hline
          have hnothing : Text.Inert "" := by
            decide
          have hassignment : Text.Inert "local _ = " := by
            decide
          split
          · rename_i hwrap
            rw [if_pos hwrap] at hprintable
            exact hassignment.harmless hparses hprintable
          · rename_i hwrap
            rw [if_neg hwrap] at hprintable
            simpa using hnothing.harmless hparses (by simpa using hprintable)
  | statement lines =>
      cases meaning with
      | value tree =>
          exact hreads.elim
      | assignment identifier tree =>
          obtain ⟨code, rfl, parsed, hparses, _⟩ := hreads
          obtain rfl := List.singleton_inj.mp hline
          obtain ⟨name, hname⟩ := Block.ofVariable_of_assignment hmeaning
          have hlabel : pass.ofLabel? (.ofVariable (Text.lower name)) = some identifier := hname
          have hsign : Text.Inert " = " := by
            decide
          have hfront : Text.Inert (identifier ++ " = ") :=
            (Text.inert_append _ _).mpr ⟨(hsound.ofLabel? hlabel).1.inert, hsign⟩
          exact hfront.harmless hparses hprintable

/-- What presents the meanings of blocks has one line for each of them, in their order. -/
theorem PresentsAll.writtenAs
    {naming : Naming}
    {wrapBareValues : Bool}
    {blocks : List Block}
    {lines : List String}
    {meanings : List Meaning}
    (h : PresentsAll wrapBareValues lines meanings)
    (hmeanings : blocks.mapM (Block.meaning naming) = some meanings) :
    List.Forall₂ (Block.WrittenAs naming wrapBareValues) blocks lines := by
  obtain ⟨codes, hcodes, rfl⟩ := h.readsAs
  have hblocks := forall₂_of_mapM hmeanings
  clear hmeanings h
  induction hcodes generalizing blocks with
  | nil =>
      cases hblocks
      exact .nil
  | @cons code meaning codes meanings hreads _ ih =>
      obtain ⟨line, hline⟩ := hreads.topLines wrapBareValues
      cases hblocks with
      | cons hmeaning hrest =>
          rw [List.flatMap_cons, hline]
          exact .cons ⟨code, meaning, hmeaning, hreads, hline⟩ (ih hrest)

namespace Compiler

/-- The lines of a program of math blocks are printable. -/
theorem Belongs.printable_lines
    {settings : Settings}
    {compiler after : Compiler NameDirectory}
    (h : compiler.Belongs settings)
    (hcustoms : compiler.customs = [])
    {program : Program}
    {lua : LuaProgram}
    (hok : compiler.compile program = (.ok lua, after)) :
    ∀ line ∈ lua.lines, Text.Printable line := by
  have hstart := (declared_serves compiler.pass.forget program).sound h.sound.forget
  have hends := writeBlocks_ends (fun _ hc => hc) (Pass.names_printable settings.avoided)
    compiler.settings.wrapBareValues program.blocks _ hstart
  rw [← hcustoms] at hends
  cases hwrite : writeBlocks compiler.customs compiler.settings.wrapBareValues program.blocks
      (declared compiler.pass.forget program) with
  | mk result pass =>
      rw [hwrite] at hends
      cases result with
      | error fault =>
          rw [compile_of_error hwrite] at hok
          cases hok
      | ok lines =>
          rw [compile_of_ok hwrite] at hok
          cases hok
          exact hends.result_holds lines rfl

end Compiler

/-- Helpers that are written after their templates have lines, printable behind their margins. -/
theorem LuaProgram.Written.printable
    {settings : Settings}
    {lua : LuaProgram}
    (h : lua.Written settings)
    (hidentifiers : ∀ helper ∈ lua.helpers, Identifier.IsIdentifier helper.identifier.toList) :
    ∀ helper ∈ lua.helpers,
      helper.lines ≠ [] ∧ ∀ line ∈ helper.lines, Text.PrintableBehindMargin line := by
  have hsum : Text.Printable ((lua.identifier? MathHelper.sumName).getD "") := by
    cases hfound : lua.identifier? MathHelper.sumName with
    | none =>
        exact fun _ hc => nomatch hc
    | some identifier =>
        obtain ⟨helper, hfind, rfl⟩ := Option.map_eq_some_iff.mp hfound
        exact (hidentifiers helper (List.mem_of_find?_eq_some hfind)).printable
  intro helper hmem
  obtain ⟨template, htemplate, hlines⟩ := h helper hmem
  obtain ⟨hne, hprintable⟩ := MathHelper.printable_template? hsum htemplate
  rw [hlines]
  refine ⟨by simpa using hne, ?_⟩
  intro line hline
  obtain ⟨written, hwritten, rfl⟩ := List.mem_map.mp hline
  exact HelperTable.fillLine_printable _ (hidentifiers helper hmem).printable
    (hprintable written hwritten)

namespace Compiler

/--
After any calls that register no writers, a program is compiled to one line for each of its blocks,
in their order, and no text in it gets out of its line: the lines are printable, begin no comment
and have matching brackets. The lines of helpers are printable behind spaces and tabs. The text of
the program has these lines, and no others but the empty ones around helpers.
-/
theorem lines_harmless
    (settings : Settings)
    (calls : List Call)
    (hcustoms : ((new settings).after calls).customs = [])
    (program : Program)
    (lua : LuaProgram)
    (after : Compiler NameDirectory)
    (hok : ((new settings).after calls).compile program = (.ok lua, after)) :
    List.Forall₂ (Block.WrittenAs after.pass.naming settings.wrapBareValues)
      program.blocks lua.lines ∧
    (∀ line ∈ lua.lines,
      Text.Harmless line ∧
      Text.Matched '(' ')' line.toList ∧
      Text.Matched '\x7b' '\x7d' line.toList) ∧
    (∀ helper ∈ lua.helpers, ∀ line ∈ helper.lines, Text.PrintableBehindMargin line) ∧
    (∃ lines,
      lua.text = Text.endLines lines ∧
      (∀ line ∈ lines, '\n' ∉ line.toList) ∧
      lines.length =
        if lua.helpers.isEmpty then
          program.blocks.length
        else
          (lua.helpers.flatMap Helper.lines).length + (lua.helpers.length - 1) + 2 +
            program.blocks.length) := by
  have hbelongs := (belongs_new settings).after calls
  obtain ⟨log, meanings, hserves, hlogs, hhelpers, hmeanings, hpresents⟩ :=
    hbelongs.compile_math hcustoms hok
  have hsound := hserves.sound hbelongs.sound.forget
  have hidentifiers : ∀ helper ∈ lua.helpers,
      Identifier.IsIdentifier helper.identifier.toList := by
    rw [hhelpers]
    exact fun helper hmem => (hsound.helpers helper hmem).1
  have hblocks := hpresents.writtenAs hmeanings
  have hprintable := hbelongs.printable_lines hcustoms hok
  have hwritten := (hbelongs.written hserves hlogs hhelpers).printable hidentifiers
  have hharmless : ∀ line ∈ lua.lines, Text.Harmless line := by
    intro line hline
    obtain ⟨i, hi, rfl⟩ := List.mem_iff_getElem.mp hline
    have hblock := hblocks.get (by rwa [hblocks.length_eq]) hi
    exact hblock.harmless hsound (hprintable _ hline)
  refine ⟨hblocks, ?_, ?_, lua.textLines, ?_, ?_, ?_⟩
  · intro line hline
    have h := hharmless line hline
    exact ⟨h, h.balanced.matched rfl, h.balanced.matched rfl⟩
  · exact fun helper hmem => (hwritten helper hmem).2
  · exact LuaProgram.text_eq_endLines fun helper hmem => (hwritten helper hmem).1
  · intro line hline
    rcases LuaProgram.mem_textLines hline with rfl | ⟨helper, hmem, hline⟩ | hline
    · exact fun hmem => nomatch hmem
    · exact ((hwritten helper hmem).2 line hline).not_lineFeed
    · exact (hharmless line hline).printable.not_lineFeed
  · rw [LuaProgram.length_textLines, hblocks.length_eq]

/-- A name that would end the line, close a parenthesis and begin a comment. -/
theorem lines_harmless_name :
    let program : Program := ⟨[.node "math_change" [("VAR", "x\n)--")] .empty]⟩
    ((new .standard).compile program).1 = .ok ⟨[], ["x____ = x____ + 0"]⟩ ∧
    Text.Harmless "x____ = x____ + 0" := by
  intro program
  have hok : ((new .standard).compile program).1 = .ok ⟨[], ["x____ = x____ + 0"]⟩ := by
    decide +kernel
  have hharmless := (lines_harmless .standard [] rfl program ⟨[], ["x____ = x____ + 0"]⟩
    ((new .standard).compile program).2 (Prod.ext hok rfl)).2.1
  exact ⟨hok, (hharmless _ List.mem_cons_self).1⟩

end Compiler
end MathBlocks
