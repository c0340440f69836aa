import MathBlocks.Proofs.Compiler.Faults
import MathBlocks.Proofs.Compiler.HelperSection
import MathBlocks.Proofs.Emit.Apart
import MathBlocks.Proofs.Emit.Outlines
import MathBlocks.Proofs.Helper.Places

/-!
# Words to keep off only rename

The outline of a program depends on its blocks, on the indentation and on whether bare values are
made statements. Whatever words a compiler has to keep off besides, and whatever it has done before,
a program of math blocks is compiled to its outline, with one identifier for each label in it, or
refused for the same fault.
-/

namespace MathBlocks

open Lua

namespace MathHelper

/-- What stands before the sum in the line that calls it. -/
def sumOpening (name : String) : String :=
  if name = averageName then "return " else "m = #t == 0 and 0 or "

/-- A line of the template of a helper, with the call of the sum put in where it goes. -/
def withSum
    (name sum line : String) : String :=
  if CallsSum name ∧ line = "  " ++ sumLine name "" then "  " ++ sumLine name sum else line

/-- Nothing is put into the lines of a helper that does not call the sum. -/
theorem map_withSum_of_not_callsSum
    {name : String}
    (h : ¬ CallsSum name)
    (sum : String)
    (lines : List String) :
    lines.map (withSum name sum) = lines := by
  have hline : withSum name sum = id := by
    funext line
    simp [withSum, h]
  rw [hline, List.map_id]

theorem average_eq
    (sum : String) :
    average sum = (average "").map (withSum averageName sum) := by
  have hcalls : CallsSum averageName := by
    decide
  simp [average, function, withSum, hcalls, sumLine, helperPlaceholder, ← String.toList_inj]

theorem standardDeviation_eq
    (sum : String) :
    standardDeviation sum = (standardDeviation "").map (withSum standardDeviationName sum) := by
  have hcalls : CallsSum standardDeviationName := by
    decide
  have hne : standardDeviationName ≠ averageName := by
    decide
  simp [standardDeviation, function, withSum, hcalls, hne, sumLine, helperPlaceholder,
    ← String.toList_inj]

/-- A template is the one without an identifier for the sum, with the call of the sum put in. -/
theorem template?_eq
    (sum name : String) :
    template? sum name = (template? "" name).map (List.map (withSum name sum)) := by
  by_cases hcalls : CallsSum name
  · rcases hcalls with rfl | rfl
    · exact congrArg some (average_eq sum)
    · exact congrArg some (standardDeviation_eq sum)
  · have hsame : template? sum name = template? "" name := by
      have haverage : name ≠ averageName := fun h => hcalls (Or.inl h)
      have hdeviation : name ≠ standardDeviationName := fun h => hcalls (Or.inr h)
      simp only [template?, haverage, hdeviation, if_false]
    rw [hsame]
    cases template? "" name with
    | none =>
        rfl
    | some lines =>
        exact congrArg some (map_withSum_of_not_callsSum hcalls sum lines).symm

/-- The outline of a line of the template of a helper. -/
def lineOutline
    (indent : Indent)
    (name line : String) : Outline :=
  if CallsSum name ∧ line = "  " ++ sumLine name "" then
    [.text (indent.unit ++ sumOpening name), .place (.ofHelper sumName), .text "(t) / #t"]
  else
    Outline.ofLine indent (.ofHelper name) line

/-- A line of a helper is written after its outline, if the sum is there for those that call it. -/
theorem lineOutline_fills
    {naming : Naming}
    {name identifier sum : String}
    (hname : naming.ofHelper name = some identifier)
    (hproper : Identifier.IsIdentifier identifier.toList)
    (hsum : CallsSum name →
      naming.ofHelper sumName = some sum ∧ Identifier.IsIdentifier sum.toList)
    (indent : Indent)
    (line : String) :
    naming.Fills (HelperTable.fillLine indent identifier (withSum name sum line))
      (lineOutline indent name line) := by
  unfold withSum lineOutline
  split
  · rename_i h
    obtain ⟨hsumName, hsumProper⟩ := hsum h.1
    rw [fillLine_sumLine hsumProper indent identifier name]
    have hline : indent.unit ++ sumLine name sum =
        (indent.unit ++ sumOpening name) ++ (sum ++ "(t) / #t") := by
      rw [sumLine, String.append_assoc, String.append_assoc]
      rfl
    rw [hline]
    exact .text _ (.place hsumName hsumProper (.ofText _))
  · have hlabel : naming.Gives (.ofHelper name) identifier := hname
    exact .ofLine hlabel hproper indent line

end MathHelper

/-- The outline of a helper. -/
structure HelperOutline where
  logicalName : String
  lines : List Outline
  deriving DecidableEq, Repr

/-- The outline of a program. -/
structure ProgramOutline where
  helpers : List HelperOutline
  lines : List Outline
  deriving DecidableEq, Repr

namespace HelperOutline

/-- The outline of the helper of a logical name. -/
def ofName
    (indent : Indent)
    (name : String) : HelperOutline where
  logicalName := name
  lines := ((MathHelper.template? "" name).getD []).map (MathHelper.lineOutline indent name)

/-- The labels of the places in a helper; its own identifier is one of them. -/
def labels (helper : HelperOutline) : List Label :=
  .ofHelper helper.logicalName :: helper.lines.flatMap Outline.labels

/-- A helper with the identifiers of the labels in their places. -/
def filled
    (assign : Label → String)
    (helper : HelperOutline) : Helper where
  logicalName := helper.logicalName
  identifier := assign (.ofHelper helper.logicalName)
  lines := helper.lines.map (Outline.filled assign)

end HelperOutline

namespace ProgramOutline

/-- The labels of all places in a program. -/
def labels (outline : ProgramOutline) : List Label :=
  outline.helpers.flatMap HelperOutline.labels ++ outline.lines.flatMap Outline.labels

/-- A program with the identifiers of the labels in their places. -/
def filled
    (assign : Label → String)
    (outline : ProgramOutline) : LuaProgram where
  helpers := outline.helpers.map (HelperOutline.filled assign)
  lines := outline.lines.map (Outline.filled assign)

end ProgramOutline

/-- The outline of a program, unless it is one that is refused. -/
def Program.outline?
    (indent : Indent)
    (wrapBareValues : Bool)
    (program : Program) : Option ProgramOutline := do
  let codes ← program.blocks.mapM Block.outline
  return {
    helpers :=
      (program.blocks.flatMap Block.requests).eraseDups.map (HelperOutline.ofName indent)
    lines := codes.flatMap (CodeOutline.topLines wrapBareValues) }

/-- The identifier of a label in a pass that has given it one. -/
def Pass.assign
    (pass : Pass NameDirectory)
    (label : Label) : String :=
  (pass.ofLabel? label).getD ""

/-- Whether a pass has given identifiers to all of these labels. -/
def Pass.Covers
    (pass : Pass NameDirectory)
    (labels : List Label) : Prop :=
  ∀ label ∈ labels, ∃ identifier, pass.ofLabel? label = some identifier

/-- A text that is written after an outline is the outline filled in by the pass. -/
theorem Naming.Fills.eq_filled
    {pass : Pass NameDirectory}
    {code : String}
    {outline : Outline}
    (h : pass.naming.Fills code outline) :
    code = outline.filled pass.assign ∧ pass.Covers outline.labels := by
  induction h with
  | nil =>
      exact ⟨rfl, fun _ hmem => nomatch hmem⟩
  | text text _ ih =>
      obtain ⟨hcode, hcovers⟩ := ih
      exact ⟨by rw [Outline.filled_cons, ← hcode]; rfl, hcovers⟩
  | @place label identifier written rest hlabel _ _ ih =>
      obtain ⟨hcode, hcovers⟩ := ih
      have hfound := Pass.ofLabel?_of_gives hlabel
      have hassign : pass.assign label = identifier := by
        rw [Pass.assign, hfound]
        rfl
      refine ⟨by rw [Outline.filled_cons, ← hcode, Piece.filled, hassign], ?_⟩
      exact List.forall_mem_cons.mpr ⟨⟨identifier, hfound⟩, hcovers⟩

/-- Lines that are written after outlines are these, filled in by the pass. -/
theorem Naming.Fills.lines_eq_filled
    {pass : Pass NameDirectory}
    {lines : List String}
    {outlines : List Outline}
    (h : List.Forall₂ pass.naming.Fills lines outlines) :
    lines = outlines.map (Outline.filled pass.assign) ∧
    pass.Covers (outlines.flatMap Outline.labels) := by
  induction h with
  | nil =>
      exact ⟨rfl, fun _ hmem => nomatch hmem⟩
  | cons hline _ ih =>
      obtain ⟨hcode, hcovers⟩ := hline.eq_filled
      refine ⟨by rw [List.map_cons, ← hcode, ← ih.1], ?_⟩
      rw [List.flatMap_cons]
      exact List.forall_mem_append.mpr ⟨hcovers, ih.2⟩

/-- A helper is found by its logical name, if no two of a pass have one. -/
theorem Pass.identifier?_of_mem
    {pass : Pass NameDirectory}
    (hnodup : (pass.helpers.helpers.map Helper.logicalName).Nodup)
    {helper : Helper}
    (hmem : helper ∈ pass.helpers.helpers) :
    pass.helpers.identifier? helper.logicalName = some helper.identifier := by
  have hsome := (HelperTable.find?_isSome pass.helpers helper.logicalName).mpr
    (List.mem_map_of_mem hmem)
  obtain ⟨found, hfind⟩ := Option.isSome_iff_exists.mp hsome
  have hname : found.logicalName = helper.logicalName := by
    simpa using List.find?_some hfind
  have hsame := List.inj_on_of_nodup_map hnodup (List.mem_of_find?_eq_some hfind) hmem hname
  rw [HelperTable.identifier?, hfind, hsame]
  rfl

namespace Compiler

variable {settings : Settings} {compiler after : Compiler NameDirectory}
variable {program : Program} {lua : LuaProgram}

/-- The lines of a helper are written after their outlines. -/
theorem Belongs.helper_fills
    (h : compiler.Belongs settings)
    {log : List Request}
    (hserves : compiler.pass.forget.Serves log after.pass)
    (hlogs : after.pass.naming.Logs (program.blocks.flatMap Block.requests) log)
    (hhelpers : lua.helpers = after.pass.helpers.helpers)
    (hnames : lua.helpers.map Helper.logicalName =
      (program.blocks.flatMap Block.requests).eraseDups)
    {helper : Helper}
    (hmem : helper ∈ lua.helpers) :
    helper = (HelperOutline.ofName settings.indent helper.logicalName).filled after.pass.assign ∧
    after.pass.Covers (HelperOutline.ofName settings.indent helper.logicalName).labels := by
  have hsound := hserves.sound h.sound.forget
  have hnodup : (after.pass.helpers.helpers.map Helper.logicalName).Nodup := by
    rw [← hhelpers, hnames]
    exact nodup_eraseDups _
  have hproper : ∀ other ∈ lua.helpers, Identifier.IsIdentifier other.identifier.toList := by
    rw [hhelpers]
    exact fun other hother => (hsound.helpers other hother).1
  have hfound : ∀ other ∈ lua.helpers,
      after.pass.naming.ofHelper other.logicalName = some other.identifier := by
    rw [hhelpers]
    exact fun other hother => Pass.identifier?_of_mem hnodup hother
  have hfirst : SumFirst (lua.helpers.map Helper.logicalName) := by
    rw [hnames]
    exact sumFirst_requests program
  -- a helper that calls the sum comes with it
  have hsum : MathHelper.CallsSum helper.logicalName →
      after.pass.naming.ofHelper MathHelper.sumName =
          some ((lua.identifier? MathHelper.sumName).getD "") ∧
        Identifier.IsIdentifier ((lua.identifier? MathHelper.sumName).getD "").toList := by
    intro hcalls
    obtain ⟨sum, hsumMem, hsumName⟩ :=
      List.mem_map.mp (hfirst.sumName_mem (List.mem_map_of_mem hmem) hcalls)
    have hidentifier := hfound sum hsumMem
    rw [hsumName] at hidentifier
    rw [identifier?_eq hhelpers, hidentifier]
    exact ⟨rfl, hproper sum hsumMem⟩
  obtain ⟨template, htemplate, hlines⟩ := h.written hserves hlogs hhelpers helper hmem
  rw [LuaProgram.template?, MathHelper.template?_eq] at htemplate
  obtain ⟨bare, hbare, rfl⟩ := Option.map_eq_some_iff.mp htemplate
  have hfills : List.Forall₂ after.pass.naming.Fills helper.lines
      (bare.map (MathHelper.lineOutline settings.indent helper.logicalName)) := by
    rw [hlines, List.map_map, List.forall₂_map_left_iff, List.forall₂_map_right_iff]
    exact List.forall₂_same.mpr fun line _ =>
      MathHelper.lineOutline_fills (hfound helper hmem) (hproper helper hmem) hsum _ line
  obtain ⟨hfilled, hcovers⟩ := Naming.Fills.lines_eq_filled hfills
  have hlabel : after.pass.ofLabel? (.ofHelper helper.logicalName) = some helper.identifier :=
    hfound helper hmem
  have hown : after.pass.assign (.ofHelper helper.logicalName) = helper.identifier := by
    rw [Pass.assign, hlabel]
    rfl
  unfold HelperOutline.ofName HelperOutline.filled HelperOutline.labels
  rw [hbare, hown]
  refine ⟨?_, List.forall_mem_cons.mpr ⟨⟨_, hlabel⟩, hcovers⟩⟩
  show helper = ⟨helper.logicalName, helper.identifier, _⟩
  rw [Option.getD_some, ← hfilled]

/-- A program of math blocks is compiled to its outline, filled in by the pass. -/
theorem Belongs.compile_fills
    (h : compiler.Belongs settings)
    (hcustoms : compiler.customs = [])
    (hok : compiler.compile program = (.ok lua, after)) :
    ∃ log outline,
      compiler.pass.forget.Serves log after.pass ∧
      program.outline? settings.indent settings.wrapBareValues = some outline ∧
      lua = outline.filled after.pass.assign ∧
      after.pass.Covers outline.labels := by
  obtain ⟨log, codes, hserves, hlogs, hhelpers, hcodes, hfills⟩ :=
    h.compile_renders hcustoms
      (fun naming => writeBlocks_renders_each (Block.fills settings.keywords_avoided)
        settings.wrapBareValues program.blocks) hok
  have hnames := logicalNames_eq hserves hlogs hhelpers
  have hhelper := fun helper (hmem : helper ∈ lua.helpers) =>
    h.helper_fills hserves hlogs hhelpers hnames hmem
  have hlines : List.Forall₂ after.pass.naming.Fills lua.lines
      (codes.flatMap (CodeOutline.topLines settings.wrapBareValues)) := by
    obtain ⟨written, hwritten, hlines⟩ := hfills
    rw [hlines]
    clear hlines hcodes
    induction hwritten with
    | nil =>
        exact .nil
    | cons hcode _ ih =>
        rw [List.flatMap_cons, List.flatMap_cons]
        exact List.rel_append (hcode.topLines settings.wrapBareValues) ih
  obtain ⟨hfilled, hcovers⟩ := Naming.Fills.lines_eq_filled hlines
  refine ⟨log, _, hserves, by rw [Program.outline?, hcodes]; rfl, ?_, ?_⟩
  · have hsection : lua.helpers =
        ((program.blocks.flatMap Block.requests).eraseDups.map
          (HelperOutline.ofName settings.indent)).map
            (HelperOutline.filled after.pass.assign) := by
      rw [← hnames, List.map_map, List.map_map]
      refine (List.map_id _).symm.trans (List.map_congr_left ?_)
      exact fun helper hmem => (hhelper helper hmem).1
    unfold ProgramOutline.filled
    rw [← hsection, ← hfilled]
  · refine List.forall_mem_append.mpr ⟨?_, hcovers⟩
    intro label hlabel
    obtain ⟨outline, houtline, hlabel⟩ := List.mem_flatMap.mp hlabel
    obtain ⟨name, hname, rfl⟩ := List.mem_map.mp houtline
    rw [← hnames] at hname
    obtain ⟨helper, hmem, rfl⟩ := List.mem_map.mp hname
    exact (hhelper helper hmem).2 label hlabel

/-- A program that is refused has no outline. -/
theorem Belongs.outline?_eq_none
    (h : compiler.Belongs settings)
    (hcustoms : compiler.customs = [])
    {fault : Fault}
    (hfault : (compiler.compile program).1 = .error fault) :
    program.outline? settings.indent settings.wrapBareValues = none := by
  obtain ⟨_, hcodes⟩ := h.compile_renders_error hcustoms
    (fun naming => writeBlocks_renders_each (Block.fills settings.keywords_avoided)
      settings.wrapBareValues program.blocks) hfault
  rw [Program.outline?, hcodes]
  rfl

/--
For a program, an indentation and a choice for bare values there is one outline, or one fault. With
any words to keep off, after any calls that register no writers, the program is refused for that
fault, or it is compiled to that outline: each label has an identifier that is a name of the
language and none of the words to keep off, different labels have different ones, and these fill
the places of the outline.
-/
theorem compile_outline
    (program : Program)
    (indent : Indent)
    (wrapBareValues : Bool)
    (reservedWords : List String)
    (calls : List Call)
    (hcustoms : ((new ⟨indent, reservedWords, wrapBareValues⟩).after calls).customs = []) :
    let result :=
      (((new ⟨indent, reservedWords, wrapBareValues⟩).after calls).compile program).1
    match program.outline? indent wrapBareValues with
    | none =>
        ∃ fault, program.visits.findSome? Visit.fault? = some fault ∧ result = .error fault
    | some outline =>
        ∃ assign : Label → String,
          (∀ label ∈ outline.labels, ∀ other ∈ outline.labels,
            assign label = assign other → label = other) ∧
          (∀ label ∈ outline.labels,
            Identifier.IsIdentifier (assign label).toList ∧
            assign label ∉ Lua.reservedWords ∧
            assign label ∉ reservedWords) ∧
          result = .ok (outline.filled assign) := by
  intro result
  have hbelongs := (belongs_new ⟨indent, reservedWords, wrapBareValues⟩).after calls
  cases hresult : result with
  | error fault =>
      have hnone := hbelongs.outline?_eq_none hcustoms hresult
      have hvisits := faultIn_compile hcustoms program
      rw [hnone]
      refine ⟨fault, ?_, rfl⟩
      rw [← hvisits]
      exact congrArg faultIn hresult
  | ok lua =>
      obtain ⟨log, outline, hserves, houtline, hlua, hcovers⟩ :=
        hbelongs.compile_fills hcustoms (Prod.ext hresult rfl)
      have hsound := hserves.sound hbelongs.sound.forget
      have hapart := hserves.apart (Pass.apart_forget _)
      rw [houtline]
      refine ⟨_, ?_, ?_, congrArg Except.ok hlua⟩
      · intro label hlabel other hother heq
        obtain ⟨identifier, hfound⟩ := hcovers label hlabel
        obtain ⟨second, hsecond⟩ := hcovers other hother
        obtain rfl : identifier = second := by
          simpa [Pass.assign, hfound, hsecond] using heq
        exact hapart.label_injective hfound hsecond
      · intro label hlabel
        obtain ⟨identifier, hfound⟩ := hcovers label hlabel
        obtain ⟨hproper, hreserved⟩ := hsound.ofLabel? hfound
        have hwords : identifier ∉ Lua.reservedWords ∧ identifier ∉ reservedWords := by
          simpa [Settings.avoided] using hreserved
        rw [Pass.assign, hfound]
        exact ⟨hproper, hwords⟩

/-- A variable whose name is to be kept off has another identifier in the places of its outline. -/
theorem compile_outline_kept :
    let program : Program := ⟨[.node "math_change" [("VAR", "Count")] .empty]⟩
    let place : Piece := .place (.ofVariable "count")
    ∃ assign : Label → String,
      assign (.ofVariable "count") ≠ "Count" ∧
      ((new ⟨.tab, ["Count"], true⟩).compile program).1 =
        .ok ⟨[], [Outline.filled assign [place, .text " = ", place, .text " + ", .text "0"]]⟩ := by
  intro program place
  have houtline : program.outline? .tab true =
      some ⟨[], [[place, .text " = ", place, .text " + ", .text "0"]]⟩ := by
    decide +kernel
  have hcompile := compile_outline program .tab true ["Count"] [] rfl
  rw [houtline] at hcompile
  obtain ⟨assign, _, hproper, hresult⟩ := hcompile
  refine ⟨assign, ?_, hresult⟩
  intro heq
  have hmem : Label.ofVariable "count" ∈
      ProgramOutline.labels ⟨[], [[place, .text " = ", place, .text " + ", .text "0"]]⟩ := by
    decide
  exact (hproper _ hmem).2.2 (by simp [heq])

end Compiler
end MathBlocks
