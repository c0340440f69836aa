import MathBlocks.Proofs.Compiler.Harmless
import MathBlocks.Proofs.Emit.References
import MathBlocks.Proofs.Helper.Scope

/-!
# No name is taken for another

A name in a program of math blocks is a global of the language, the identifier of one helper or that
of a variable, or it is bound in the helper where it stands, and it is never two of these. What a
helper does can therefore not be changed by assigning to a variable, nor by another helper but the
sum that it calls.
-/

namespace MathBlocks

open Lua

/-- Whether a name can be given without hiding a word or a global that programs use. -/
def Lua.IsAvailable (name : String) : Prop :=
  name ∉ keywords ∧ name ≠ "_" ∧ name ∉ Script.globals

/-- The reserved words are enough to keep a proper identifier available. -/
theorem NameDirectory.IsProper.isAvailable
    {settings : Settings}
    {identifier : String}
    (h : IsProper settings.avoided identifier) :
    Lua.IsAvailable identifier := by
  have hreserved : identifier ∉ Lua.reservedWords := fun hmem =>
    h.2 (List.mem_append_left _ hmem)
  have hscrub : "_" ∈ Lua.reservedWords := by
    decide
  have hglobals : ∀ word ∈ Script.globals, word ∈ Lua.reservedWords := by
    decide
  refine ⟨fun hmem => h.2 (settings.keywords_avoided identifier hmem), ?_, ?_⟩
  · rintro rfl
    exact hreserved hscrub
  · exact fun hmem => hreserved (hglobals identifier hmem)

/-- The identifier of the sum that a helper calls, if it is one that does. -/
def LuaProgram.callee?
    (lua : LuaProgram)
    (name : String) : Option String :=
  if MathHelper.CallsSum name then lua.identifier? MathHelper.sumName else none

/-- The identifier of the sum is that of a helper with the logical name of the sum. -/
theorem LuaProgram.exists_of_callee?
    {lua : LuaProgram}
    {name callee : String}
    (h : lua.callee? name = some callee) :
    MathHelper.CallsSum name ∧
    ∃ sum ∈ lua.helpers, sum.logicalName = MathHelper.sumName ∧ sum.identifier = callee := by
  unfold LuaProgram.callee? at h
  split at h
  · rename_i hcalls
    obtain ⟨sum, hfind, rfl⟩ := Option.map_eq_some_iff.mp h
    exact ⟨hcalls, sum, List.mem_of_find?_eq_some hfind, by simpa using List.find?_some hfind, rfl⟩
  · cases h

/--
Whether a line is an expression, maybe with the assignment to a variable or to nothing before it,
whose names are all known.
-/
def Naming.ExplainsLine
    (naming : Naming)
    (line : String) : Prop :=
  ∃ front code parsed,
    line = front ++ code ∧
    (front = "" ∨ front = "local _ = " ∨
      ∃ name identifier, naming.ofVariable name = some identifier ∧ front = identifier ++ " = ") ∧
    Parses code parsed ∧
    naming.Explains parsed

/-- What is read refers to the names that are meant, so it is explained if what is meant is. -/
theorem Value.ReadsAs.explains
    {naming : Naming}
    {value : Value}
    {tree : Expr}
    (h : value.ReadsAs tree)
    (htree : naming.Explains tree) :
    ∃ parsed,
      Parses value.code parsed ∧
      naming.Explains parsed := by
  obtain ⟨parsed, hparses, _, _, hbare⟩ := h
  have hnames : parsed.names = tree.names := by
    rw [← parsed.names_bare, hbare, tree.names_regrouped]
  refine ⟨parsed, hparses, ?_⟩
  intro name hname
  rw [hnames] at hname
  exact htree name hname

/-- The line of a block is explained by the naming that it is written with. -/
theorem Block.WrittenAs.explainsLine
    {naming : Naming}
    {wrapBareValues : Bool}
    {block : Block}
    {line : String}
    (h : block.WrittenAs naming wrapBareValues line) :
    naming.ExplainsLine line := by
  obtain ⟨code, meaning, hmeaning, hreads, hline⟩ := h
  have hexplains := block.explains_meaning hmeaning
  cases code with
  | value v =>
      cases meaning with
      | assignment identifier tree =>
          exact hreads.elim
      | value tree =>
          obtain ⟨parsed, hparses, hparsed⟩ := Value.ReadsAs.explains hreads hexplains
          obtain rfl := List.singleton_inj.mp hline
          split
          · exact ⟨_, v.code, parsed, rfl, Or.inr (Or.inl rfl), hparses, hparsed⟩
          · exact ⟨"", v.code, parsed, by simp, Or.inl rfl, hparses, hparsed⟩
  | statement lines =>
      cases meaning with
      | value tree =>
          exact hreads.elim
      | assignment identifier tree =>
          obtain ⟨code, rfl, hcode⟩ := hreads
          obtain ⟨parsed, hparses, hparsed⟩ := hcode.explains hexplains
          obtain rfl := List.singleton_inj.mp hline
          obtain ⟨name, hname⟩ := Block.ofVariable_of_assignment hmeaning
          exact ⟨_, code, parsed, rfl, Or.inr (Or.inr ⟨name, identifier, hname, rfl⟩), hparses,
            hparsed⟩

/-- Whether no name in a program can be taken for another, given the identifiers in it. -/
structure LuaProgram.Hygienic
    (naming : Naming)
    (lua : LuaProgram) : Prop where
  ofHelper_eq : ∀ name, naming.ofHelper name = lua.identifier? name
  variables_available :
    ∀ name identifier, naming.ofVariable name = some identifier → IsAvailable identifier
  helpers_available : ∀ helper ∈ lua.helpers, IsAvailable helper.identifier
  helpers_nodup : (lua.helpers.map Helper.identifier).Nodup
  apart :
    ∀ helper ∈ lua.helpers, ∀ name, naming.ofVariable name ≠ some helper.identifier
  closed : ∀ helper ∈ lua.helpers, helper.IsClosed (lua.callee? helper.logicalName)
  explained : ∀ line ∈ lua.lines, naming.ExplainsLine line

namespace LuaProgram.Hygienic

variable {naming : Naming} {lua : LuaProgram}

/-- No helper refers to a variable. -/
theorem not_refersTo_variable
    (h : lua.Hygienic naming)
    {helper : Helper}
    (hmem : helper ∈ lua.helpers)
    {function : Script.Function}
    (hfunction : Script.Function.ofText? helper.text = some function)
    {name identifier : String}
    (hname : naming.ofVariable name = some identifier) :
    ¬ function.RefersTo identifier := by
  intro hrefers
  obtain ⟨found, hfound, _, hclosed⟩ := h.closed helper hmem
  obtain rfl : found = function := Option.some.inj (hfound.symm.trans hfunction)
  rcases hclosed.refers identifier hrefers with hglobal | hcallee
  · exact (h.variables_available name identifier hname).2.2 hglobal
  · obtain ⟨_, sum, hsum, _, rfl⟩ := LuaProgram.exists_of_callee? hcallee
    exact h.apart sum hsum name hname

/-- A helper refers to no other helper but the sum, and to this only if it is one that calls it. -/
theorem eq_sum_of_refersTo
    (h : lua.Hygienic naming)
    {helper other : Helper}
    (hmem : helper ∈ lua.helpers)
    (hother : other ∈ lua.helpers)
    {function : Script.Function}
    (hfunction : Script.Function.ofText? helper.text = some function)
    (hrefers : function.RefersTo other.identifier) :
    MathHelper.CallsSum helper.logicalName ∧ other.logicalName = MathHelper.sumName := by
  obtain ⟨found, hfound, _, hclosed⟩ := h.closed helper hmem
  obtain rfl : found = function := Option.some.inj (hfound.symm.trans hfunction)
  rcases hclosed.refers _ hrefers with hglobal | hcallee
  · exact absurd hglobal (h.helpers_available other hother).2.2
  · obtain ⟨hcalls, sum, hsum, hname, hidentifier⟩ := LuaProgram.exists_of_callee? hcallee
    obtain rfl := List.inj_on_of_nodup_map h.helpers_nodup hsum hother hidentifier
    exact ⟨hcalls, hname⟩

end LuaProgram.Hygienic

namespace Compiler

/-- The helpers of a program of math blocks are closed but for the sum. -/
theorem Belongs.closed
    {settings : Settings}
    {compiler after : Compiler NameDirectory}
    (h : compiler.Belongs settings)
    {requests : List String}
    {log : List Request}
    {lua : LuaProgram}
    (hserves : compiler.pass.forget.Serves log after.pass)
    (hlogs : after.pass.naming.Logs requests log)
    (hhelpers : lua.helpers = after.pass.helpers.helpers)
    (hfirst : SumFirst (lua.helpers.map Helper.logicalName))
    {helper : Helper}
    (hmem : helper ∈ lua.helpers) :
    helper.IsClosed (lua.callee? helper.logicalName) := by
  have hsound := hserves.sound h.sound.forget
  have hproper : ∀ other ∈ lua.helpers,
      Identifier.IsIdentifier other.identifier.toList ∧ other.identifier ∉ keywords := by
    intro other hother
    rw [hhelpers] at hother
    have hproper := hsound.helpers other hother
    exact ⟨hproper.1, hproper.isAvailable.1⟩
  obtain ⟨template, htemplate, hlines⟩ := h.written hserves hlogs hhelpers helper hmem
  obtain ⟨hidentifier, hkeyword⟩ := hproper helper hmem
  obtain ⟨logicalName, identifier, lines⟩ := helper
  have hwritten : lines = template.map (HelperTable.fillLine settings.indent identifier) := hlines
  rw [hwritten]
  by_cases hcalls : MathHelper.CallsSum logicalName
  · -- the sum is there, and its identifier begins with its logical name
    have hname := hfirst.sumName_mem (List.mem_map_of_mem hmem) hcalls
    obtain ⟨sum, hsum, hlogical, hcallee⟩ :=
      LuaProgram.identifier?_of_mem (List.append_nil lua.helpers).symm hname
    obtain ⟨hsumProper, hsumKeyword⟩ := hproper sum hsum
    have hprefix : MathHelper.sumName.toList <+: sum.identifier.toList := by
      rw [hhelpers] at hsum
      rcases hserves.identifier_eq_candidate sum hsum with hstart | ⟨n, hcandidate⟩
      · exact absurd hstart List.not_mem_nil
      · have hbase : Identifier.ofText MathHelper.sumName = MathHelper.sumName := by
          decide
        rw [hcandidate, hlogical, hbase]
        exact NameDirectory.prefix_candidate _ n
    rw [LuaProgram.template?, hcallee, Option.getD_some] at htemplate
    rw [LuaProgram.callee?, if_pos hcalls, hcallee]
    exact MathHelper.isClosed_of_callsSum hidentifier hkeyword _ hsumProper hsumKeyword hprefix
      hcalls htemplate
  · rw [LuaProgram.callee?, if_neg hcalls]
    exact MathHelper.isClosed_of_not_callsSum hidentifier hkeyword _ hcalls htemplate

/--
After any calls that register no writers, a program is compiled so that no name in it can be taken
for another: identifiers are no words and no globals of the language, and no two helpers have one
identifier, nor a helper and a variable. Helpers are closed but for globals and the sum, which is
bound in none of them, and the lines refer to the library, to helpers and to variables alone. So no
helper refers to a variable, and none to another helper but to the sum, which it is made to call.
-/
theorem names_hygienic
    (settings : Settings)
    (calls : List Call)
    (hcustoms : ((new settings).after calls).customs = [])
    (program : Program)
    (lua : LuaProgram)
    (after : Compiler NameDirectory)
    (hok : ((new settings).after calls).compile program = (.ok lua, after)) :
    lua.Hygienic after.pass.naming ∧
    ∀ helper ∈ lua.helpers,
      ∀ function, Script.Function.ofText? helper.text = some function →
      (∀ name identifier,
        after.pass.naming.ofVariable name = some identifier →
        ¬ function.RefersTo identifier) ∧
      (∀ other ∈ lua.helpers,
        function.RefersTo other.identifier →
        MathHelper.CallsSum helper.logicalName ∧ other.logicalName = MathHelper.sumName) := by
  have hbelongs := (belongs_new settings).after calls
  obtain ⟨log, meanings, hserves, hlogs, hhelpers, hmeanings, hpresents⟩ :=
    hbelongs.compile_math hcustoms hok
  have hsound := hserves.sound hbelongs.sound.forget
  have hapart := hserves.apart (Pass.apart_forget _)
  have hfirst : SumFirst (lua.helpers.map Helper.logicalName) := by
    rw [logicalNames_eq hserves hlogs hhelpers]
    exact sumFirst_requests program
  have hygienic : lua.Hygienic after.pass.naming := by
    refine ⟨fun name => (identifier?_eq hhelpers name).symm, ?_, ?_, ?_, ?_, ?_, ?_⟩
    · intro name identifier hname
      have hlabel : after.pass.ofLabel? (.ofVariable (Text.lower name)) = some identifier := hname
      exact (hsound.ofLabel? hlabel).isAvailable
    · intro helper hmem
      rw [hhelpers] at hmem
      exact (hsound.helpers helper hmem).isAvailable
    · rw [hhelpers]
      exact hapart.nodup
    · intro helper hmem name
      rw [hhelpers] at hmem
      exact hapart.lookup_ne hmem (Text.lower name)
    · exact fun helper hmem => hbelongs.closed hserves hlogs hhelpers hfirst hmem
    · intro line hline
      have hblocks := hpresents.writtenAs hmeanings
      obtain ⟨i, hi, rfl⟩ := List.mem_iff_getElem.mp hline
      have hblock := hblocks.get (by rwa [hblocks.length_eq]) hi
      exact hblock.explainsLine
  refine ⟨hygienic, ?_⟩
  intro helper hmem function hfunction
  exact ⟨fun name identifier => hygienic.not_refersTo_variable hmem hfunction,
    fun other hother => hygienic.eq_sum_of_refersTo hmem hother hfunction⟩

/-- A variable has the name of the sum, so the mean calls the sum by another one. -/
theorem names_hygienic_sum :
    let mean := Block.node "math_on_list" [("OP", "AVERAGE")] .empty
    let program : Program :=
      ⟨[.node "math_change" [("VAR", "math_sum")] (.plug "DELTA" mean .empty)]⟩
    ∃ lua after helper function,
      (new .standard).compile program = (.ok lua, after) ∧
      lua.lines = ["math_sum = math_sum + math_average(\x7b\x7d)"] ∧
      helper ∈ lua.helpers ∧
      Script.Function.ofText? helper.text = some function ∧
      function.RefersTo "math_sum2" ∧
      ¬ function.RefersTo "math_sum" ∧
      lua.Hygienic after.pass.naming := by
  intro mean program
  let helper : Helper :=
    ⟨MathHelper.averageName, "math_average",
      ["function math_average(t)", "  if #t == 0 then", "    return 0", "  end",
       "  return math_sum2(t) / #t", "end"]⟩
  let after := ((new .standard).compile program).2
  have hok : ∃ lua, ((new .standard).compile program).1 = .ok lua ∧
      lua.lines = ["math_sum = math_sum + math_average(\x7b\x7d)"] ∧
      helper ∈ lua.helpers :=
    ⟨_, rfl, by decide +kernel, by decide +kernel⟩
  obtain ⟨lua, hlua, hlines, hmem⟩ := hok
  have hcompile : (new .standard).compile program = (.ok lua, after) :=
    Prod.ext hlua rfl
  have hfunction : Script.Function.ofText? helper.text =
      some ⟨"math_average", ["t"], MathHelper.averageBody "math_sum2"⟩ := by
    decide +kernel
  have hvariable : after.pass.naming.ofVariable "math_sum" = some "math_sum" := by
    decide +kernel
  obtain ⟨hygienic, hrefers⟩ := names_hygienic .standard [] rfl program lua after hcompile
  refine ⟨lua, after, helper, _, hcompile, hlines, hmem, hfunction, ⟨["t"], ?_, ?_⟩, ?_, hygienic⟩
  · decide
  · decide
  · exact (hrefers helper hmem _ hfunction).1 "math_sum" "math_sum" hvariable

end Compiler
end MathBlocks
