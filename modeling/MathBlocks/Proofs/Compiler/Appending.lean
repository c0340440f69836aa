import MathBlocks.Proofs.Compiler.Renaming
import MathBlocks.Proofs.Emit.Lockstep
import MathBlocks.Proofs.Names.Declared

/-!
# Programs put one after the other

A program with others behind it declares its own variables first, so these have the identifiers
that they have without the others. Its helpers are named after the variables of the others, and
that can give one of them another identifier, but only if a variable has taken the one that it had.
If none has, what is written for the program is the beginning of what is written for the whole.
-/

namespace MathBlocks

/-- A program with another one behind it. -/
instance : Append Program where
  append program rest := ⟨program.blocks ++ rest.blocks⟩

@[simp] theorem Program.variables_append
    (program rest : Program) :
    (program ++ rest).variables = program.variables ++ rest.variables :=
  List.flatMap_append

/-- Whether one of the helpers of a pass has an identifier that is taken elsewhere. -/
def Pass.Collides
    (taken : String → Prop)
    (pass : Pass NameDirectory) : Prop :=
  ∃ helper ∈ pass.helpers.helpers, taken helper.identifier

/--
Whether two passes have the same helpers and the same identifiers for known variables, and differ
only in the identifiers that are taken in the second one beyond those in use in the first.
-/
structure Pass.Besides
    (taken known : String → Prop)
    (pass other : Pass NameDirectory) : Prop where
  helpers_eq : other.helpers = pass.helpers
  reserved_eq : other.names.reserved = pass.names.reserved
  used_iff :
    ∀ identifier,
      identifier ∈ other.names.used ↔ identifier ∈ pass.names.used ∨ taken identifier
  known_agree :
    ∀ name, known name →
      ∃ identifier,
        pass.naming.ofVariable name = some identifier ∧
        other.naming.ofVariable name = some identifier

namespace Pass

variable {taken known : String → Prop} {pass other : Pass NameDirectory}

/-- What is free with further identifiers taken is free without. -/
theorem Besides.isFree
    (h : pass.Besides taken known other)
    {identifier : String}
    (hfree : other.names.isFree identifier = true) :
    pass.names.isFree identifier = true := by
  obtain ⟨hused, hreserved⟩ := NameDirectory.isFree_iff.mp hfree
  rw [h.reserved_eq] at hreserved
  exact NameDirectory.isFree_iff.mpr
    ⟨fun hmem => hused ((h.used_iff identifier).mpr (Or.inl hmem)), hreserved⟩

/-- The search for an identifier ends at the same candidate unless that is taken. -/
theorem Besides.firstFree_eq
    (h : pass.Besides taken known other)
    {base : String}
    (hnot : ¬taken (pass.names.firstFree base)) :
    other.names.firstFree base = pass.names.firstFree base := by
  refine NameDirectory.firstFree_eq (fun _ => h.isFree) ?_
  obtain ⟨n, _, hfirst, hfree, _⟩ := pass.names.firstFree_spec base
  rw [hfirst] at hnot ⊢
  obtain ⟨hused, hreserved⟩ := NameDirectory.isFree_iff.mp hfree
  rw [← h.reserved_eq] at hreserved
  refine NameDirectory.isFree_iff.mpr ⟨fun hmem => ?_, hreserved⟩
  exact ((h.used_iff _).mp hmem).elim hused hnot

/-- For a new helper both passes hand out the same identifier unless that is taken. -/
theorem Besides.invent_eq
    (h : pass.Besides taken known other)
    {name : String}
    (hnot : ¬taken (pass.names.firstFree (Identifier.ofText name))) :
    NameSource.invent name other.names =
      ((NameSource.invent name pass.names).1,
        { other.names with
          used := (NameSource.invent name pass.names).1 :: other.names.used }) := by
  show NameDirectory.handOut name other.names = _
  rw [NameDirectory.handOut, h.firstFree_eq hnot]
  rfl

/-- A helper has the same identifier in both passes, unless that one is taken. -/
theorem Besides.helper
    (h : pass.Besides taken known other)
    (name : String)
    (template : List String) :
    Pass.Alike (Collides taken) (Besides taken known) (pass.helper name template)
      (other.helper name template) := by
  have hsame : other.helpers.find? name = pass.helpers.find? name := by
    rw [h.helpers_eq]
  cases hfind : pass.helpers.find? name with
  | some helper =>
      rw [helper_of_find hfind, helper_of_find (hsame.trans hfind)]
      exact Or.inr ⟨rfl, h⟩
  | none =>
      rw [helper_of_new hfind, helper_of_new (hsame.trans hfind)]
      by_cases htaken : taken (pass.names.firstFree (Identifier.ofText name))
      · -- the first pass goes on with a helper that collides
        exact Or.inl ⟨_, List.mem_append_right _ List.mem_cons_self, htaken⟩
      · rw [h.invent_eq htaken]
        refine Or.inr ⟨rfl, ?_, h.reserved_eq, ?_, h.known_agree⟩
        · rw [h.helpers_eq]
        · intro identifier
          show identifier ∈ _ :: _ ↔ identifier ∈ _ :: _ ∨ _
          rw [List.mem_cons, List.mem_cons, h.used_iff, or_assoc]
          exact Iff.rfl

/-- A known variable has its identifier in both passes already. -/
theorem Besides.identify
    (h : pass.Besides taken known other)
    {name : String}
    (hknown : known name) :
    Pass.Alike (Collides taken) (Besides taken known) (pass.identify name)
      (other.identify name) := by
  obtain ⟨identifier, hpass, hother⟩ := h.known_agree name hknown
  rw [identify_of_some hpass, identify_of_some hother]
  exact Or.inr ⟨rfl, h⟩

theorem Collides.helper
    (h : pass.Collides taken)
    (name : String)
    (template : List String) :
    (pass.helper name template).2.Collides taken := by
  obtain ⟨helper, hmem, htaken⟩ := h
  exact ⟨helper, (pass.helpers_prefix_helper name template).subset hmem, htaken⟩

/-- Two passes that differ in taken identifiers only answer alike until a helper runs into one. -/
theorem besides_lockstep
    (taken known : String → Prop) :
    Lockstep (Collides taken) known (Besides taken known) where
  helper name template h := h.helper name template
  identify _ hknown h := h.identify hknown
  lost_helper name template h := h.helper name template
  lost_identify _ h := h

end Pass

namespace Compiler

/-- The variables that a program changes are declared in turn. -/
theorem declared_eq
    (pass : Pass NameDirectory)
    (program : Program) :
    declared pass program =
      { pass with names := pass.names.after (program.variables.map .identify) } := by
  obtain ⟨blocks⟩ := program
  unfold declared Program.variables
  induction blocks generalizing pass with
  | nil =>
      rfl
  | cons block rest ih =>
      have hrest := ih { pass with names := block.declare pass.names }
      rw [List.flatMap_cons, List.map_append, NameDirectory.after_append, ← block.declare_eq]
      exact hrest

theorem declared_append
    (pass : Pass NameDirectory)
    (program rest : Program) :
    (declared pass (program ++ rest)).names =
      (declared pass program).names.after (rest.variables.map .identify) := by
  rw [declared_eq, declared_eq, Program.variables_append, List.map_append,
    NameDirectory.after_append]

/-- Whether an identifier is that of a variable of `rest`, which is declared behind `program`. -/
def Takes
    (settings : Settings)
    (program rest : Program)
    (identifier : String) : Prop :=
  ∃ name ∈ rest.variables,
    (declared (new settings).pass (program ++ rest)).naming.ofVariable name = some identifier

/-- A program with another one behind it starts with the variables of that one beside its own. -/
theorem besides_declared
    (settings : Settings)
    (program rest : Program) :
    (declared (new settings).pass program).Besides (Takes settings program rest)
      (· ∈ program.variables) (declared (new settings).pass (program ++ rest)) := by
  have hserves := declared_serves (new settings).pass program
  have hwhole := declared_serves (new settings).pass (program ++ rest)
  have hsound := (belongs_new settings).sound
  refine ⟨rfl, ?_, ?_, ?_⟩
  · rw [(hwhole.sound hsound).names.reserved_eq, (hserves.sound hsound).names.reserved_eq]
  · intro identifier
    have hremembers := (hserves.apart (Pass.apart_forget (new settings).pass)).remembers
    unfold Takes Pass.naming
    rw [declared_append]
    exact NameDirectory.mem_used_after_identify_iff hremembers rest.variables
  · intro name hname
    obtain ⟨identifier, hlookup⟩ :=
      (new settings).pass.names.exists_lookup_of_mem hname
    have hfirst : (declared (new settings).pass program).naming.ofVariable name =
        some identifier := by
      rw [declared_eq]
      exact hlookup
    refine ⟨identifier, hfirst, ?_⟩
    unfold Pass.naming
    rw [declared_append]
    exact NameDirectory.lookup_after_identify hfirst rest.variables

section Appending

variable {settings : Settings} {compiler after : Compiler NameDirectory}
variable {other later : Compiler NameDirectory}
variable {program rest : Program} {lua whole : LuaProgram}

/-- An identifier that a variable has when a program starts is the one that it has in the end. -/
theorem Belongs.assign_of_declared
    (h : compiler.Belongs settings)
    (hok : compiler.compile program = (.ok lua, after))
    {name identifier : String}
    (hname :
      (declared (new settings).pass program).naming.ofVariable name = some identifier) :
    after.pass.assign (.ofVariable (Text.lower name)) = identifier := by
  obtain ⟨codes, hcodes, _, _⟩ := h.codes_of_compile hok
  have hserves := writeCodes_serves compiler.customs program.blocks
    (declared (new settings).pass program)
  rw [hcodes] at hserves
  have hfound : after.pass.ofLabel? (.ofVariable (Text.lower name)) = some identifier :=
    hserves.within.ofVariable_eq hname
  rw [Pass.assign, hfound]
  rfl

/-- Unless a helper collides, what is written for a program begins what is written for the whole. -/
theorem Belongs.prefix_append
    (h : compiler.Belongs settings)
    (hother : other.Belongs settings)
    (hcustoms : compiler.customs = [])
    (hothers : other.customs = [])
    (hfirst : compiler.compile program = (.ok lua, after))
    (hwhole : other.compile (program ++ rest) = (.ok whole, later))
    (hapart : ¬after.pass.Collides (Takes settings program rest)) :
    lua.helpers <+: whole.helpers ∧ lua.lines <+: whole.lines := by
  obtain ⟨codes, hcodes, hhelpers, hlines⟩ := h.codes_of_compile hfirst
  obtain ⟨all, hall, hallHelpers, hallLines⟩ := hother.codes_of_compile hwhole
  rw [hcustoms] at hcodes
  rw [hothers] at hall
  obtain ⟨same, more, middle, hsame, hmore, rfl⟩ := exists_of_writeCodes_append hall
  have hknown : ∀ block ∈ program.blocks, block.Identifies [] (· ∈ program.variables) :=
    fun block hblock => block.identifies_variables fun name hname =>
      List.mem_flatMap.mpr ⟨block, hblock, hname⟩
  have halike := (Pass.besides_lockstep _ _).writeCodes hknown
    (besides_declared settings program rest)
  rw [hcodes, hsame] at halike
  rcases halike with hlost | ⟨hresult, hbesides⟩
  · exact absurd hlost hapart
  -- the blocks of the program are written alike; the others go on from there
  obtain rfl : codes = same := Except.ok.inj hresult
  have hserves := writeCodes_serves [] rest.blocks middle
  rw [hmore] at hserves
  refine ⟨?_, ?_⟩
  · rw [hhelpers, hallHelpers, ← hbesides.helpers_eq]
    exact hserves.helpers_prefix
  · rw [hlines, hallLines, List.flatMap_append]
    exact List.prefix_append _ _

end Appending

/--
A program is compiled after any calls that register no writers, and also with another one behind
it. Both outputs are outlines that are filled in, and each variable of the program has the same
identifier in both: the one that a directory of names gives it in which nothing but the variables
of the program were declared. If no variable of the other program has the identifier of a helper of
the first output, the helpers and the lines of that output are the first ones of the second.
-/
theorem compile_append
    (settings : Settings)
    (calls others : List Call)
    (hcustoms : ((new settings).after calls).customs = [])
    (hothers : ((new settings).after others).customs = [])
    (program rest : Program)
    (lua whole : LuaProgram)
    (after later : Compiler NameDirectory)
    (hfirst : ((new settings).after calls).compile program = (.ok lua, after))
    (hwhole : ((new settings).after others).compile (program ++ rest) = (.ok whole, later)) :
    (∃ outline outlineWhole,
      program.outline? settings.indent settings.wrapBareValues = some outline ∧
      (program ++ rest).outline? settings.indent settings.wrapBareValues = some outlineWhole ∧
      lua = outline.filled after.pass.assign ∧
      whole = outlineWhole.filled later.pass.assign) ∧
    (∀ name ∈ program.variables,
      let names :=
        (NameDirectory.fresh settings.reservedWords).after (program.variables.map .identify)
      after.pass.assign (.ofVariable (Text.lower name)) = (names.identify name).1 ∧
      later.pass.assign (.ofVariable (Text.lower name)) = (names.identify name).1) ∧
    ((∀ name ∈ rest.variables, ∀ helper ∈ lua.helpers,
        later.pass.assign (.ofVariable (Text.lower name)) ≠ helper.identifier) →
      lua.helpers <+: whole.helpers ∧ lua.lines <+: whole.lines) := by
  have hbelongs := (belongs_new settings).after calls
  have hother := (belongs_new settings).after others
  have hbesides := besides_declared settings program rest
  refine ⟨?_, ?_, ?_⟩
  · obtain ⟨_, outline, _, houtline, hfilled, _⟩ := hbelongs.compile_fills hcustoms hfirst
    obtain ⟨_, outlineWhole, _, houtlineWhole, hfilledWhole, _⟩ :=
      hother.compile_fills hothers hwhole
    exact ⟨outline, outlineWhole, houtline, houtlineWhole, hfilled, hfilledWhole⟩
  · intro name hname names
    obtain ⟨identifier, hlookup, hlookupWhole⟩ := hbesides.known_agree name hname
    have hidentifier : (names.identify name).1 = identifier := by
      rw [declared_eq] at hlookup
      exact congrArg Prod.fst (NameDirectory.identify_of_lookup hlookup)
    rw [hidentifier]
    exact ⟨hbelongs.assign_of_declared hfirst hlookup,
      hother.assign_of_declared hwhole hlookupWhole⟩
  · intro hapart
    refine hbelongs.prefix_append hother hcustoms hothers hfirst hwhole ?_
    rintro ⟨helper, hmem, name, hname, htaken⟩
    obtain ⟨_, _, hhelpers, _⟩ := hbelongs.codes_of_compile hfirst
    rw [← hhelpers] at hmem
    exact hapart name hname helper hmem (hother.assign_of_declared hwhole htaken)

/-- The test for primes stays first, with its helper, when a variable is changed behind it. -/
theorem compile_append_prime :
    let prime : Program := ⟨[.node "math_number_property" [("PROPERTY", "PRIME")] .empty]⟩
    let change : Program := ⟨[.node "math_change" [("VAR", "count")] .empty]⟩
    ∃ lua whole,
      ((new .standard).compile prime).1 = .ok lua ∧
      ((new .standard).compile (prime ++ change)).1 = .ok whole ∧
      lua.helpers <+: whole.helpers ∧
      lua.lines <+: whole.lines := by
  intro prime change
  obtain ⟨_, _, hprefix⟩ :=
    compile_append .standard [] [] rfl rfl prime change _ _ _ _ rfl rfl
  exact ⟨_, _, rfl, rfl, hprefix (by decide +kernel)⟩

end Compiler
end MathBlocks
