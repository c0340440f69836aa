import MathBlocks.Proofs.Compiler.Fresh
import MathBlocks.Proofs.Compiler.Appending

/-!
# The name of a sole variable

A program may name its variables in blocks that change them and in blocks with registered writers
that read them. Only the former declare them before a helper is named. A variable that is the only
one of its program has the name that is spelt after it in all places if it is declared, or if no
helper happens to have taken that name; the whole output is then the one that comes out when there
is nothing else that the variable could be called.
-/

namespace MathBlocks

/-- The variable blocks: all that they are written as is the identifier of a variable. -/
def Customs.getters (blockTypes : List String) : Customs :=
  blockTypes.map fun blockType => (blockType, CustomKind.getter.writer)

mutual

/-- The variables that a block and the blocks in it change, or read by blocks of these types. -/
def Block.named (getters : List String) : Block → List String
  | .node blockType fields inputs =>
      (if blockType = "math_change" ∨ blockType ∈ getters then
        (fields.text? "VAR").toList
      else
        []) ++ inputs.named getters

/-- The variables that the blocks plugged in change, or read by blocks of these types. -/
def Inputs.named (getters : List String) : Inputs → List String
  | .empty => []
  | .plug _ child rest => child.named getters ++ rest.named getters

end

/-- The variables that a program changes, or reads by blocks of these types. -/
def Program.named
    (getters : List String)
    (program : Program) : List String :=
  program.blocks.flatMap (Block.named getters)

/--
A source of names for programs with one variable: it has the same identifier at all times, and no
helper gets it.
-/
structure SoleVariable where
  identifier : String
  /-- Where helpers get their identifiers from. -/
  names : NameDirectory

namespace SoleVariable

instance : NameSource SoleVariable where
  identify _ sole := (sole.identifier, sole)
  invent text sole :=
    let (identifier, names) := sole.names.handOut text
    (identifier, { sole with names := names })
  forget sole := { sole with names := sole.names.forget }

/-- With that identifier for the variable, and no other identifier in use. -/
def fresh
    (extra : List String)
    (identifier : String) : SoleVariable where
  identifier := identifier
  names := .fresh (identifier :: extra)

end SoleVariable

variable {getters : List String} {known : String → Prop}

/-- The registered writer for a type is that of a variable block, if there is one. -/
theorem Customs.writer?_getters
    (getters : List String)
    (blockType : String) :
    (Customs.getters getters).writer? blockType =
      if blockType ∈ getters then some CustomKind.getter.writer else none := by
  induction getters with
  | nil =>
      rfl
  | cons first rest ih =>
      have hcons : (Customs.getters (first :: rest)).writer? blockType =
          if blockType = first then some CustomKind.getter.writer
          else (Customs.getters rest).writer? blockType := by
        simp [Customs.getters, Customs.writer?, List.lookup_cons]
        split <;> simp_all
      rw [hcons, ih]
      by_cases h : blockType = first
      · simp [h]
      · simp [h]

/-- A variable block asks for the variable that it names. -/
theorem CustomKind.getter_identifies
    {block : Block}
    (h : ∀ name, block.fields.text? "VAR" = some name → known name) :
    (CustomKind.getter.writer block).Identifies known := by
  refine .check fun name hname => ?_
  exact ⟨h name (Block.text?_of_neededField hname), fun _ => trivial⟩

mutual

/-- The writing of a block asks for no variables but those that are named in it. -/
theorem Block.identifies_named :
    (block : Block) →
    (∀ name ∈ block.named getters, known name) →
    block.Identifies (Customs.getters getters) known
  | .node blockType fields inputs, h => by
      rw [Block.named] at h
      obtain ⟨hown, hinputs⟩ := List.forall_mem_append.mp h
      refine ⟨?_, inputs.identifies_named hinputs⟩
      have hrecipe : (Customs.getters getters).recipe (.node blockType fields inputs) =
          if blockType ∈ getters then CustomKind.getter.writer (.node blockType fields inputs)
          else mathRecipe (.node blockType fields inputs) := by
        rw [Customs.recipe, Block.blockType, Customs.writer?_getters]
        by_cases hmem : blockType ∈ getters <;> simp [hmem]
      rw [hrecipe]
      split
      · rename_i hmem
        rw [if_pos (Or.inr hmem)] at hown
        refine CustomKind.getter_identifies fun name hname => ?_
        have hfield : fields.text? "VAR" = some name := hname
        rw [hfield] at hown
        exact hown name List.mem_cons_self
      · refine .check fun kind hkind => kind.recipe_identifies ?_
        rintro rfl name hname
        have htype : "math_change" = blockType := Tagged.tag_of_read hkind
        have hfield : fields.text? "VAR" = some name := hname
        rw [if_pos (Or.inl htype.symm), hfield] at hown
        exact hown name List.mem_cons_self

theorem Inputs.identifies_named :
    (inputs : Inputs) →
    (∀ name ∈ inputs.named getters, known name) →
    inputs.Identifies (Customs.getters getters) known
  | .empty, _ => trivial
  | .plug _ child rest, h => by
      obtain ⟨hchild, hrest⟩ := List.forall_mem_append.mp h
      exact ⟨child.identifies_named hchild, rest.identifies_named hrest⟩

end

/-- Whether one of the helpers of a pass has that identifier. -/
def Pass.HelperTakes
    (identifier : String)
    (pass : Pass NameDirectory) : Prop :=
  ∃ helper ∈ pass.helpers.helpers, helper.identifier = identifier

/--
Whether two passes over the blocks of a sole variable have the same helpers, and the variable is
called the same or is not yet called anything: in the first pass its identifier is its own or is
still free, in the second one it is there from the start and kept off the helpers.
-/
structure Pass.AgreesOnSole
    (name : String)
    (pass : Pass NameDirectory)
    (other : Pass SoleVariable) : Prop where
  helpers_eq : other.helpers = pass.helpers
  identifier_eq : other.names.identifier = Identifier.ofText name
  reserved_iff :
    ∀ word,
      word ∈ other.names.names.reserved ↔
        word = Identifier.ofText name ∨ word ∈ pass.names.reserved
  used_iff :
    ∀ identifier, identifier ≠ Identifier.ofText name →
      (identifier ∈ other.names.names.used ↔ identifier ∈ pass.names.used)
  called :
    pass.naming.ofVariable name = some (Identifier.ofText name) ∨
    (pass.naming.ofVariable name = none ∧
      pass.names.isFree (Identifier.ofText name) = true)

namespace Pass.AgreesOnSole

variable {name : String} {pass : Pass NameDirectory} {other : Pass SoleVariable}

/-- What is free with the identifier of the variable kept off is another one and free without. -/
theorem isFree_iff
    (h : pass.AgreesOnSole name other)
    {identifier : String} :
    other.names.names.isFree identifier = true ↔
      identifier ≠ Identifier.ofText name ∧ pass.names.isFree identifier = true := by
  rw [NameDirectory.isFree_iff, NameDirectory.isFree_iff, h.reserved_iff, not_or]
  constructor
  · rintro ⟨hused, hne, hreserved⟩
    exact ⟨hne, (h.used_iff identifier hne).not.mp hused, hreserved⟩
  · rintro ⟨hne, hused, hreserved⟩
    exact ⟨(h.used_iff identifier hne).not.mpr hused, hne, hreserved⟩

/-- A new helper has the same identifier in both passes unless it takes that of the variable. -/
theorem firstFree_eq
    (h : pass.AgreesOnSole name other)
    {base : String}
    (hne : pass.names.firstFree base ≠ Identifier.ofText name) :
    other.names.names.firstFree base = pass.names.firstFree base := by
  refine NameDirectory.firstFree_eq (fun _ hfree => (h.isFree_iff.mp hfree).2) ?_
  obtain ⟨n, _, hfirst, hfree, _⟩ := pass.names.firstFree_spec base
  rw [← hfirst] at hfree
  exact h.isFree_iff.mpr ⟨hne, hfree⟩

theorem helper
    (h : pass.AgreesOnSole name other)
    (logicalName : String)
    (template : List String) :
    Pass.Alike (HelperTakes (Identifier.ofText name)) (AgreesOnSole name)
      (pass.helper logicalName template) (other.helper logicalName template) := by
  have hsame : other.helpers.find? logicalName = pass.helpers.find? logicalName := by
    rw [h.helpers_eq]
  cases hfind : pass.helpers.find? logicalName with
  | some helper =>
      rw [helper_of_find hfind, helper_of_find (hsame.trans hfind)]
      exact Or.inr ⟨rfl, h⟩
  | none =>
      rw [helper_of_new hfind, helper_of_new (hsame.trans hfind)]
      by_cases htakes :
          pass.names.firstFree (Identifier.ofText logicalName) = Identifier.ofText name
      · exact Or.inl ⟨_, List.mem_append_right _ List.mem_cons_self, htakes⟩
      · have hinvent : NameSource.invent logicalName other.names =
            ((NameSource.invent logicalName pass.names).1,
              { other.names with
                names := { other.names.names with
                  used := (NameSource.invent logicalName pass.names).1 ::
                    other.names.names.used } }) := by
          have hfirst := h.firstFree_eq htakes
          show ((other.names.names.handOut logicalName).1, _) = _
          simp only [NameDirectory.handOut, hfirst]
          rfl
        rw [hinvent]
        refine Or.inr ⟨rfl, ?_, h.identifier_eq, h.reserved_iff, ?_, ?_⟩
        · rw [h.helpers_eq]
        · intro identifier hne
          show identifier ∈ _ :: _ ↔ identifier ∈ _ :: _
          rw [List.mem_cons, List.mem_cons, h.used_iff identifier hne]
          exact Iff.rfl
        · refine h.called.imp id ?_
          rintro ⟨hnone, hfree⟩
          obtain ⟨hused, hreserved⟩ := NameDirectory.isFree_iff.mp hfree
          refine ⟨hnone, ?_⟩
          refine NameDirectory.isFree_iff.mpr ⟨fun hmem => ?_, hreserved⟩
          exact (List.mem_cons.mp hmem).elim (Ne.symm htakes) hused

/-- The variable is called what it is spelt as, in both passes. -/
theorem identify
    (h : pass.AgreesOnSole name other) :
    (pass.identify name).1 = (other.identify name).1 ∧
    AgreesOnSole name (pass.identify name).2 (other.identify name).2 := by
  rcases h.called with hcalled | ⟨hnone, hfree⟩
  · rw [identify_of_some hcalled]
    exact ⟨h.identifier_eq.symm, h⟩
  · have hfirst : pass.names.firstFree (Identifier.ofText name) = Identifier.ofText name :=
      NameDirectory.firstFree_of_isFree hfree
    have hidentify : pass.identify name =
        (Identifier.ofText name,
          { pass with
            names :=
              { pass.names with
                used := Identifier.ofText name :: pass.names.used
                identifiers :=
                  (Text.lower name, Identifier.ofText name) :: pass.names.identifiers } }) := by
      have hnew := NameDirectory.identify_of_new hnone
      simp only [NameDirectory.handOut, hfirst] at hnew
      exact congrArg (fun answer => (answer.1, { pass with names := answer.2 })) hnew
    rw [hidentify]
    refine ⟨h.identifier_eq.symm, h.helpers_eq, h.identifier_eq, h.reserved_iff, ?_, ?_⟩
    · intro identifier hne
      show identifier ∈ _ ↔ identifier ∈ _ :: _
      rw [List.mem_cons, or_iff_right hne]
      exact h.used_iff identifier hne
    · refine Or.inl ?_
      simp [naming]

end Pass.AgreesOnSole

/-- Two passes answer alike for a sole variable until a helper takes its identifier. -/
theorem Pass.agreesOnSole_lockstep
    (name : String) :
    Lockstep (HelperTakes (Identifier.ofText name)) (· = name) (AgreesOnSole name) where
  helper logicalName template h := h.helper logicalName template
  identify _ hknown h := by
    rw [hknown]
    exact Or.inr h.identify
  lost_helper logicalName template h := by
    obtain ⟨helper, hmem, htakes⟩ := h
    exact ⟨helper, (helpers_prefix_helper _ logicalName template).subset hmem, htakes⟩
  lost_identify _ h := h

mutual

/-- The variables that a block changes are named in it. -/
theorem Block.variables_subset_named :
    (block : Block) →
    block.variables ⊆ block.named getters
  | .node blockType fields inputs => by
      rw [Block.variables, Block.named]
      refine List.append_subset.mpr ⟨?_, ?_⟩
      · split
        · rename_i hchange
          rw [if_pos (Or.inl hchange)]
          exact List.subset_append_left _ _
        · exact List.nil_subset _
      · exact List.Subset.trans inputs.variables_subset_named (List.subset_append_right _ _)

theorem Inputs.variables_subset_named :
    (inputs : Inputs) →
    inputs.variables ⊆ inputs.named getters
  | .empty => List.nil_subset _
  | .plug _ child rest =>
      List.append_subset.mpr
        ⟨List.Subset.trans child.variables_subset_named (List.subset_append_left _ _),
          List.Subset.trans rest.variables_subset_named (List.subset_append_right _ _)⟩

end

mutual

/-- A sole variable need not be declared. -/
theorem Block.declare_sole
    (sole : SoleVariable) :
    (block : Block) →
    block.declare sole = sole
  | .node blockType fields inputs => by
      rw [Block.declare]
      split
      · exact inputs.declare_sole sole
      · exact inputs.declare_sole sole

theorem Inputs.declare_sole
    (sole : SoleVariable) :
    (inputs : Inputs) →
    inputs.declare sole = sole
  | .empty => rfl
  | .plug _ child rest => by
      rw [Inputs.declare, child.declare_sole, rest.declare_sole]

end

namespace Compiler

/-- A compiler that calls every variable the same and keeps that identifier off the helpers. -/
def calling
    (settings : Settings)
    (customs : Customs)
    (identifier : String) : Compiler SoleVariable where
  settings := settings
  customs := customs
  pass := ⟨.empty settings.indent, .fresh settings.reservedWords identifier⟩

theorem declared_calling
    (settings : Settings)
    (customs : Customs)
    (identifier : String)
    (program : Program) :
    declared (calling settings customs identifier).pass.forget program =
      (calling settings customs identifier).pass := by
  obtain ⟨blocks⟩ := program
  unfold declared
  induction blocks with
  | nil =>
      rfl
  | cons block rest ih =>
      rw [List.foldl_cons, block.declare_sole]
      exact ih

/-- Where no other variable is declared, the pass of a program starts as with a sole variable. -/
theorem agreesOnSole_declared
    {settings : Settings}
    (customs : Customs)
    {name : String}
    (hreserved : Identifier.ofText name ∉ settings.avoided)
    {program : Program}
    (hvariables : ∀ other ∈ program.variables, other = name) :
    (declared (new settings).pass program).AgreesOnSole name
      (calling settings customs (Identifier.ofText name)).pass := by
  have hstart : (new settings).pass.AgreesOnSole name
      (calling settings customs (Identifier.ofText name)).pass := by
    refine ⟨rfl, rfl, ?_, fun _ _ => Iff.rfl, Or.inr ⟨rfl, ?_⟩⟩
    · intro word
      show word ∈ Lua.reservedWords ++ (_ :: settings.reservedWords) ↔
        _ ∨ word ∈ Lua.reservedWords ++ settings.reservedWords
      simp only [List.mem_append, List.mem_cons]
      tauto
    · exact NameDirectory.isFree_iff.mpr ⟨List.not_mem_nil, hreserved⟩
  rw [declared_eq]
  generalize (new settings).pass = pass at hstart
  generalize program.variables = texts at hvariables
  induction texts generalizing pass with
  | nil =>
      exact hstart
  | cons first rest ih =>
      obtain ⟨rfl, hrest⟩ := List.forall_mem_cons.mp hvariables
      exact ih _ hstart.identify.2 hrest

/-- A variable that a program changes is called before any helper, and no helper is called so. -/
theorem Belongs.not_helperTakes_of_declared
    {settings : Settings}
    {compiler after : Compiler NameDirectory}
    (h : compiler.Belongs settings)
    {name identifier : String}
    {program : Program}
    {lua : LuaProgram}
    (hok : compiler.compile program = (.ok lua, after))
    (hname : (declared (new settings).pass program).naming.ofVariable name = some identifier) :
    ∀ helper ∈ lua.helpers, helper.identifier ≠ identifier := by
  obtain ⟨codes, hcodes, hhelpers, _⟩ := h.codes_of_compile hok
  have hserves := writeCodes_serves compiler.customs program.blocks
    (declared (new settings).pass program)
  rw [hcodes] at hserves
  have hapart : after.pass.Apart :=
    hserves.apart ((declared_serves (new settings).pass program).apart
      (Pass.apart_forget (new settings).pass))
  intro helper hmem heq
  rw [hhelpers] at hmem
  refine hapart.lookup_ne hmem (Text.lower name) ?_
  rw [heq]
  exact hserves.within.ofVariable_eq hname

/--
After any calls, a compiler with no writers but those of variable blocks compiles a program in which
all variables that are named are spelt the same, as no word to keep off. If a block of the program
changes the variable, then no helper has the identifier that it is spelt as. And if no helper has
it, then the variable is called so wherever it occurs: the output is the one that comes out when
every request for a variable is answered with it, and no helper may have it.
-/
theorem sole_variable_called
    (settings : Settings)
    (calls : List Call)
    (getters : List String)
    (hcustoms : ((new settings).after calls).customs = .getters getters)
    (program : Program)
    (name : String)
    (hnamed : ∀ other ∈ program.named getters, other = name)
    (hreserved : Identifier.ofText name ∉ settings.avoided)
    (lua : LuaProgram)
    (after : Compiler NameDirectory)
    (hok : ((new settings).after calls).compile program = (.ok lua, after)) :
    (name ∈ program.variables →
      ∀ helper ∈ lua.helpers, helper.identifier ≠ Identifier.ofText name) ∧
    ((∀ helper ∈ lua.helpers, helper.identifier ≠ Identifier.ofText name) →
      ((calling settings (.getters getters) (Identifier.ofText name)).compile program).1 =
        .ok lua) := by
  have hbelongs := (belongs_new settings).after calls
  have hvariables : ∀ other ∈ program.variables, other = name := by
    intro other hother
    obtain ⟨block, hblock, hmem⟩ := List.mem_flatMap.mp hother
    exact hnamed other (List.mem_flatMap.mpr ⟨block, hblock, block.variables_subset_named hmem⟩)
  have hstart := agreesOnSole_declared (.getters getters) hreserved hvariables
  obtain ⟨codes, hcodes, hhelpers, hlines⟩ := hbelongs.codes_of_compile hok
  refine ⟨?_, ?_⟩
  · intro hmem
    obtain ⟨identifier, hidentifier⟩ :=
      (new settings).pass.names.exists_lookup_of_mem hmem
    have hdeclared : (declared (new settings).pass program).naming.ofVariable name =
        some identifier := by
      rw [declared_eq]
      exact hidentifier
    rcases hstart.called with hcalled | ⟨hnone, _⟩
    · exact hbelongs.not_helperTakes_of_declared hok hcalled
    · rw [hdeclared] at hnone
      cases hnone
  · intro hapart
    have hknown : ∀ block ∈ program.blocks, block.Identifies (.getters getters) (· = name) :=
      fun block hblock => block.identifies_named fun other hother =>
        hnamed other (List.mem_flatMap.mpr ⟨block, hblock, hother⟩)
    have halike := (Pass.agreesOnSole_lockstep name).writeCodes hknown hstart
    rw [hcustoms] at hcodes
    rw [hcodes] at halike
    rcases halike with ⟨helper, hmem, htakes⟩ | ⟨hresult, hagrees⟩
    · rw [← hhelpers] at hmem
      exact absurd htakes (hapart helper hmem)
    · have hblocks := writeBlocks_eq (.getters getters) settings.wrapBareValues program.blocks
        (calling settings (.getters getters) (Identifier.ofText name)).pass
      rw [← hresult, ← declared_calling] at hblocks
      have hcompile : (calling settings (.getters getters) (Identifier.ofText name)).compile
          program = _ := compile_of_ok hblocks
      rw [hcompile, declared_calling, hagrees.helpers_eq, ← hhelpers, ← hlines]

/-- The block of the sum of nothing, which asks for a helper. -/
def sumOfNothing : Block :=
  .node "math_on_list" [("OP", "SUM")] .empty

/-- A variable that is changed behind a helper of its name keeps that name, before and after. -/
theorem sole_variable_called_sum :
    let calls := [Call.register "variables_get" CustomKind.getter.writer]
    let read := Block.node "variables_get" [("VAR", "math_sum")] .empty
    let change := Block.node "math_change" [("VAR", "math_sum")] .empty
    ∃ lua,
      (((new .standard).after calls).compile ⟨[read, sumOfNothing, change]⟩).1 = .ok lua ∧
      (∀ helper ∈ lua.helpers, helper.identifier ≠ "math_sum") ∧
      ((calling .standard (.getters ["variables_get"]) "math_sum").compile
        ⟨[read, sumOfNothing, change]⟩).1 = .ok lua := by
  intro calls read change
  obtain ⟨hapart, hcalled⟩ := sole_variable_called .standard calls ["variables_get"] rfl
    ⟨[read, sumOfNothing, change]⟩ "math_sum" (by decide) (by decide) _ _ rfl
  have hspelt : Identifier.ofText "math_sum" = "math_sum" := by
    decide
  have hdeclared := hapart (by decide)
  rw [hspelt] at hdeclared hcalled
  exact ⟨_, rfl, hdeclared, hcalled hdeclared⟩

/--
A variable that is only read behind a helper of its name loses it: the helper takes the name that
the variable is spelt as, which is no word to keep off, and the variable is called another one.
-/
theorem sole_variable_displaced :
    let calls := [Call.register "variables_get" CustomKind.getter.writer]
    let read := Block.node "variables_get" [("VAR", "math_sum")] .empty
    (∀ other ∈ Program.named ["variables_get"] ⟨[sumOfNothing, read]⟩, other = "math_sum") ∧
    Identifier.ofText "math_sum" = "math_sum" ∧
    "math_sum" ∉ Settings.standard.avoided ∧
    (((new .standard).after calls).compile ⟨[sumOfNothing, read]⟩).1.map
      (fun lua => (lua.helpers.map Helper.identifier, lua.lines)) =
        .ok (["math_sum"], ["local _ = math_sum(\x7b\x7d)", "local _ = math_sum2"]) := by
  intro calls read
  exact ⟨by decide, by decide, by decide, by decide +kernel⟩

end Compiler

end MathBlocks
