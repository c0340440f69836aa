import MathBlocks.Proofs.Compiler.History
import MathBlocks.Proofs.Emit.Ending
import MathBlocks.Proofs.Emit.Variables

/-!
# What is not read of a program

A block reads the fields of its kind, and if these are in order the slots of its kind; which slots
these are may depend on the fields. `Program.trimmed` is a program without anything else, and
`Program.removed` lists what was plugged in and is no longer there. The writing of a block depends
on what is read alone. What is declared before depends on all that is plugged in, so the two
programs are compiled alike if nothing that was removed changes a variable.
-/

namespace MathBlocks

/-- The fields that a block of that kind reads. -/
def BlockKind.fieldNames : BlockKind → List String
  | .number => ["NUM"]
  | .arithmetic | .single | .round | .trig | .onList => ["OP"]
  | .constant => ["CONSTANT"]
  | .numberProperty => ["PROPERTY"]
  | .change => ["VAR"]
  | .modulo | .constrain | .randomInt | .randomFloat | .atan2 => []

namespace Block

/-- The fields that a block reads; a block of no known type reads none. -/
def fieldsRead (block : Block) : List String :=
  match block.kind with
  | .ok kind => kind.fieldNames
  | .error _ => []

/-- The slots that a block reads; a block with a fault in its type or fields reads none. -/
def slotsRead (block : Block) : List String :=
  match block.ownFault?, block.kind with
  | none, .ok kind => kind.slots block
  | _, _ => []

end Block

/-- The fields of these names. -/
def Fields.kept
    (fields : Fields)
    (names : List String) : Fields :=
  fields.filter fun field => field.1 ∈ names

mutual

/-- A block with nothing but the fields and slots that it reads, and so for all that is in these. -/
def Block.trimmed : Block → Block
  | .node blockType fields inputs =>
      .node blockType
        (fields.kept (Block.node blockType fields inputs).fieldsRead)
        (inputs.trimmed (Block.node blockType fields inputs).slotsRead)

/-- What is plugged into these slots, itself with nothing but what is read. -/
def Inputs.trimmed : Inputs → List String → Inputs
  | .empty, _ => .empty
  | .plug slot child rest, slots =>
      if slot ∈ slots then .plug slot child.trimmed (rest.trimmed slots) else rest.trimmed slots

end

/-- A program with nothing but what its blocks read. -/
def Program.trimmed (program : Program) : Program where
  blocks := program.blocks.map Block.trimmed

mutual

/-- What is plugged into slots that are not read, in a block or in the blocks in slots that are. -/
def Block.removed : Block → List Block
  | .node blockType fields inputs => inputs.removed (Block.node blockType fields inputs).slotsRead

/-- What is plugged into other slots than these, and what is not read in the blocks in these. -/
def Inputs.removed : Inputs → List String → List Block
  | .empty, _ => []
  | .plug slot child rest, slots =>
      (if slot ∈ slots then child.removed else [child]) ++ rest.removed slots

end

/-- What is plugged into slots of a program that are not read. -/
def Program.removed (program : Program) : List Block :=
  program.blocks.flatMap Block.removed

/-- A field that is kept has its text. -/
theorem Fields.text?_kept
    {name : String}
    {names : List String}
    (h : name ∈ names)
    (fields : Fields) :
    (fields.kept names).text? name = fields.text? name := by
  unfold kept text?
  induction fields with
  | nil =>
      rfl
  | cons field rest ih =>
      by_cases hfield : field.1 ∈ names
      · rw [List.filter_cons_of_pos (by simpa using hfield), List.lookup_cons, List.lookup_cons, ih]
      · have hne : (name == field.1) = false := by
          rw [beq_eq_false_iff_ne]
          rintro rfl
          exact hfield h
        rw [List.filter_cons_of_neg (by simpa using hfield), List.lookup_cons, hne, ih]

/-- Whether two blocks have the same type and the same texts in the fields of a kind. -/
structure BlockKind.SameFields
    (kind : BlockKind)
    (block other : Block) : Prop where
  blockType_eq : block.blockType = other.blockType
  text?_eq : ∀ name ∈ kind.fieldNames, block.fields.text? name = other.fields.text? name

namespace BlockKind.SameFields

variable {kind : BlockKind} {block other : Block}

theorem neededField_eq
    (h : kind.SameFields block other)
    {name : String}
    (hname : name ∈ kind.fieldNames) :
    block.neededField name = other.neededField name := by
  rw [Block.neededField, Block.neededField, h.text?_eq name hname, h.blockType_eq]

theorem readTag_eq
    (h : kind.SameFields block other)
    {α : Type}
    [Tagged α]
    {name : String}
    (hname : name ∈ kind.fieldNames) :
    (block.readTag name : Except Fault α) = other.readTag name := by
  rw [Block.readTag, Block.readTag, h.neededField_eq hname]

/-- What a block asks for and how it is written depends on the fields of its kind. -/
theorem recipe_eq
    (h : kind.SameFields block other) :
    kind.recipe block = kind.recipe other := by
  cases kind with
  | number =>
      simp only [BlockKind.recipe, numberRecipe, h.neededField_eq (List.mem_singleton_self _)]
  | arithmetic =>
      simp only [BlockKind.recipe, arithmeticRecipe, h.readTag_eq (List.mem_singleton_self _)]
  | single | round | trig =>
      simp only [BlockKind.recipe, functionRecipe, h.readTag_eq (List.mem_singleton_self _)]
  | constant =>
      simp only [BlockKind.recipe, constantRecipe, h.readTag_eq (List.mem_singleton_self _)]
  | numberProperty =>
      simp only [BlockKind.recipe, propertyRecipe, h.readTag_eq (List.mem_singleton_self _)]
  | onList =>
      simp only [BlockKind.recipe, statisticRecipe, h.readTag_eq (List.mem_singleton_self _)]
  | change =>
      simp only [BlockKind.recipe, changeRecipe, h.neededField_eq (List.mem_singleton_self _)]
  | _ =>
      rfl

/-- The slots that a block looks into depend on the fields of its kind. -/
theorem slots_eq
    (h : kind.SameFields block other) :
    kind.slots block = kind.slots other := by
  cases kind with
  | numberProperty =>
      simp only [BlockKind.slots, h.readTag_eq (List.mem_singleton_self _)]
  | _ =>
      rfl

/-- The fault of a block lies in the fields of its kind. -/
theorem ownFault?_eq
    (h : kind.SameFields block other) :
    kind.ownFault? block = kind.ownFault? other := by
  have htag : ∀ (α : Type) [Tagged α] name, name ∈ kind.fieldNames →
      block.tagFault? α name = other.tagFault? α name := by
    intro α _ name hname
    rw [← Block.faultIn_readTag, ← Block.faultIn_readTag, h.readTag_eq hname]
  have hfield : ∀ name, name ∈ kind.fieldNames →
      block.fieldFault? name = other.fieldFault? name := by
    intro name hname
    rw [← Block.faultIn_neededField, ← Block.faultIn_neededField, h.neededField_eq hname]
  cases kind with
  | number =>
      simp only [BlockKind.ownFault?, Block.numberFault?, h.blockType_eq,
        h.text?_eq "NUM" (List.mem_singleton_self _)]
  | arithmetic | single | round | trig | constant | numberProperty | onList =>
      exact htag _ _ (List.mem_singleton_self _)
  | change =>
      exact hfield _ (List.mem_singleton_self _)
  | _ =>
      rfl

end BlockKind.SameFields

/-- A trimmed block has the type of the block and the fields of its kind. -/
theorem Block.sameFields_trimmed
    {block : Block}
    {kind : BlockKind}
    (hkind : block.kind = .ok kind) :
    kind.SameFields block.trimmed block := by
  obtain ⟨blockType, fields, inputs⟩ := block
  refine ⟨rfl, ?_⟩
  intro name hname
  refine Fields.text?_kept ?_ fields
  rw [Block.fieldsRead, hkind]
  exact hname

theorem Block.kind_trimmed
    (block : Block) :
    block.trimmed.kind = block.kind := by
  cases block
  rfl

theorem Block.ownFault?_trimmed
    (block : Block) :
    block.trimmed.ownFault? = block.ownFault? := by
  unfold Block.ownFault?
  rw [block.kind_trimmed]
  cases hkind : block.kind with
  | ok kind =>
      exact (sameFields_trimmed hkind).ownFault?_eq
  | error fault =>
      obtain ⟨blockType, fields, inputs⟩ := block
      rfl

theorem Block.slotsRead_trimmed
    (block : Block) :
    block.trimmed.slotsRead = block.slotsRead := by
  unfold Block.slotsRead
  rw [block.ownFault?_trimmed, block.kind_trimmed]
  cases hkind : block.kind with
  | ok kind =>
      have hslots := (sameFields_trimmed hkind).slots_eq
      cases block.ownFault? with
      | none =>
          exact hslots
      | some fault =>
          rfl
  | error fault =>
      cases block.ownFault? <;> rfl

theorem Block.mathRecipe_trimmed
    (block : Block) :
    mathRecipe block.trimmed = mathRecipe block := by
  unfold mathRecipe
  rw [block.kind_trimmed]
  cases hkind : block.kind with
  | ok kind =>
      exact (sameFields_trimmed hkind).recipe_eq
  | error fault =>
      rfl

mutual

/-- There is nothing to remove from a trimmed block. -/
theorem Block.removed_trimmed :
    (block : Block) →
    block.trimmed.removed = []
  | .node blockType fields inputs => by
      have hslots := (Block.node blockType fields inputs).slotsRead_trimmed
      rw [Block.trimmed] at hslots ⊢
      rw [Block.removed, hslots]
      exact inputs.removed_trimmed _

theorem Inputs.removed_trimmed :
    (inputs : Inputs) →
    (slots : List String) →
    (inputs.trimmed slots).removed slots = []
  | .empty, _ => rfl
  | .plug slot child rest, slots => by
      by_cases h : slot ∈ slots
      · simp [Inputs.trimmed, Inputs.removed, h, child.removed_trimmed, rest.removed_trimmed slots]
      · simp [Inputs.trimmed, h, rest.removed_trimmed slots]

end

section Writing

variable {ν : Type} [NameSource ν]

/-- How a recipe is carried out depends on the slots that it asks for. -/
theorem Recipe.Asks.run_congr
    {α : Type}
    {holds : α → Prop}
    {slots : List String}
    {recipe : Recipe String α}
    (h : recipe.Asks (fun _ => True) holds slots)
    {operand other : String → BindingLevel → Pass ν → Except Fault (Option String) × Pass ν}
    (hsame : ∀ slot ∈ slots, ∀ allowed pass, operand slot allowed pass = other slot allowed pass)
    (pass : Pass ν) :
    recipe.run (Pass.supplier operand) pass = recipe.run (Pass.supplier other) pass := by
  induction h generalizing pass with
  | done _ =>
      rfl
  | @operand slot allowed slots next hfault _ ih =>
      obtain ⟨hslot, hrest⟩ := List.forall_mem_cons.mp hsame
      simp only [Recipe.run, Pass.supplier, hslot]
      cases hanswer : (other slot allowed pass).1 with
      | error fault =>
          rw [hfault]
          rfl
      | ok answer =>
          exact ih answer (fun _ _ _ _ => trivial) hrest _
  | helper _ ih =>
      exact ih _ (fun _ _ => trivial) hsame _
  | identifier _ ih =>
      exact ih _ (fun _ _ => trivial) hsame _

mutual

/-- What a block is written as depends on what it reads. -/
theorem Block.write_trimmed :
    (block : Block) →
    (pass : Pass ν) →
    block.trimmed.write [] pass = block.write [] pass
  | .node blockType fields inputs, pass => by
      have hrecipe := (Block.node blockType fields inputs).mathRecipe_trimmed
      have hany : ∀ c, Text.isPrintable c = true → (fun _ : Char => True) c :=
        fun _ _ => trivial
      have hfollows := mathRecipe_follows hany (.node blockType fields inputs)
      rw [Block.write_eq, Block.write_eq]
      show (mathRecipe _).run _ pass = (mathRecipe _).run _ pass
      rw [hrecipe]
      cases hown : (Block.node blockType fields inputs).ownFault? with
      | some fault =>
          rw [hown] at hfollows
          have hfail : mathRecipe (.node blockType fields inputs) = .fail fault := hfollows
          rw [hfail]
          rfl
      | none =>
          rw [hown] at hfollows
          refine Recipe.Asks.run_congr hfollows ?_ pass
          intro slot hslot allowed pass
          refine inputs.write_trimmed ?_ allowed pass
          rw [Block.slotsRead, hown]
          cases hkind : (Block.node blockType fields inputs).kind with
          | ok kind =>
              rw [hkind] at hslot
              exact hslot
          | error fault =>
              rw [hkind] at hslot
              cases hslot

theorem Inputs.write_trimmed :
    (inputs : Inputs) →
    {slots : List String} →
    {slot : String} →
    slot ∈ slots →
    (allowed : BindingLevel) →
    (pass : Pass ν) →
    (inputs.trimmed slots).write [] slot allowed pass = inputs.write [] slot allowed pass
  | .empty, _, _, _, _, _ => rfl
  | .plug slot child rest, slots, wanted, hwanted, allowed, pass => by
      have hchild := child.write_trimmed pass
      have hrest := rest.write_trimmed hwanted allowed pass
      by_cases h : slot = wanted
      · subst h
        have htype : child.trimmed.blockType = child.blockType := by
          cases child
          rfl
        simp only [Inputs.trimmed, if_pos hwanted, Inputs.write, if_true, hchild, htype]
      · by_cases hslot : slot ∈ slots
        · simpa [Inputs.trimmed, Inputs.write, hslot, h] using hrest
        · simpa [Inputs.trimmed, Inputs.write, hslot, h] using hrest

end

mutual

/-- A block that changes no variable declares none. -/
theorem Block.declare_of_variables_eq_nil
    (names : ν) :
    (block : Block) →
    block.variables = [] →
    block.declare names = names
  | .node blockType fields inputs, h => by
      rw [Block.variables, List.append_eq_nil_iff] at h
      have hinputs := inputs.declare_of_variables_eq_nil names h.2
      rw [Block.declare]
      split
      · rename_i name hstatement hname
        have htype : blockType = "math_change" := (isStatementType_iff _).mp hstatement
        simp [htype, hname] at h
      · exact hinputs

theorem Inputs.declare_of_variables_eq_nil
    (names : ν) :
    (inputs : Inputs) →
    inputs.variables = [] →
    inputs.declare names = names
  | .empty, _ => rfl
  | .plug slot child rest, h => by
      rw [Inputs.variables, List.append_eq_nil_iff] at h
      rw [Inputs.declare, child.declare_of_variables_eq_nil names h.1]
      exact rest.declare_of_variables_eq_nil names h.2

end

mutual

/-- A trimmed block declares what the block does, if nothing that is removed changes a variable. -/
theorem Block.declare_trimmed
    (names : ν) :
    (block : Block) →
    (∀ removed ∈ block.removed, removed.variables = []) →
    block.trimmed.declare names = block.declare names
  | .node blockType fields inputs, h => by
      rw [Block.trimmed, Block.declare, Block.declare, inputs.declare_trimmed _ _ h]
      by_cases hstatement : isStatementType blockType = true
      · obtain rfl : blockType = "math_change" := (isStatementType_iff _).mp hstatement
        have hread : "VAR" ∈ (Block.node "math_change" fields inputs).fieldsRead :=
          List.mem_singleton_self _
        rw [Fields.text?_kept hread]
      · rw [Bool.not_eq_true] at hstatement
        rw [hstatement]

theorem Inputs.declare_trimmed
    (names : ν) :
    (inputs : Inputs) →
    (slots : List String) →
    (∀ removed ∈ inputs.removed slots, removed.variables = []) →
    (inputs.trimmed slots).declare names = inputs.declare names
  | .empty, _, _ => rfl
  | .plug slot child rest, slots, h => by
      rw [Inputs.removed] at h
      obtain ⟨hfirst, hrest⟩ := List.forall_mem_append.mp h
      by_cases hslot : slot ∈ slots
      · rw [if_pos hslot] at hfirst
        rw [Inputs.trimmed, if_pos hslot, Inputs.declare, Inputs.declare,
          child.declare_trimmed names hfirst]
        exact rest.declare_trimmed _ slots hrest
      · rw [if_neg hslot] at hfirst
        have hchild := child.declare_of_variables_eq_nil names (hfirst child List.mem_cons_self)
        rw [Inputs.trimmed, if_neg hslot, Inputs.declare, hchild]
        exact rest.declare_trimmed names slots hrest

end

theorem writeBlocks_trimmed
    (wrapBareValues : Bool)
    (blocks : List Block)
    (pass : Pass ν) :
    writeBlocks [] wrapBareValues (blocks.map Block.trimmed) pass =
      writeBlocks [] wrapBareValues blocks pass := by
  induction blocks generalizing pass with
  | nil =>
      rfl
  | cons block rest ih =>
      simp only [List.map_cons, writeBlocks, block.write_trimmed, ih]

namespace Compiler

/-- A trimmed program declares what the program does, if what is removed changes no variable. -/
theorem declared_trimmed
    (pass : Pass ν)
    {program : Program}
    (hremoved : ∀ block ∈ program.removed, block.variables = []) :
    declared pass program.trimmed = declared pass program := by
  obtain ⟨blocks⟩ := program
  unfold declared Program.trimmed
  induction blocks generalizing pass with
  | nil =>
      rfl
  | cons block rest ih =>
      obtain ⟨hblock, hrest⟩ := List.forall_mem_append.mp hremoved
      simp only [List.map_cons, List.foldl_cons, block.declare_trimmed _ hblock]
      exact ih { pass with names := block.declare pass.names } hrest

/--
A compiler without registered writers compiles a program and the trimmed program to the same result,
a fault or the Lua program, and has the same helpers and names afterwards, if no block in what was
removed changes a variable. Nothing more can be removed from the trimmed program.
-/
theorem compile_trimmed
    (compiler : Compiler ν)
    (hcustoms : compiler.customs = [])
    (program : Program)
    (hremoved : ∀ block ∈ program.removed, block.variables = []) :
    compiler.compile program.trimmed = compiler.compile program ∧
    program.trimmed.removed = [] := by
  refine ⟨?_, ?_⟩
  · have hblocks := writeBlocks_trimmed compiler.settings.wrapBareValues program.blocks
      (declared compiler.pass.forget program)
    simp only [compile, declared_trimmed _ hremoved, hcustoms]
    rw [← hblocks]
    rfl
  · unfold Program.removed Program.trimmed
    rw [List.flatMap_map, List.flatMap_eq_nil_iff]
    exact fun block _ => block.removed_trimmed

/-- The question whether 7 is prime, with these further inputs. -/
def primeQuestion (others : Inputs) : Block :=
  .node "math_number_property" [("PROPERTY", "PRIME")]
    (.plug "NUMBER_TO_CHECK" (.node "math_number" [("NUM", "7")] .empty) others)

/-- A divisor that is no number and a block of no known type make no difference to a prime. -/
theorem compile_trimmed_prime :
    let junk := Block.node "math_number" [("NUM", "seven")] .empty
    let number := Block.node "math_number" [("COLOUR", "red"), ("NUM", "7")]
      (.plug "NUM" (.node "text" [] .empty) .empty)
    let program : Program :=
      ⟨[.node "math_number_property" [("PROPERTY", "PRIME")]
        (.plug "DIVISOR" junk (.plug "NUMBER_TO_CHECK" number .empty))]⟩
    (∀ block ∈ program.removed, block.variables = []) ∧
    program.trimmed = ⟨[primeQuestion .empty]⟩ ∧
    (new .standard).compile ⟨[primeQuestion .empty]⟩ = (new .standard).compile program := by
  intro junk number program
  have hremoved : ∀ block ∈ program.removed, block.variables = [] := by
    decide +kernel
  have htrimmed : program.trimmed = ⟨[primeQuestion .empty]⟩ := by
    decide +kernel
  refine ⟨hremoved, htrimmed, ?_⟩
  rw [← htrimmed]
  exact (compile_trimmed (new .standard) rfl program hremoved).1

/-- A variable that is changed where nothing is read still takes its name from the helper. -/
example :
    let change := Block.node "math_change" [("VAR", "math_isPrime")] .empty
    let program : Program := ⟨[primeQuestion (.plug "UNREAD" change .empty)]⟩
    program.trimmed = ⟨[primeQuestion .empty]⟩ ∧
    ((new .standard).compile program.trimmed).1.map LuaProgram.lines =
      .ok ["local _ = math_isPrime(7)"] ∧
    ((new .standard).compile program).1.map LuaProgram.lines =
      .ok ["local _ = math_isPrime2(7)"] := by
  decide +kernel

end Compiler

end Writing
end MathBlocks
