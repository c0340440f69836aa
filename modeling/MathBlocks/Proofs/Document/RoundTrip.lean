import MathBlocks.Document.Encode
import MathBlocks.Proofs.Document.Spellings
import MathBlocks.Proofs.Json.Reading

/-!
# Programs come back from their documents

A program is written as a document in one of the ways to write it, and so the document is read as
this program, unless it has too many arrays and objects open at once. The reader counts what is
open around each block, and that is how deep the block is nested: so what it accepts at all is never
nested too deep to be written and read again.
-/

namespace MathBlocks

/-- How many objects are open at once where fields are written. -/
def Fields.nesting (fields : Fields) : Nat :=
  if fields.isEmpty then 0 else 1

mutual

/-- How many arrays and objects are open at once where a block is written. -/
def Block.nesting : Block → Nat
  | .node _ fields inputs => max fields.nesting inputs.nesting + 1

/-- How many arrays and objects are open at once where inputs are written. -/
def Inputs.nesting : Inputs → Nat
  | .empty => 0
  | .plug _ child rest => max (child.nesting + 1) rest.nesting

end

theorem Inputs.nesting_le_iff
    (depth : Nat) :
    (inputs : Inputs) →
    (inputs.nesting ≤ depth ↔ ∀ input ∈ inputs.toList, input.2.nesting + 1 ≤ depth)
  | .empty => by
      simp [nesting, toList]
  | .plug slot child rest => by
      simp [nesting, toList, nesting_le_iff depth rest]

theorem Inputs.one_le_nesting_plug
    (slot : String)
    (child : Block)
    (rest : Inputs) :
    1 ≤ (Inputs.plug slot child rest).nesting := by
  rw [nesting]
  omega

/-- Fields as a JSON value, if there are any. -/
def Fields.toJson? (fields : Fields) : Option Json :=
  if fields.isEmpty then
    none
  else
    some (.object (fields.map fun field => (some field.1, .ofText field.2)))

/-- Inputs as a JSON value, if there are any. -/
def Inputs.toJson? : Inputs → Option Json
  | .empty => none
  | .plug slot child rest => some (.object (Inputs.plug slot child rest).toMembers)

theorem Inputs.toMembers_eq :
    (inputs : Inputs) →
    inputs.toMembers = inputs.toList.map fun input => (some input.1, input.2.toJson)
  | .empty => rfl
  | .plug slot child rest => by
      simp [toMembers, toList, toMembers_eq rest]

/-- Fields are written as a map of texts. -/
theorem Fields.spelledAs_toJson?
    (fields : Fields) :
    Decode.MapSpelling fields.ListedAs fields.toJson? fields.nesting := by
  cases fields with
  | nil =>
      exact .leftOut ⟨rfl, rfl⟩
  | cons field rest =>
      have hmembers : Fields.toJson? (field :: rest) = some (Decode.objectOf
          ((field :: rest).map fun field => (field.1, .ofText field.2))) := by
        simp [Fields.toJson?, Decode.objectOf]
      rw [hmembers]
      exact .object ⟨rfl, rfl⟩ (.refl _)

/-- A block is written as a record of what it has. -/
theorem Block.recordSpelling_toJson
    (blockType : String)
    (fields : Fields)
    (inputs : Inputs) :
    Decode.RecordSpelling Decode.blockMembers
      [some (.ofText blockType), fields.toJson?, inputs.toJson?]
      (Block.node blockType fields inputs).toJson := by
  have hmembers : (Block.node blockType fields inputs).toJson = Decode.objectOf
      (Decode.given Decode.blockMembers
        [some (.ofText blockType), fields.toJson?, inputs.toJson?]) := by
    cases fields <;> cases inputs <;> rfl
  rw [hmembers]
  exact .object (List.forall_mem_nil _) (by rw [List.append_nil])

/-- Inputs are written as a map of the blocks plugged in. -/
theorem Inputs.spelledAs_toJson?
    {inputs : Inputs}
    (h : inputs.ListedAs (inputs.toList.map fun input => (input.1, input.2.toJson))
      (inputs.nesting - 1)) :
    Decode.MapSpelling inputs.ListedAs inputs.toJson? inputs.nesting := by
  cases inputs with
  | empty =>
      exact .leftOut ⟨rfl, rfl⟩
  | plug slot child rest =>
      have hmembers : (Inputs.plug slot child rest).toJson? = some (Decode.objectOf
          ((Inputs.plug slot child rest).toList.map fun input => (input.1, input.2.toJson))) := by
        simp [toJson?, toMembers_eq, Decode.objectOf]
      have hnesting : (Inputs.plug slot child rest).nesting - 1 + 1 =
          (Inputs.plug slot child rest).nesting :=
        Nat.sub_add_cancel (one_le_nesting_plug slot child rest)
      rw [hmembers, ← hnesting]
      exact .object h (.refl _)

mutual

/-- A block is written in one of the ways to write it. -/
theorem Block.spelledAs_toJson :
    (block : Block) →
    block.SpelledAs block.toJson block.nesting
  | .node blockType fields inputs =>
      ⟨fields.toJson?, fields.nesting, inputs.toJson?, inputs.nesting,
        Block.recordSpelling_toJson blockType fields inputs, fields.spelledAs_toJson?,
        Inputs.spelledAs_toJson? inputs.listedAs_toJson, rfl⟩

/-- The blocks plugged in are each written in one of the ways to write it. -/
theorem Inputs.listedAs_toJson :
    (inputs : Inputs) →
    inputs.ListedAs (inputs.toList.map fun input => (input.1, input.2.toJson)) (inputs.nesting - 1)
  | .empty => ⟨rfl, rfl⟩
  | .plug slot child rest => by
      refine ⟨child.toJson, rest.toList.map fun input => (input.1, input.2.toJson), child.nesting,
        rest.nesting - 1, rfl, child.spelledAs_toJson, rest.listedAs_toJson, ?_⟩
      rw [Inputs.nesting]
      omega

end

namespace Decode

/-- Fields that are read need an object that may be open. -/
theorem nesting_le_of_orElse
    {depth : Nat}
    {value : Option Json}
    {fields : List (String × String)}
    (h : orElse [] (entries? depth text?) value = some fields) :
    (Fields.ofList fields).nesting ≤ depth := by
  cases depth with
  | zero =>
      have hfields : fields = [] := by
        cases value with
        | none =>
            exact (Option.some.inj h).symm
        | some value =>
            cases value <;> cases h
      rw [hfields]
      exact Nat.le_refl 0
  | succ depth =>
      unfold Fields.nesting
      split <;> omega

mutual

/-- A block that is read is in order and not nested deeper than may be open. -/
theorem bounds_of_block? :
    (depth : Nat) →
    {value : Json} →
    {block : Block} →
    block? depth value = some block →
    block.InOrder ∧ block.nesting ≤ depth
  | 0, _, _, h => by
      rw [block?] at h
      cases h
  | depth + 1, value, block, h => by
      obtain ⟨_, _, _, _, blockType, fields, inputs, hdepth, _, _, hfields, hinputs, rfl⟩ :=
        parts_of_block? h
      cases hdepth
      have hopen := nesting_le_of_orElse hfields
      have hchildren := fun input hinput => bounds_of_inputs? depth hinputs input hinput
      have hplugged : ∀ input ∈ (Inputs.ofList inputs).toList, input ∈ inputs := by
        intro input hinput
        rw [Inputs.toList_ofList] at hinput
        exact mem_of_mem_sortNamed hinput
      refine ⟨⟨?_, ?_, ?_⟩, ?_⟩
      · rw [Fields.ofList_eq]
        exact increasing_sortNamed fields
      · rw [Inputs.toList_ofList]
        exact increasing_sortNamed inputs
      · rw [Inputs.inOrder_iff]
        exact fun input hinput => (hchildren input (hplugged input hinput)).1
      · have hdeep : (Inputs.ofList inputs).nesting ≤ depth := by
          rw [Inputs.nesting_le_iff]
          exact fun input hinput => (hchildren input (hplugged input hinput)).2
        rw [Block.nesting]
        omega

/-- Blocks plugged in that are read are in order and not nested deeper than may be open. -/
theorem bounds_of_inputs? :
    (depth : Nat) →
    {value : Option Json} →
    {inputs : List (String × Block)} →
    inputs? depth value = some inputs →
    ∀ input ∈ inputs, input.2.InOrder ∧ input.2.nesting + 1 ≤ depth
  | 0, value, inputs, h => by
      have hnone : inputs = [] := by
        cases value with
        | none =>
            exact (Option.some.inj h).symm
        | some value =>
            cases value <;> cases h
      rw [hnone]
      exact fun _ hinput => nomatch hinput
  | depth + 1, value, inputs, h => by
      cases value with
      | none =>
          cases h
          exact fun _ hinput => nomatch hinput
      | some value =>
          cases value with
          | object members =>
              rw [inputs?] at h
              obtain ⟨named, _, hnamed⟩ := Option.bind_eq_some_iff.mp h
              intro input hinput
              obtain ⟨member, hmember⟩ := exists_of_mem_mapM hnamed hinput
              obtain ⟨child, hchild, rfl⟩ := Option.map_eq_some_iff.mp hmember
              obtain ⟨horder, hdeep⟩ := bounds_of_block? depth hchild
              exact ⟨horder, Nat.succ_le_succ hdeep⟩
          | _ =>
              cases h

end

end Decode

/-- Fields are written as an object of texts. -/
theorem Fields.textual_toMembers
    (fields : Fields) :
    Json.HaveTextual (fields.map fun field => (some field.1, .ofText field.2)) ∧
    Json.memberNesting (fields.map fun field => (some field.1, .ofText field.2)) = 0 := by
  induction fields with
  | nil =>
      exact ⟨trivial, rfl⟩
  | cons field rest ih =>
      refine ⟨⟨rfl, rfl, ih.1⟩, ?_⟩
      rw [List.map_cons, Json.memberNesting, ih.2]
      rfl

mutual

/-- A block is written as texts, arrays and objects, which are open at once as it is nested. -/
theorem Block.textual_toJson :
    (block : Block) →
    block.toJson.IsTextual ∧ block.toJson.nesting = block.nesting
  | .node blockType fields inputs => by
      obtain ⟨hfields, hflat⟩ := fields.textual_toMembers
      obtain ⟨hinputs, hnested⟩ := inputs.textual_toMembers
      cases fields with
      | nil =>
          cases inputs with
          | empty =>
              exact ⟨⟨rfl, rfl, trivial⟩, rfl⟩
          | plug slot child rest =>
              have hplugged := Inputs.one_le_nesting_plug slot child rest
              refine ⟨⟨rfl, rfl, rfl, hinputs, trivial⟩, ?_⟩
              show max 0
                  (max (Json.memberNesting (Inputs.plug slot child rest).toMembers + 1) 0) + 1 =
                max 0 (Inputs.plug slot child rest).nesting + 1
              omega
      | cons field others =>
          cases inputs with
          | empty =>
              refine ⟨⟨rfl, rfl, rfl, hfields, trivial⟩, ?_⟩
              show max 0 (max (Json.memberNesting (List.map _ (field :: others)) + 1) 0) + 1 =
                max 1 0 + 1
              rw [hflat]
              rfl
          | plug slot child rest =>
              have hplugged := Inputs.one_le_nesting_plug slot child rest
              refine ⟨⟨rfl, rfl, rfl, hfields, rfl, hinputs, trivial⟩, ?_⟩
              show max 0 (max (Json.memberNesting (List.map _ (field :: others)) + 1)
                  (max (Json.memberNesting (Inputs.plug slot child rest).toMembers + 1) 0)) + 1 =
                max 1 (Inputs.plug slot child rest).nesting + 1
              rw [hflat]
              omega

theorem Inputs.textual_toMembers :
    (inputs : Inputs) →
    Json.HaveTextual inputs.toMembers ∧
      Json.memberNesting inputs.toMembers + 1 = max 1 inputs.nesting
  | .empty => ⟨trivial, rfl⟩
  | .plug slot child rest => by
      obtain ⟨hchild, hdeep⟩ := child.textual_toJson
      obtain ⟨hrest, hothers⟩ := rest.textual_toMembers
      refine ⟨⟨rfl, hchild, hrest⟩, ?_⟩
      rw [Inputs.toMembers, Json.memberNesting, hdeep, Inputs.nesting]
      omega

end

namespace Program

theorem toJson_nesting
    (program : Program) :
    program.toJson.nesting = Json.itemNesting (program.blocks.map Block.toJson) + 2 := by
  simp [toJson, Json.nesting, Json.memberNesting]

theorem textual_toJson
    (program : Program) :
    program.toJson.IsTextual ∧
    ∀ depth, program.toJson.nesting ≤ depth + 2 ↔
      ∀ block ∈ program.blocks, block.nesting ≤ depth := by
  have hblocks : ∀ blocks : List Block,
      Json.AreTextual (blocks.map Block.toJson) ∧
      ∀ depth, Json.itemNesting (blocks.map Block.toJson) ≤ depth ↔
        ∀ block ∈ blocks, block.nesting ≤ depth := by
    intro blocks
    induction blocks with
    | nil =>
        exact ⟨trivial, by simp [Json.itemNesting]⟩
    | cons block rest ih =>
        obtain ⟨hblock, hdeep⟩ := block.textual_toJson
        refine ⟨⟨hblock, ih.1⟩, ?_⟩
        intro depth
        simp [Json.itemNesting, hdeep, ih.2]
  obtain ⟨hitems, hdeep⟩ := hblocks program.blocks
  refine ⟨⟨rfl, hitems, trivial⟩, ?_⟩
  intro depth
  rw [← hdeep, toJson_nesting]
  omega

/-- A program is written in one of the ways to write it. -/
theorem spelledAs_toJson
    (program : Program) :
    program.SpelledAs program.toJson program.toJson.nesting := by
  have hblocks : ∀ blocks : List Block,
      Block.AllSpelledAs blocks (blocks.map Block.toJson)
        (Json.itemNesting (blocks.map Block.toJson)) := by
    intro blocks
    induction blocks with
    | nil =>
        exact .nil
    | cons block rest ih =>
        have hblock := block.spelledAs_toJson
        rw [← block.textual_toJson.2] at hblock
        exact .cons hblock ih
  have hrecord : Decode.RecordSpelling Decode.programMembers
      [some (.array (program.blocks.map Block.toJson))] program.toJson :=
    .object (List.forall_mem_nil _) (.refl _)
  rw [program.toJson_nesting]
  exact .blocks hrecord (hblocks program.blocks)

/-- A program that is read is in order and not nested too deep to be written and read again. -/
theorem bounds_of_program?
    {value : Json}
    {program : Program}
    (h : Decode.program? value = some program) :
    program.InOrder ∧ program.toJson.nesting ≤ Decode.depthLimit := by
  obtain ⟨blocksJson, blocks, _, hblocks, rfl⟩ := Decode.parts_of_program? h
  have hbounds : ∀ block ∈ blocks, block.InOrder ∧ block.nesting ≤ 125 := by
    intro block hblock
    cases blocksJson with
    | none =>
        cases hblocks
        exact nomatch hblock
    | some value =>
        cases value with
        | array items =>
            obtain ⟨item, hitem⟩ := exists_of_mem_mapM hblocks hblock
            exact Decode.bounds_of_block? 125 hitem
        | _ =>
            cases hblocks
  refine ⟨fun block hblock => (hbounds block hblock).1, ?_⟩
  exact ((textual_toJson ⟨blocks⟩).2 125).mpr fun block hblock => (hbounds block hblock).2

/-- The document of a program in order is read as this program, unless it is nested too deep. -/
theorem ofString?_document
    {program : Program}
    (h : program.InOrder) :
    ofString? program.document =
      if program.toJson.nesting ≤ Decode.depthLimit then some program else none := by
  unfold ofString? document
  rw [Json.ofString?_pretty program.textual_toJson.1]
  exact program?_of_spelledAs h program.spelledAs_toJson

/-- The tokens of the document of a program. -/
theorem tokens_document
    (program : Program) :
    Json.Token.ofChars? program.document.toList = some program.toJson.tokens ∧
    Json.mostOpen program.toJson.tokens = program.toJson.nesting :=
  ⟨Json.ofChars?_pretty program.textual_toJson.1, Json.mostOpen_tokens program.toJson⟩

/--
The document of a program is read as this program if there are never more than 127 arrays and
objects open at once in it, and is refused otherwise. A program that any text is read as is such a
program, so that its document is read as the same program again.
-/
theorem document_roundTrip :
    (∀ program : Program,
      program.InOrder →
      ∃ tokens,
        Json.Token.ofChars? program.document.toList = some tokens ∧
        ofString? program.document =
          if Json.mostOpen tokens ≤ 127 then some program else none) ∧
    (∀ (text : String) (program : Program),
      ofString? text = some program →
      program.InOrder ∧
      (∃ tokens,
        Json.Token.ofChars? program.document.toList = some tokens ∧
        Json.mostOpen tokens ≤ 127) ∧
      ofString? program.document = some program) := by
  constructor
  · intro program horder
    obtain ⟨htokens, hopen⟩ := program.tokens_document
    refine ⟨_, htokens, ?_⟩
    rw [hopen]
    exact ofString?_document horder
  · intro text program htext
    obtain ⟨value, _, hvalue⟩ := Option.bind_eq_some_iff.mp htext
    obtain ⟨horder, hbound⟩ := bounds_of_program? hvalue
    obtain ⟨htokens, hopen⟩ := program.tokens_document
    refine ⟨horder, ⟨_, htokens, ?_⟩, ?_⟩
    · rw [hopen]
      exact hbound
    · rw [ofString?_document horder, if_pos hbound]

/-- Records as arrays, fields out of order and an escape that is not needed come back in order. -/
theorem document_roundTrip_array :
    let program : Program := ⟨[.node "t" [("A", "\x01"), ("B", "\n")] .empty]⟩
    ofString? "[[[\"\\u0074\",\x7b\"B\":\"\\n\",\"A\":\"\\u0001\"\x7d]]]" = some program ∧
    program.InOrder ∧
    ofString? program.document = some program := by
  intro program
  have htext : ofString? "[[[\"\\u0074\",\x7b\"B\":\"\\n\",\"A\":\"\\u0001\"\x7d]]]" =
      some program := by
    decide +kernel
  obtain ⟨horder, ⟨tokens, htokens, hopen⟩, _⟩ := document_roundTrip.2 _ program htext
  obtain ⟨same, hsame, hread⟩ := document_roundTrip.1 program horder
  rw [htokens] at hsame
  cases hsame
  rw [if_pos hopen] at hread
  exact ⟨htext, horder, hread⟩

end Program

end MathBlocks
