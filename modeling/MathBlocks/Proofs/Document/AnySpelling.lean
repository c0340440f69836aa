import MathBlocks.Proofs.Document.RoundTrip

/-!
# Every spelling of a program is read as it

A text that is one of the ways to write a program is read as this program, if in what is read of it
at most 127 arrays and objects are open at once. At most one more is open than in the document of
the program, since a map without entries may be written or left out.

A text is not read as any program if one of its records has a fault: a member that is given twice,
or one whose value is `null`. A record of a text that is read is read itself, and no record with a
fault is.
-/

namespace MathBlocks

namespace Json

theorem nesting_lt_of_mem_items
    {items : List Json}
    {item : Json}
    (h : item ∈ items) :
    item.nesting < (array items).nesting := by
  induction items with
  | nil =>
      cases h
  | cons first rest ih =>
      simp only [nesting, itemNesting] at ih ⊢
      rcases List.mem_cons.mp h with rfl | h
      · omega
      · have hrest := ih h
        omega

theorem nesting_lt_of_mem_members
    {members : List (Option String × Json)}
    {member : Option String × Json}
    (h : member ∈ members) :
    member.2.nesting < (object members).nesting := by
  induction members with
  | nil =>
      cases h
  | cons first rest ih =>
      simp only [nesting, memberNesting] at ih ⊢
      rcases List.mem_cons.mp h with rfl | h
      · omega
      · have hrest := ih h
        omega

end Json

namespace Decode

theorem nesting_lt_of_mem_objectOf
    {members : List (String × Json)}
    {name : String}
    {value : Json}
    (h : (name, value) ∈ members) :
    value.nesting < (objectOf members).nesting := by
  have hmem : (some name, value) ∈ members.map fun member => (some member.1, member.2) :=
    List.mem_map.mpr ⟨_, h, rfl⟩
  exact Json.nesting_lt_of_mem_members hmem

/-- The values of the members of a record are nested inside it. -/
theorem RecordSpelling.nesting_lt
    {names : List String}
    {values : List (Option Json)}
    {json : Json}
    (h : RecordSpelling names values json)
    {name : String}
    {value : Json}
    (hvalue : (name, some value) ∈ names.zip values) :
    value.nesting < json.nesting := by
  cases h with
  | object _ hmembers =>
      have hgiven : (name, value) ∈ given names values := mem_given.mpr hvalue
      exact nesting_lt_of_mem_objectOf
        (hmembers.mem_iff.mpr (List.mem_append_left _ hgiven))
  | array hitems =>
      have hmem := (List.of_mem_zip hvalue).2
      rw [hitems] at hmem
      exact Json.nesting_lt_of_mem_items (by simpa using hmem)

/--
In a map at most one more is open than in its entries, and that only where the map itself is
nested as deep.
-/
theorem MapSpelling.depth_le
    {Lists : List (String × Json) → Nat → Prop}
    {json : Option Json}
    {depth : Nat}
    (h : MapSpelling Lists json depth)
    (bound : Nat)
    (hlists : ∀ listed depth, Lists listed depth →
      depth ≤ bound ∧ (depth = 0 ∨ ∃ member ∈ listed, depth ≤ member.2.nesting)) :
    depth ≤ bound + 1 ∧ (depth = 0 ∨ ∃ value, json = some value ∧ depth ≤ value.nesting) := by
  cases h with
  | leftOut =>
      exact ⟨Nat.zero_le _, Or.inl rfl⟩
  | @object entries listed depth hlisted hentries =>
      obtain ⟨hbound, hnested⟩ := hlists listed depth hlisted
      refine ⟨Nat.succ_le_succ hbound, Or.inr ⟨_, rfl, ?_⟩⟩
      rcases hnested with rfl | ⟨⟨name, value⟩, hmember, hdepth⟩
      · rw [objectOf, Json.nesting]
        omega
      · exact Nat.succ_le_of_lt (Nat.lt_of_le_of_lt hdepth
          (nesting_lt_of_mem_objectOf (hentries.mem_iff.mpr hmember)))

end Decode

mutual

/-- In a block at most one more is open than in its document, and no more than it is nested. -/
theorem Block.depth_of_spelledAs :
    (block : Block) →
    {json : Json} →
    {depth : Nat} →
    block.SpelledAs json depth →
    depth ≤ block.nesting + 1 ∧ depth ≤ json.nesting
  | .node blockType fields inputs, json, depth, h => by
      obtain ⟨fieldsJson, fieldsDepth, inputsJson, inputsDepth, hrecord, hfields, hinputs, rfl⟩ := h
      obtain ⟨hfieldsBound, hfieldsNested⟩ := hfields.depth_le fields.nesting
        fun listed depth (hlisted : fields.ListedAs listed depth) =>
          ⟨hlisted.2 ▸ Nat.zero_le _, Or.inl hlisted.2⟩
      obtain ⟨hinputsBound, hinputsNested⟩ := hinputs.depth_le inputs.nesting
        fun listed depth hlisted => inputs.depth_of_listedAs hlisted
      have htype : ("type", some (Json.ofText blockType)) ∈ Decode.blockMembers.zip
          [some (Json.ofText blockType), fieldsJson, inputsJson] := by
        simp
      have hnesting := hrecord.nesting_lt htype
      have hopen : fieldsDepth < json.nesting := by
        rcases hfieldsNested with rfl | ⟨value, rfl, hdepth⟩
        · omega
        · have hfields : ("fields", some value) ∈ Decode.blockMembers.zip
              [some (.ofText blockType), some value, inputsJson] := by
            simp
          exact Nat.lt_of_le_of_lt hdepth (hrecord.nesting_lt hfields)
      have hdeep : inputsDepth < json.nesting := by
        rcases hinputsNested with rfl | ⟨value, rfl, hdepth⟩
        · omega
        · have hinputs : ("inputs", some value) ∈ Decode.blockMembers.zip
              [some (.ofText blockType), fieldsJson, some value] := by
            simp
          exact Nat.lt_of_le_of_lt hdepth (hrecord.nesting_lt hinputs)
      rw [Block.nesting]
      omega

theorem Inputs.depth_of_listedAs :
    (inputs : Inputs) →
    {listed : List (String × Json)} →
    {depth : Nat} →
    inputs.ListedAs listed depth →
    depth ≤ inputs.nesting ∧ (depth = 0 ∨ ∃ member ∈ listed, depth ≤ member.2.nesting)
  | .empty, listed, depth, h => ⟨h.2 ▸ Nat.zero_le _, Or.inl h.2⟩
  | .plug slot child rest, listed, depth, h => by
      obtain ⟨json, others, childDepth, restDepth, rfl, hchild, hrest, rfl⟩ := h
      obtain ⟨hchildBound, hchildNested⟩ := child.depth_of_spelledAs hchild
      obtain ⟨hrestBound, hrestNested⟩ := rest.depth_of_listedAs hrest
      refine ⟨by rw [Inputs.nesting]; omega, ?_⟩
      rcases Nat.le_total restDepth childDepth with hle | hle
      · rw [Nat.max_eq_left hle]
        exact Or.inr ⟨_, List.mem_cons_self, hchildNested⟩
      · rw [Nat.max_eq_right hle]
        exact hrestNested.imp_right fun hdeep => by
          obtain ⟨member, hmember, hdepth⟩ := hdeep
          exact ⟨member, List.mem_cons_of_mem _ hmember, hdepth⟩

end

theorem Block.depth_of_allSpelledAs
    {blocks : List Block}
    {items : List Json}
    {depth : Nat}
    (h : Block.AllSpelledAs blocks items depth) :
    depth ≤ Json.itemNesting (blocks.map Block.toJson) + 1 ∧ depth ≤ Json.itemNesting items := by
  induction h with
  | nil =>
      exact ⟨Nat.zero_le _, Nat.le_refl _⟩
  | @cons block blocks json items depth restDepth hblock _ ih =>
      obtain ⟨hbound, hnested⟩ := block.depth_of_spelledAs hblock
      rw [← block.textual_toJson.2] at hbound
      rw [List.map_cons, Json.itemNesting, Json.itemNesting]
      omega

/--
In what is read of a program at most one more is open than in its document, and no more than is
open in the text at all.
-/
theorem Program.depth_of_spelledAs
    {program : Program}
    {json : Json}
    {depth : Nat}
    (h : program.SpelledAs json depth) :
    depth ≤ program.toJson.nesting + 1 ∧ depth ≤ json.nesting := by
  cases h with
  | leftOut hrecord =>
      have hnesting : 1 ≤ json.nesting := by
        cases hrecord <;> simp [Decode.objectOf, Json.nesting]
      exact ⟨by decide, hnesting⟩
  | @blocks blocks items json depth hrecord hitems =>
      obtain ⟨hbound, hnested⟩ := Block.depth_of_allSpelledAs hitems
      have hgiven : ("blocks", some (Json.array items)) ∈ Decode.programMembers.zip
          [some (Json.array items)] := by
        simp
      have hblocks := hrecord.nesting_lt hgiven
      have hnesting := toJson_nesting ⟨blocks⟩
      rw [Json.nesting] at hblocks
      simp only at hnesting
      omega

namespace Decode

/-- Whether a record has a member of that name and value, as an object or as an array. -/
def Gives
    (names : List String) :
    Json → String → Json → Prop
  | .object members, name, value => (some name, value) ∈ members
  | .array items, name, value => (name, value) ∈ names.zip items
  | _, _, _ => False

/-- Whether a record is written with a member twice, or with `null` as the value of one. -/
inductive IsFaulty (names : List String) : Json → Prop
  | twice
      {members : List (Option String × Json)}
      {name : String}
      (hname : name ∈ names)
      (htwice : 2 ≤ (members.map Prod.fst).count (some name)) :
      IsFaulty names (.object members)
  | null
      {json : Json}
      {name : String}
      (hname : name ∈ names)
      (hnull : Gives names json name .null) :
      IsFaulty names json

/-- The records in a value that is read as a program: the program and its blocks at every depth. -/
inductive HasRecord (json : Json) : List String → Json → Prop
  | program :
      HasRecord json programMembers json
  | block
      {program item : Json}
      {items : List Json}
      (hprogram : HasRecord json programMembers program)
      (hblocks : Gives programMembers program "blocks" (.array items))
      (hitem : item ∈ items) :
      HasRecord json blockMembers item
  | input
      {block child : Json}
      {slot : Option String}
      {members : List (Option String × Json)}
      (hblock : HasRecord json blockMembers block)
      (hinputs : Gives blockMembers block "inputs" (.object members))
      (hchild : (slot, child) ∈ members) :
      HasRecord json blockMembers child

theorem member?_of_mem
    {members : List (String × Json)}
    {name : String}
    {found : Option Json}
    (h : member? members name = some found)
    {value : Json}
    (hmem : (name, value) ∈ members) :
    found = some value := by
  have hfiltered : (name, value) ∈ members.filter fun member => member.1 = name :=
    List.mem_filter.mpr ⟨hmem, by simp⟩
  unfold member? at h
  split at h
  · rename_i hnone
    rw [hnone] at hfiltered
    cases hfiltered
  · rename_i member hone
    rw [hone, List.mem_singleton] at hfiltered
    rw [← Option.some.inj h, ← hfiltered]
  · cases h

/-- The values of a record that is read are those that it gives. -/
theorem record?_gives
    {names : List String}
    {json : Json}
    {values : List (Option Json)}
    (h : record? names json = some values)
    {name : String}
    (hname : name ∈ names)
    {value : Json}
    (hvalue : Gives names json name value) :
    (name, some value) ∈ names.zip values := by
  cases json with
  | object members =>
      obtain ⟨named, hnamed, hvalues⟩ := Option.bind_eq_some_iff.mp h
      rw [names?_eq_some_iff] at hnamed
      have hmem : (name, value) ∈ named := by
        simpa [Gives, hnamed] using hvalue
      obtain ⟨hlength, hfound⟩ := List.forall₂_iff_zip.mp (forall₂_of_mapM hvalues)
      obtain ⟨i, hi, rfl⟩ := List.mem_iff_getElem.mp hname
      have hentry : (names[i], values[i]) ∈ names.zip values := by
        rw [← List.getElem_zip (h := by simpa [← hlength] using hi)]
        exact List.getElem_mem _
      rwa [member?_of_mem (hfound hentry) hmem] at hentry
  | array items =>
      rw [record?] at h
      split at h
      · cases h
        obtain ⟨i, hi⟩ := List.mem_iff_getElem?.mp hvalue
        rw [List.getElem?_zip_eq_some] at hi
        refine List.mem_iff_getElem?.mpr ⟨i, List.getElem?_zip_eq_some.mpr ⟨hi.1, ?_⟩⟩
        rw [List.getElem?_append_left, List.getElem?_map, hi.2]
        · rfl
        · obtain ⟨hlt, _⟩ := List.getElem?_eq_some_iff.mp hi.2
          simpa using hlt
      · cases h
  | _ =>
      cases hvalue

/-- A record that is read gives no member twice. -/
theorem count_of_record?
    {names : List String}
    {members : List (Option String × Json)}
    {values : List (Option Json)}
    (h : record? names (.object members) = some values)
    {name : String}
    (hname : name ∈ names) :
    (members.map Prod.fst).count (some name) ≤ 1 := by
  obtain ⟨named, hnamed, hvalues⟩ := Option.bind_eq_some_iff.mp h
  rw [names?_eq_some_iff] at hnamed
  obtain ⟨found, hfound⟩ := exists_of_mem_items hvalues hname
  have hcount : (members.map Prod.fst).count (some name) =
      (named.filter fun member => member.1 = name).length := by
    rw [hnamed, List.map_map, List.count_eq_countP, List.countP_map, List.countP_eq_length_filter]
    congr 2
  rw [hcount]
  unfold member? at hfound
  split at hfound
  · rename_i hnone
    rw [hnone]
    exact Nat.zero_le 1
  · rename_i hone
    rw [hone]
    exact Nat.le_refl 1
  · cases hfound

/-- A record with a fault that is read has `null` among its values. -/
theorem IsFaulty.null_mem
    {names : List String}
    {json : Json}
    (h : IsFaulty names json)
    {values : List (Option Json)}
    (hvalues : record? names json = some values) :
    some .null ∈ values := by
  cases h with
  | twice hname htwice =>
      have hcount := count_of_record? hvalues hname
      omega
  | null hname hnull =>
      exact (List.of_mem_zip (record?_gives hvalues hname hnull)).2

/-- No program with a fault is read. -/
theorem not_isFaulty_of_program?
    {json : Json}
    {program : Program}
    (h : program? json = some program) :
    ¬ IsFaulty programMembers json := by
  intro hfaulty
  obtain ⟨blocksJson, blocks, hrecord, hblocks, _⟩ := parts_of_program? h
  obtain rfl : some .null = blocksJson := by simpa using hfaulty.null_mem hrecord
  cases hblocks

/-- No block with a fault is read. -/
theorem not_isFaulty_of_block?
    {limit : Nat}
    {json : Json}
    {block : Block}
    (h : block? limit json = some block) :
    ¬ IsFaulty blockMembers json := by
  intro hfaulty
  obtain ⟨limit, typeJson, fieldsJson, inputsJson, blockType, fields, inputs, rfl, hrecord, htype,
    hfields, hinputs, _⟩ := parts_of_block? h
  have hnull : some .null = typeJson ∨ some .null = fieldsJson ∨ some .null = inputsJson := by
    simpa using hfaulty.null_mem hrecord
  rcases hnull with rfl | rfl | rfl
  · cases htype
  · cases hfields
  · cases limit <;> cases hinputs

/-- In a value that is read as a program each record is read, as the program or as a block. -/
theorem HasRecord.isRead
    {json : Json}
    {program : Program}
    (h : program? json = some program)
    {names : List String}
    {record : Json}
    (hrecord : HasRecord json names record) :
    (names = programMembers ∧ record = json) ∨
    (names = blockMembers ∧ ∃ limit block, block? limit record = some block) := by
  induction hrecord with
  | program =>
      exact Or.inl ⟨rfl, rfl⟩
  | @block record item items _ hblocks hitem ih =>
      obtain ⟨_, rfl⟩ := ih.resolve_right fun hblock => absurd hblock.1 (by decide)
      obtain ⟨blocksJson, blocks, hvalues, hread, _⟩ := parts_of_program? h
      have hgiven := record?_gives hvalues List.mem_cons_self hblocks
      obtain rfl : some (.array items) = blocksJson := by simpa using hgiven
      exact Or.inr ⟨rfl, 125, exists_of_mem_items hread hitem⟩
  | @input record child slot members _ hinputs hchild ih =>
      obtain ⟨_, limit, block, hblock⟩ := ih.resolve_left fun hprogram =>
        absurd hprogram.1 (by decide)
      obtain ⟨limit, typeJson, fieldsJson, inputsJson, blockType, fields, inputs, rfl, hvalues, _,
        _, hread, _⟩ := parts_of_block? hblock
      have hgiven := record?_gives hvalues (by simp) hinputs
      obtain rfl : some (.object members) = inputsJson := by simpa using hgiven
      cases limit with
      | zero =>
          cases hread
      | succ limit =>
          obtain ⟨named, hnamed, hread⟩ := Option.bind_eq_some_iff.mp hread
          rw [names?_eq_some_iff.mp hnamed] at hchild
          obtain ⟨⟨name, _⟩, hmem, heq⟩ := List.mem_map.mp hchild
          obtain ⟨_, rfl⟩ := Prod.mk.inj heq
          obtain ⟨plugged, hplugged⟩ := exists_of_mem_items hread hmem
          obtain ⟨inner, hinner, _⟩ := Option.map_eq_some_iff.mp hplugged
          exact Or.inr ⟨rfl, limit, inner, hinner⟩

end Decode

namespace Program

/-- A text with a fault in one of its records is read as no program. -/
theorem ofString?_of_isFaulty
    {json : Json}
    {text : String}
    (htext : json.WrittenAs text)
    {names : List String}
    {record : Json}
    (hrecord : Decode.HasRecord json names record)
    (hfaulty : Decode.IsFaulty names record) :
    ofString? text = none := by
  refine Option.eq_none_iff_forall_ne_some.mpr fun program hprogram => ?_
  rw [ofString?, Json.ofString?_of_writtenAs htext] at hprogram
  rcases hrecord.isRead hprogram with ⟨rfl, rfl⟩ | ⟨rfl, limit, block, hblock⟩
  · exact Decode.not_isFaulty_of_program? hprogram hfaulty
  · exact Decode.not_isFaulty_of_block? hblock hfaulty

/-- A text that is one of the ways to write a program is read as it, within the limit. -/
theorem ofString?_of_spelledAs
    {program : Program}
    (horder : program.InOrder)
    {json : Json}
    {depth : Nat}
    (hjson : program.SpelledAs json depth)
    {text : String}
    (htext : json.WrittenAs text) :
    ofString? text = if depth ≤ 127 then some program else none := by
  rw [ofString?, Json.ofString?_of_writtenAs htext]
  exact program?_of_spelledAs horder hjson

/--
Each text that is one of the ways to write a program is read as this program, if in what is read of
it at most 127 arrays and objects are open at once, and is refused otherwise. No more are open there
than in the whole text, and at most one more than in the document of the program. A text with a
member given twice, or with `null` as the value of one, in one of its records is refused.
-/
theorem spellings_read :
    (∀ (program : Program) (json : Json) (depth : Nat) (text : String),
      program.InOrder →
      program.SpelledAs json depth →
      json.WrittenAs text →
      ofString? text = (if depth ≤ 127 then some program else none) ∧
      depth ≤ json.nesting ∧
      depth ≤ program.toJson.nesting + 1) ∧
    (∀ (json : Json) (names : List String) (record : Json) (text : String),
      Decode.HasRecord json names record →
      Decode.IsFaulty names record →
      json.WrittenAs text →
      ofString? text = none) := by
  constructor
  · intro program json depth text horder hjson htext
    obtain ⟨hbound, hnested⟩ := depth_of_spelledAs hjson
    exact ⟨ofString?_of_spelledAs horder hjson htext, hnested, hbound⟩
  · intro json names record text hrecord hfaulty htext
    exact ofString?_of_isFaulty htext hrecord hfaulty

/--
A program and its block as arrays and objects, with a member that is passed over, a blank and an
escape that are not needed; and `null` for the blocks.
-/
theorem spellings_read_array :
    let program : Program := ⟨[.node "t" [] .empty]⟩
    let json : Json :=
      .array [.array [Decode.objectOf [("x", .null), ("type", .ofText "t")]]]
    let text := "[[\x7b\"x\":null, \"\\u0074ype\":\"t\"\x7d]]"
    (program.InOrder ∧ program.SpelledAs json 3 ∧ json.WrittenAs text ∧
      ofString? text = some program) ∧
    (Decode.IsFaulty Decode.programMembers (.array [.null]) ∧
      (Json.array [.null]).WrittenAs "[null]" ∧
      ofString? "[null]" = none) := by
  intro program json text
  have horder : program.InOrder := by
    intro block hblock
    obtain rfl := List.mem_singleton.mp hblock
    exact ⟨List.Pairwise.nil, List.Pairwise.nil, trivial⟩
  have hblock : Block.SpelledAs (.node "t" [] .empty)
      (Decode.objectOf [("x", .null), ("type", .ofText "t")]) 1 := by
    refine ⟨none, 0, none, 0, ?_, .leftOut ⟨rfl, rfl⟩, .leftOut ⟨rfl, rfl⟩, rfl⟩
    have hmembers : [("x", Json.null), ("type", .ofText "t")].Perm
        (Decode.given Decode.blockMembers [some (.ofText "t"), none, none] ++ [("x", .null)]) :=
      .swap _ _ _
    exact .object (by decide) hmembers
  have hspelled : program.SpelledAs json 3 :=
    .blocks (@Decode.RecordSpelling.array _ _ _ 0 rfl) (.cons hblock .nil)
  have hclosing : Json.Lays [.closeArray] [']'] := .mark .closeArray ']' (by decide) .empty
  have htype : (Json.Token.string (some "type")).SpelledAs
      ['\x22', '\\', 'u', '0', '0', '7', '4', 'y', 'p', 'e', '\x22'] := by
    have hdigits : Json.IsHex 't'.toNat ['0', '0', '7', '4'] := ⟨rfl, [0, 0, 7, 4], rfl, rfl⟩
    have hplain : Json.BodySpelling [.char 'y', .char 'p', .char 'e'] ['y', 'p', 'e'] :=
      .cons (.plain (by decide) (by decide) (by decide)) <|
      .cons (.plain (by decide) (by decide) (by decide)) <|
      .cons (.plain (by decide) (by decide) (by decide)) .nil
    have hbody := Json.BodySpelling.cons (.unicode hdigits) hplain
    exact .text hbody (.unit 't' (.char 'y' (.char 'p' (.char 'e' .nil))))
  have hwritten : json.WrittenAs text := by
    have hblank : ∀ c ∈ [' '], c ∈ Json.blanks := List.forall_mem_singleton.mpr (by decide)
    have hend := Json.Lays.mark .closeObject '\x7d' (by decide) <|
      .mark .closeArray ']' (by decide) hclosing
    have hmember := (Json.Lays.token htype).append <| .mark .colon ':' (by decide) <|
      (Json.Lays.token (Json.spelledAs_literal "t")).append hend
    have hother := (Json.Lays.token (Json.spelledAs_literal "x")).append <|
      .mark .colon ':' (by decide) <| (Json.Lays.token .null).append <|
      .mark .comma ',' (by decide) <| hmember.blank_append hblank
    have hwhole := Json.Lays.mark .openArray '[' (by decide) <|
      .mark .openArray '[' (by decide) <| .mark .openObject '\x7b' (by decide) hother
    simp only [Json.WrittenAs, text]
    exact hwhole
  have hnull : (Json.array [.null]).WrittenAs "[null]" :=
    .mark .openArray '[' (by decide) ((Json.Lays.token .null).append hclosing)
  have hfaulty : Decode.IsFaulty Decode.programMembers (.array [.null]) :=
    .null List.mem_cons_self List.mem_cons_self
  obtain ⟨hread, _⟩ := spellings_read.1 program json 3 text horder hspelled hwritten
  exact ⟨⟨horder, hspelled, hwritten, hread⟩, hfaulty, hnull,
    spellings_read.2 _ _ _ _ .program hfaulty hnull⟩

end Program

/-- Blocks plugged into each other, so many below the outermost one. -/
def Block.tower : Nat → Block
  | 0 => .node "t" [] .empty
  | height + 1 => .node "t" [] (.plug "A" (tower height) .empty)

/-- The same blocks as objects, with the fields written where the innermost one has none. -/
def Block.towerJson : Nat → Json
  | 0 => Decode.objectOf [("type", .ofText "t"), ("fields", Decode.objectOf [])]
  | height + 1 =>
      Decode.objectOf
        [("type", .ofText "t"), ("inputs", Decode.objectOf [("A", towerJson height)])]

/-- Where the empty fields are written, one more is open than in the document of the blocks. -/
theorem Block.spelledAs_towerJson
    (height : Nat) :
    (tower height).SpelledAs (towerJson height) (2 * height + 2) ∧
    (tower height).nesting = 2 * height + 1 := by
  induction height with
  | zero =>
      have hfields : Decode.MapSpelling (Fields.ListedAs []) (some (Decode.objectOf [])) 1 :=
        .object ⟨rfl, rfl⟩ .nil
      exact ⟨⟨_, 1, none, 0, .object (List.forall_mem_nil _) (.refl _), hfields,
        .leftOut ⟨rfl, rfl⟩, rfl⟩, rfl⟩
  | succ height ih =>
      obtain ⟨hspelled, hnesting⟩ := ih
      have hlisted : (Inputs.plug "A" (tower height) .empty).ListedAs
          [("A", towerJson height)] (2 * height + 2) :=
        ⟨_, [], _, 0, rfl, hspelled, ⟨rfl, rfl⟩, rfl⟩
      refine ⟨⟨none, 0, _, _, .object (List.forall_mem_nil _) (.refl _), .leftOut ⟨rfl, rfl⟩,
        .object hlisted (.refl _), ?_⟩, ?_⟩
      · omega
      · rw [tower, Block.nesting, Inputs.nesting, Inputs.nesting, hnesting]
        rfl

theorem Block.inOrder_tower
    (height : Nat) :
    (tower height).InOrder := by
  induction height with
  | zero =>
      exact ⟨List.Pairwise.nil, List.Pairwise.nil, trivial⟩
  | succ height ih =>
      exact ⟨List.Pairwise.nil, List.pairwise_singleton _ _, ih, trivial⟩

theorem Block.textual_towerJson
    (height : Nat) :
    (towerJson height).IsTextual := by
  induction height with
  | zero =>
      exact ⟨rfl, rfl, rfl, trivial, trivial⟩
  | succ height ih =>
      exact ⟨rfl, rfl, rfl, ⟨rfl, ih, trivial⟩, trivial⟩

/--
A program in whose document 127 arrays and objects are open at once is not read from the text that
writes the empty fields of its innermost block: there the object for them is one too many.
-/
theorem Program.spelling_refused :
    let program : Program := ⟨[Block.tower 62]⟩
    let json := Decode.objectOf [("blocks", .array [Block.towerJson 62])]
    program.InOrder ∧
    program.toJson.nesting = 127 ∧
    program.SpelledAs json 128 ∧
    json.WrittenAs json.pretty ∧
    ofString? json.pretty = none := by
  intro program json
  obtain ⟨hblock, hnesting⟩ := Block.spelledAs_towerJson 62
  have horder : program.InOrder := List.forall_mem_singleton.mpr (Block.inOrder_tower 62)
  have hspelled : program.SpelledAs json 128 :=
    .blocks (.object (List.forall_mem_nil _) (.refl _)) (.cons hblock .nil)
  have htextual : json.IsTextual := ⟨rfl, ⟨Block.textual_towerJson 62, trivial⟩, trivial⟩
  have hwritten := Json.writtenAs_pretty htextual
  refine ⟨horder, ?_, hspelled, hwritten, ?_⟩
  · rw [toJson_nesting]
    show max (Block.tower 62).toJson.nesting 0 + 2 = 127
    rw [(Block.tower 62).textual_toJson.2, hnesting]
    rfl
  · rw [ofString?_of_spelledAs horder hspelled hwritten]
    rfl

end MathBlocks
