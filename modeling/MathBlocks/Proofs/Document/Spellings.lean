import MathBlocks.Document.Decode
import MathBlocks.Proofs.Block.InOrder
import MathBlocks.Proofs.Traversal

/-!
# The ways to write a program as a JSON value

A record may be an object with its members in any order and others beside them, or an array of its
members in the order of their names, of which those at the end may be left out. A map may have its
entries in any order, and may be left out where it has none. `Program.SpelledAs` lists what these
freedoms make of a program, and counts the arrays and objects that are open at once in what is
read; what stands beside the members of a record is passed over and does not count.

Whatever the way, the value is read as the program, if the count stays within the limit.
-/

namespace MathBlocks
namespace Decode

/-- The names of the members of a program. -/
abbrev programMembers : List String :=
  ["blocks"]

/-- The names of the members of a block. -/
abbrev blockMembers : List String :=
  ["type", "fields", "inputs"]

/-- The members of a record that are given, with their names. -/
def given
    (names : List String)
    (values : List (Option Json)) : List (String × Json) :=
  (names.zip values).filterMap fun entry => entry.2.map fun value => (entry.1, value)

/-- Members with their names as an object. -/
def objectOf (members : List (String × Json)) : Json :=
  .object (members.map fun member => (some member.1, member.2))

/-- The ways to write a record whose members have these values or are left out. -/
inductive RecordSpelling
    (names : List String)
    (values : List (Option Json)) : Json → Prop
  /-- In any order, with any members beside them that have other names. -/
  | object
      {members others : List (String × Json)}
      (hothers : ∀ other ∈ others, other.1 ∉ names)
      (hmembers : members.Perm (given names values ++ others)) :
      RecordSpelling names values (objectOf members)
  /-- In the order of the names, up to the last one that is given. -/
  | array
      {items : List Json}
      {missing : Nat}
      (hitems : values = items.map some ++ List.replicate missing none) :
      RecordSpelling names values (.array items)

/--
The ways to write a map, or to leave it out: `Lists` says how its entries are written one after the
other, and how many arrays and objects are open at once in them.
-/
inductive MapSpelling (Lists : List (String × Json) → Nat → Prop) : Option Json → Nat → Prop
  | leftOut
      (hempty : Lists [] 0) :
      MapSpelling Lists none 0
  | object
      {entries listed : List (String × Json)}
      {depth : Nat}
      (hlisted : Lists listed depth)
      (hentries : entries.Perm listed) :
      MapSpelling Lists (some (objectOf entries)) (depth + 1)

end Decode

/-- How the entries of fields are written: as texts, in which nothing is open. -/
def Fields.ListedAs
    (fields : Fields)
    (listed : List (String × Json))
    (depth : Nat) : Prop :=
  listed = fields.map (fun field => (field.1, .ofText field.2)) ∧ depth = 0

mutual

/-- Whether a value is a way to write a block, with so many arrays and objects open at once. -/
def Block.SpelledAs : Block → Json → Nat → Prop
  | .node blockType fields inputs, json, depth =>
      ∃ fieldsJson fieldsDepth inputsJson inputsDepth,
        Decode.RecordSpelling Decode.blockMembers
          [some (.ofText blockType), fieldsJson, inputsJson] json ∧
        Decode.MapSpelling fields.ListedAs fieldsJson fieldsDepth ∧
        Decode.MapSpelling inputs.ListedAs inputsJson inputsDepth ∧
        depth = max fieldsDepth inputsDepth + 1

/-- How the blocks plugged in are written, each of them in one of the ways to write it. -/
def Inputs.ListedAs : Inputs → List (String × Json) → Nat → Prop
  | .empty, listed, depth => listed = [] ∧ depth = 0
  | .plug slot child rest, listed, depth =>
      ∃ json others childDepth restDepth,
        listed = (slot, json) :: others ∧
        child.SpelledAs json childDepth ∧
        rest.ListedAs others restDepth ∧
        depth = max childDepth restDepth

end

/-- How the blocks of a program are written, each of them in one of the ways to write it. -/
inductive Block.AllSpelledAs : List Block → List Json → Nat → Prop
  | nil :
      AllSpelledAs [] [] 0
  | cons
      {block : Block}
      {blocks : List Block}
      {json : Json}
      {items : List Json}
      {depth restDepth : Nat}
      (hblock : block.SpelledAs json depth)
      (hrest : AllSpelledAs blocks items restDepth) :
      AllSpelledAs (block :: blocks) (json :: items) (max depth restDepth)

/-- Whether a value is a way to write a program, with so many arrays and objects open at once. -/
inductive Program.SpelledAs : Program → Json → Nat → Prop
  | leftOut
      {json : Json}
      (hrecord : Decode.RecordSpelling Decode.programMembers [none] json) :
      SpelledAs ⟨[]⟩ json 1
  | blocks
      {blocks : List Block}
      {items : List Json}
      {json : Json}
      {depth : Nat}
      (hrecord : Decode.RecordSpelling Decode.programMembers [some (.array items)] json)
      (hitems : Block.AllSpelledAs blocks items depth) :
      SpelledAs ⟨blocks⟩ json (depth + 2)

namespace Decode

/-- The names of members are those that an object of them is made with. -/
theorem names?_eq_some_iff
    {members : List (Option String × Json)}
    {named : List (String × Json)} :
    names? members = some named ↔
      members = named.map fun member => (some member.1, member.2) := by
  constructor
  · intro h
    have hall := forall₂_of_mapM h
    clear h
    induction hall with
    | nil =>
        rfl
    | cons hfirst _ ih =>
        obtain ⟨name, hname, rfl⟩ := Option.map_eq_some_iff.mp hfirst
        rw [ih, List.map_cons, ← hname]
  · rintro rfl
    have hnamed := mapM_of_forall fun (member : String × Json) (_ : member ∈ named) =>
      (rfl : ((some member.1).map fun name => (name, member.2)) = some member)
    unfold names?
    rw [List.mapM_map]
    rwa [List.map_id'] at hnamed

/-- The parts of a block that is read. -/
theorem parts_of_block?
    {limit : Nat}
    {json : Json}
    {block : Block}
    (h : block? limit json = some block) :
    ∃ inside typeJson fieldsJson inputsJson blockType fields inputs,
      limit = inside + 1 ∧
      record? blockMembers json = some [typeJson, fieldsJson, inputsJson] ∧
      typeJson.bind Json.text? = some blockType ∧
      orElse [] (entries? inside text?) fieldsJson = some fields ∧
      inputs? inside inputsJson = some inputs ∧
      block = .node blockType (Fields.ofList fields) (Inputs.ofList inputs) := by
  cases limit with
  | zero =>
      rw [block?] at h
      cases h
  | succ inside =>
      rw [block?] at h
      obtain ⟨values, hvalues, h⟩ := Option.bind_eq_some_iff.mp h
      split at h
      · simp only [Option.bind_eq_bind, Option.bind_eq_some_iff] at h
        obtain ⟨blockType, htype, fields, hfields, inputs, hinputs, hblock⟩ := h
        exact ⟨inside, _, _, _, blockType, fields, inputs, rfl, hvalues,
          Option.bind_eq_some_iff.mpr htype, hfields, hinputs, (Option.some.inj hblock).symm⟩
      · cases h

/-- The blocks of a program that is read. -/
theorem parts_of_program?
    {json : Json}
    {program : Program}
    (h : program? json = some program) :
    ∃ blocksJson blocks,
      record? programMembers json = some [blocksJson] ∧
      orElse [] (items? (depthLimit - 1) block?) blocksJson = some blocks ∧
      program = ⟨blocks⟩ := by
  rw [program?] at h
  obtain ⟨values, hvalues, h⟩ := Option.bind_eq_some_iff.mp h
  rcases values with _ | ⟨blocksJson, _ | _⟩
  · cases h
  · obtain ⟨blocks, hblocks, hprogram⟩ := Option.bind_eq_some_iff.mp h
    exact ⟨blocksJson, blocks, hvalues, hblocks, (Option.some.inj hprogram).symm⟩
  · cases h

theorem mem_given
    {names : List String}
    {values : List (Option Json)}
    {member : String × Json} :
    member ∈ given names values ↔ (member.1, some member.2) ∈ names.zip values := by
  simp only [given, List.mem_filterMap, Option.map_eq_some_iff]
  constructor
  · rintro ⟨⟨name, _⟩, hentry, value, rfl, rfl⟩
    exact hentry
  · exact fun h => ⟨_, h, member.2, rfl, rfl⟩

theorem given_cons
    (name : String)
    (names : List String)
    (value : Option Json)
    (values : List (Option Json)) :
    given (name :: names) (value :: values) =
      (value.map fun value => (name, value)).toList ++ given names values := by
  cases value <;> rfl

/-- Of the members that are given one has this name, if it is given. -/
theorem filter_given
    {names : List String}
    (hnames : names.Nodup)
    {values : List (Option Json)}
    {name : String}
    {value : Option Json}
    (h : (name, value) ∈ names.zip values) :
    (given names values).filter (fun member => member.1 = name) =
      (value.map fun value => (name, value)).toList := by
  induction names generalizing values with
  | nil =>
      cases h
  | cons first rest ih =>
      obtain ⟨hfirst, hrest⟩ := List.nodup_cons.mp hnames
      cases values with
      | nil =>
          cases h
      | cons firstValue restValues =>
          rw [given_cons, List.filter_append]
          rcases List.mem_cons.mp h with heq | hmem
          · obtain ⟨rfl, rfl⟩ := Prod.mk.inj heq
            have hothers : (given rest restValues).filter (fun member => member.1 = name) = [] := by
              refine List.filter_eq_nil_iff.mpr fun member hmember hname => ?_
              have hmem := (List.of_mem_zip (mem_given.mp hmember)).1
              rw [of_decide_eq_true hname] at hmem
              exact hfirst hmem
            rw [hothers, List.append_nil]
            cases value <;> simp
          · have hne : first ≠ name := by
              rintro rfl
              exact hfirst (List.of_mem_zip hmem).1
            rw [ih hrest hmem]
            cases firstValue <;> simp [hne]

/-- A member is found by its name among the members of a record, in any order. -/
theorem member?_of_perm
    {names : List String}
    (hnames : names.Nodup)
    {values : List (Option Json)}
    {members others : List (String × Json)}
    (hothers : ∀ other ∈ others, other.1 ∉ names)
    (hmembers : members.Perm (given names values ++ others))
    {name : String}
    {value : Option Json}
    (h : (name, value) ∈ names.zip values) :
    member? members name = some value := by
  have hbeside : others.filter (fun member => member.1 = name) = [] := by
    refine List.filter_eq_nil_iff.mpr fun other hother hname => ?_
    rw [← of_decide_eq_true hname] at h
    exact hothers other hother (List.of_mem_zip h).1
  have hfound := hmembers.filter fun member => member.1 = name
  rw [List.filter_append, filter_given hnames h, hbeside, List.append_nil] at hfound
  unfold member?
  cases value with
  | none =>
      rw [hfound.eq_nil]
  | some value =>
      rw [List.perm_singleton.mp hfound]

/-- The values of the members of a record are read from any way to write it. -/
theorem RecordSpelling.record?
    {names : List String}
    {values : List (Option Json)}
    {json : Json}
    (h : RecordSpelling names values json)
    (hnames : names.Nodup)
    (hlength : names.length = values.length) :
    Decode.record? names json = some values := by
  cases h with
  | @object members others hothers hmembers =>
      have hvalues : List.Forall₂ (fun name value => member? members name = some value)
          names values :=
        List.forall₂_iff_zip.mpr ⟨hlength, member?_of_perm hnames hothers hmembers⟩
      rw [objectOf, Decode.record?, names?_eq_some_iff.mpr rfl]
      exact mapM_of_forall₂ hvalues
  | @array items missing hitems =>
      have hcount : names.length = items.length + missing := by
        rw [hlength, hitems]
        simp
      have hmissing : names.length - items.length = missing := by
        omega
      rw [Decode.record?, if_pos (by omega), hmissing, hitems]

/-- Items are read within a limit if the first one is and the others are. -/
theorem mapM_cons_within
    {α β : Type}
    {read? : α → Option β}
    {item : α}
    {rest : List α}
    {result : β}
    {results : List β}
    {depth restDepth limit : Nat}
    (hitem : read? item = if depth ≤ limit then some result else none)
    (hrest : rest.mapM read? = if restDepth ≤ limit then some results else none) :
    (item :: rest).mapM read? =
      if max depth restDepth ≤ limit then some (result :: results) else none := by
  rw [List.mapM_cons, hitem, hrest]
  simp only [Nat.max_le]
  by_cases hdeep : depth ≤ limit
  · by_cases hothers : restDepth ≤ limit
    · simp [hdeep, hothers]
    · simp [hdeep, hothers]
  · simp [hdeep]

/-- The entries of a map are read from any way to write it, if an object may be open. -/
theorem MapSpelling.entries?
    {α : Type}
    {read? : Nat → Json → Option α}
    {Lists : List (String × Json) → Nat → Prop}
    {entries : List (String × α)}
    (hlists : ∀ listed depth limit,
      Lists listed depth →
      (listed.mapM fun member => (read? limit member.2).map fun entry => (member.1, entry)) =
        if depth ≤ limit then some entries else none)
    {json : Option Json}
    {depth : Nat}
    (h : MapSpelling Lists json depth)
    (limit : Nat) :
    ∃ found,
      found.Perm entries ∧
      orElse [] (Decode.entries? limit read?) json =
        if depth ≤ limit then some found else none := by
  cases h with
  | leftOut hempty =>
      have hentries : entries = [] := by
        simpa using (hlists [] 0 0 hempty).symm
      refine ⟨[], hentries ▸ .nil, ?_⟩
      rw [if_pos (Nat.zero_le limit)]
      rfl
  | @object written listed depth hlisted hwritten =>
      cases limit with
      | zero =>
          refine ⟨entries, .refl entries, ?_⟩
          rw [if_neg (Nat.not_succ_le_zero depth)]
          rfl
      | succ limit =>
          have hread := hlists listed depth limit hlisted
          rw [orElse, objectOf, Decode.entries?, names?_eq_some_iff.mpr rfl]
          simp only [Nat.succ_le_succ_iff, Option.bind_eq_bind, Option.bind_some]
          by_cases hdepth : depth ≤ limit
          · rw [if_pos hdepth] at hread
            obtain ⟨found, hfound, hperm⟩ := mapM_perm hwritten.symm hread
            exact ⟨found, hperm.symm, by rw [hfound, if_pos hdepth]⟩
          · rw [if_neg hdepth] at hread
            have hnone : (written.mapM fun member =>
                (read? limit member.2).map fun entry => (member.1, entry)) = none := by
              refine Option.eq_none_iff_forall_ne_some.mpr fun found hfound => ?_
              obtain ⟨results, hresults, _⟩ := mapM_perm hwritten hfound
              rw [hread] at hresults
              cases hresults
            exact ⟨entries, .refl entries, by rw [hnone, if_neg hdepth]⟩

/-- The inputs of a block are read as any map of blocks. -/
theorem inputs?_eq_orElse
    (limit : Nat)
    (json : Option Json) :
    inputs? limit json = orElse [] (Decode.entries? limit block?) json := by
  cases json with
  | none =>
      cases limit <;> rfl
  | some json =>
      cases limit <;> cases json <;> rfl

end Decode

/-- The entries of fields are texts. -/
theorem Fields.mapM_of_listedAs
    {fields : Fields}
    (listed : List (String × Json))
    (depth limit : Nat)
    (h : fields.ListedAs listed depth) :
    (listed.mapM fun member =>
        (Decode.text? limit member.2).map fun text => (member.1, text)) =
      if depth ≤ limit then some fields else none := by
  obtain ⟨rfl, rfl⟩ := h
  have htexts := mapM_of_forall fun (field : String × String) (_ : field ∈ fields) =>
    (rfl : ((Decode.text? limit (.ofText field.2)).map fun text => (field.1, text)) = some field)
  rw [if_pos (Nat.zero_le limit), List.mapM_map]
  rwa [List.map_id'] at htexts

mutual

/-- A block is read from any way to write it, if so many arrays and objects may be open. -/
theorem Block.block?_of_spelledAs :
    (block : Block) →
    block.InOrder →
    {json : Json} →
    {depth : Nat} →
    block.SpelledAs json depth →
    (limit : Nat) →
    Decode.block? limit json = if depth ≤ limit then some block else none
  | .node blockType fields inputs, _, json, depth, h, 0 => by
      obtain ⟨_, fieldsDepth, _, inputsDepth, _, _, _, rfl⟩ := h
      simp [Decode.block?]
  | .node blockType fields inputs, horder, json, depth, h, limit + 1 => by
      obtain ⟨hfieldsOrder, hinputsOrder, hchildren⟩ := horder
      obtain ⟨fieldsJson, fieldsDepth, inputsJson, inputsDepth, hrecord, hfields, hinputs, rfl⟩ := h
      obtain ⟨foundFields, hfieldsPerm, hfieldsRead⟩ :=
        hfields.entries? Fields.mapM_of_listedAs limit
      obtain ⟨foundInputs, hinputsPerm, hinputsRead⟩ :=
        hinputs.entries? (fun _ _ limit hlisted =>
          inputs.mapM_of_listedAs hchildren hlisted limit) limit
      have hdepth : max fieldsDepth inputsDepth + 1 ≤ limit + 1 ↔
          fieldsDepth ≤ limit ∧ inputsDepth ≤ limit := by
        omega
      rw [Decode.block?, hrecord.record? (by decide) rfl]
      simp only [Option.bind_eq_bind, Option.bind_some, Decode.inputs?_eq_orElse, hfieldsRead,
        hinputsRead, hdepth]
      by_cases hopen : fieldsDepth ≤ limit
      · by_cases hdeep : inputsDepth ≤ limit
        · simp [hopen, hdeep, Fields.ofList_of_perm hfieldsPerm hfieldsOrder,
            Inputs.ofList_of_perm hinputsPerm hinputsOrder, Json.ofText, Json.text?]
        · simp [hopen, hdeep, Json.ofText, Json.text?]
      · simp [hopen, Json.ofText, Json.text?]

/-- The blocks plugged in are read one by one, each from any way to write it. -/
theorem Inputs.mapM_of_listedAs :
    (inputs : Inputs) →
    inputs.InOrder →
    {listed : List (String × Json)} →
    {depth : Nat} →
    inputs.ListedAs listed depth →
    (limit : Nat) →
    (listed.mapM fun member =>
        (Decode.block? limit member.2).map fun child => (member.1, child)) =
      if depth ≤ limit then some inputs.toList else none
  | .empty, _, listed, depth, h, limit => by
      obtain ⟨rfl, rfl⟩ := h
      simp [Inputs.toList]
  | .plug slot child rest, horder, listed, depth, h, limit => by
      obtain ⟨json, others, childDepth, restDepth, rfl, hchild, hrest, rfl⟩ := h
      have hchildRead := child.block?_of_spelledAs horder.1 hchild limit
      refine Decode.mapM_cons_within ?_ (rest.mapM_of_listedAs horder.2 hrest limit)
      rw [hchildRead]
      split <;> rfl

end

/-- The blocks of a program are read one by one, each from any way to write it. -/
theorem Block.mapM_of_allSpelledAs
    {blocks : List Block}
    {items : List Json}
    {depth : Nat}
    (h : Block.AllSpelledAs blocks items depth)
    (horder : ∀ block ∈ blocks, block.InOrder)
    (limit : Nat) :
    items.mapM (Decode.block? limit) = if depth ≤ limit then some blocks else none := by
  induction h with
  | nil =>
      simp
  | @cons block blocks json items depth restDepth hblock _ ih =>
      obtain ⟨hfirst, hrest⟩ := List.forall_mem_cons.mp horder
      exact Decode.mapM_cons_within (block.block?_of_spelledAs hfirst hblock limit) (ih hrest)

/-- A program is read from any way to write it, if so many arrays and objects may be open. -/
theorem Program.program?_of_spelledAs
    {program : Program}
    (horder : program.InOrder)
    {json : Json}
    {depth : Nat}
    (h : program.SpelledAs json depth) :
    Decode.program? json = if depth ≤ Decode.depthLimit then some program else none := by
  cases h with
  | leftOut hrecord =>
      rw [Decode.program?, hrecord.record? (by decide) rfl]
      rfl
  | @blocks blocks items json depth hrecord hitems =>
      have hread := Block.mapM_of_allSpelledAs hitems horder 125
      have hdepth : depth + 2 ≤ Decode.depthLimit ↔ depth ≤ 125 := Nat.succ_le_succ_iff.trans
        Nat.succ_le_succ_iff
      rw [Decode.program?, hrecord.record? (by decide) rfl]
      show (items.mapM (Decode.block? 125)).bind (fun blocks => some (Program.mk blocks)) = _
      rw [hread]
      simp only [hdepth]
      by_cases hdeep : depth ≤ 125
      · simp [hdeep]
      · simp [hdeep]

end MathBlocks
