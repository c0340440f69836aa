import MathBlocks.Emit.Open
import MathBlocks.Proofs.Emit.Serving

/-!
# What open writers meet

Open writers decide which blocks are written. `OpenCustoms.Meets` says which these may be: the
blocks at the top level, and what is plugged in at the places that the recipe of a block met may
look into. Two sets of writers that agree on the types of these blocks write them alike.

The limit for the blocks under way inside each other takes no part in a result: a greater one gives
the same result. Writers that ask about their own block only need no greater one than the blocks
are high, and write what they write without a limit. Under any limit the pass is only asked for
helpers and for variables.
-/

namespace MathBlocks

/-- Whether a recipe may come to look into a place, for some answers to what it asks before. -/
inductive Recipe.LooksInto
    {κ α : Type}
    (place : κ) :
    Recipe κ α → Prop where
  | here
      {allowed : BindingLevel}
      {next : Except Fault (Option String) → Recipe κ α} :
      LooksInto place (.operand place allowed next)
  | operand
      {other : κ}
      {allowed : BindingLevel}
      {next : Except Fault (Option String) → Recipe κ α}
      (answer : Except Fault (Option String))
      (h : LooksInto place (next answer)) :
      LooksInto place (.operand other allowed next)
  | helper
      {name : String}
      {template : List String}
      {next : String → Recipe κ α}
      (answer : String)
      (h : LooksInto place (next answer)) :
      LooksInto place (.helper name template next)
  | identifier
      {name : String}
      {next : String → Recipe κ α}
      (answer : String)
      (h : LooksInto place (next answer)) :
      LooksInto place (.identifier name next)

/-- Whether a block is written, or may be, when these blocks are. -/
inductive OpenCustoms.Meets
    (customs : OpenCustoms)
    (blocks : List Block) :
    Block → Prop where
  | top
      {block : Block}
      (hmem : block ∈ blocks) :
      Meets customs blocks block
  | held
      {block child : Block}
      {place : Place}
      (hmeets : Meets customs blocks block)
      (hlooks : (customs.recipe block).LooksInto place)
      (hheld : place.held? = some child) :
      Meets customs blocks child

namespace OpenCustoms

/-- Whether others have the same writers for the types of the blocks that are met. -/
def MeetsAlike
    (customs other : OpenCustoms)
    (blocks : List Block) : Prop :=
  ∀ block, customs.Meets blocks block →
    customs.writer? block.blockType = other.writer? block.blockType

variable {customs other : OpenCustoms} {blocks : List Block}

theorem MeetsAlike.recipe_eq
    (h : customs.MeetsAlike other blocks)
    {block : Block}
    (hmeets : customs.Meets blocks block) :
    customs.recipe block = other.recipe block := by
  simp only [recipe, h block hmeets]

/-- Others that have the same writers for the blocks that are met meet no others. -/
theorem MeetsAlike.meets
    (h : customs.MeetsAlike other blocks)
    {block : Block}
    (hmeets : other.Meets blocks block) :
    customs.Meets blocks block := by
  induction hmeets with
  | top hmem =>
      exact .top hmem
  | held _ hlooks hheld ih =>
      rw [← h.recipe_eq ih] at hlooks
      exact .held ih hlooks hheld

theorem MeetsAlike.refl
    (customs : OpenCustoms)
    (blocks : List Block) :
    customs.MeetsAlike customs blocks :=
  fun _ _ => rfl

theorem MeetsAlike.symm
    (h : customs.MeetsAlike other blocks) :
    other.MeetsAlike customs blocks :=
  fun block hmeets => (h block (h.meets hmeets)).symm

end OpenCustoms

section Agreement

variable {ν : Type}

/-- What comes of a place, also comes of it if what comes of the block there does. -/
theorem Place.writeBy_mono
    {write other : Block → Pass ν → Option (Except Fault Code × Pass ν)}
    {place : Place}
    (hother : ∀ child, place.held? = some child →
      ∀ pass outcome, write child pass = some outcome → other child pass = some outcome)
    {allowed : BindingLevel}
    {pass : Pass ν}
    {outcome : Except Fault (Option String) × Pass ν}
    (h : place.writeBy write allowed pass = some outcome) :
    place.writeBy other allowed pass = some outcome := by
  unfold Place.writeBy at h ⊢
  cases hheld : place.held? with
  | none =>
      rw [hheld] at h
      exact h
  | some child =>
      rw [hheld] at h
      obtain ⟨written, hwrite, hrest⟩ := Option.bind_eq_some_iff.mp h
      simp only [hother child hheld _ _ hwrite]
      exact hrest

variable [NameSource ν]

/-- What comes of a recipe, also comes of it if what comes of the places it looks into does. -/
theorem Recipe.runWithin_mono
    {α : Type}
    {operand other : Place → BindingLevel → Pass ν → Option (Except Fault (Option String) × Pass ν)}
    {recipe : Recipe Place α}
    (hother : ∀ place, recipe.LooksInto place → ∀ allowed pass outcome,
      operand place allowed pass = some outcome → other place allowed pass = some outcome)
    {pass : Pass ν}
    {outcome : Except Fault α × Pass ν}
    (h : recipe.runWithin operand pass = some outcome) :
    recipe.runWithin other pass = some outcome := by
  induction recipe generalizing pass with
  | done result =>
      exact h
  | fail fault =>
      exact h
  | operand place allowed next ih =>
      obtain ⟨⟨answer, middle⟩, hanswer, hrest⟩ := Option.bind_eq_some_iff.mp h
      rw [Recipe.runWithin, hother place .here _ _ _ hanswer]
      exact ih answer (fun place hlooks => hother place (.operand answer hlooks)) hrest
  | helper name template next ih =>
      exact ih _ (fun place hlooks => hother place (.helper _ hlooks)) h
  | identifier name next ih =>
      exact ih _ (fun place hlooks => hother place (.identifier _ hlooks)) h

namespace OpenCustoms

variable {customs other : OpenCustoms} {blocks : List Block} {depth more : Nat}

/--
What comes of a block that is met under a limit, also comes of it under a greater one, by the same
writers for the types of the blocks that are met.
-/
theorem MeetsAlike.write
    (h : customs.MeetsAlike other blocks)
    (hle : depth ≤ more)
    {block : Block}
    (hmeets : customs.Meets blocks block)
    {pass : Pass ν}
    {outcome : Except Fault Code × Pass ν}
    (hwrite : customs.write depth block pass = some outcome) :
    other.write more block pass = some outcome := by
  induction depth generalizing more block pass outcome with
  | zero =>
      cases hwrite
  | succ depth ih =>
      obtain ⟨more, rfl⟩ : ∃ fewer, more = fewer + 1 := ⟨more - 1, by omega⟩
      have hlower : depth ≤ more := Nat.le_of_succ_le_succ hle
      rw [OpenCustoms.write, ← h.recipe_eq hmeets]
      refine Recipe.runWithin_mono ?_ hwrite
      intro place hlooks allowed pass outcome
      exact Place.writeBy_mono fun child hheld _ _ => ih hlower (.held hmeets hlooks hheld)

/-- The same holds of blocks at the top level, which are all met. -/
theorem MeetsAlike.writeBlocks
    (h : customs.MeetsAlike other blocks)
    (hle : depth ≤ more)
    {wrapBareValues : Bool}
    {part : List Block}
    (hpart : part ⊆ blocks)
    {pass : Pass ν}
    {outcome : Except Fault (List String) × Pass ν}
    (hwrite : customs.writeBlocks depth wrapBareValues part pass = some outcome) :
    other.writeBlocks more wrapBareValues part pass = some outcome := by
  induction part generalizing pass outcome with
  | nil =>
      exact hwrite
  | cons block rest ih =>
      obtain ⟨⟨result, middle⟩, hblock, hrest⟩ := Option.bind_eq_some_iff.mp hwrite
      have hmeets : customs.Meets blocks block := .top (hpart List.mem_cons_self)
      rw [OpenCustoms.writeBlocks, h.write hle hmeets hblock]
      cases result with
      | error fault =>
          exact hrest
      | ok code =>
          obtain ⟨written, hlines, hwhole⟩ := Option.bind_eq_some_iff.mp hrest
          have hothers := ih (List.subset_of_cons_subset hpart) hlines
          simp only [Option.bind_eq_bind, Option.bind_some, hothers]
          exact hwhole

/-- Blocks are written alike by the same writers for the types of those that are met. -/
theorem MeetsAlike.writeBlocks_eq
    (h : customs.MeetsAlike other blocks)
    (depth : Nat)
    (wrapBareValues : Bool)
    (pass : Pass ν) :
    customs.writeBlocks depth wrapBareValues blocks pass =
      other.writeBlocks depth wrapBareValues blocks pass :=
  Option.ext fun _ =>
    ⟨h.writeBlocks (Nat.le_refl depth) (List.Subset.refl blocks),
      h.symm.writeBlocks (Nat.le_refl depth) (List.Subset.refl blocks)⟩

end OpenCustoms
end Agreement

section Serving

variable {ν : Type} [NameSource ν]

/-- A recipe only makes requests, if the operands do. -/
theorem Recipe.runWithin_serves
    {α : Type}
    {operand : Place → BindingLevel → Pass ν → Option (Except Fault (Option String) × Pass ν)}
    (hoperand : ∀ place allowed (pass : Pass ν) outcome,
      operand place allowed pass = some outcome → ∃ log, pass.Serves log outcome.2)
    {recipe : Recipe Place α}
    {pass : Pass ν}
    {outcome : Except Fault α × Pass ν}
    (h : recipe.runWithin operand pass = some outcome) :
    ∃ log, pass.Serves log outcome.2 := by
  induction recipe generalizing pass with
  | done result =>
      cases h
      exact ⟨[], .nothing⟩
  | fail fault =>
      cases h
      exact ⟨[], .nothing⟩
  | operand place allowed next ih =>
      obtain ⟨⟨answer, middle⟩, hanswer, hrest⟩ := Option.bind_eq_some_iff.mp h
      obtain ⟨first, hfirst⟩ := hoperand _ _ _ _ hanswer
      obtain ⟨second, hsecond⟩ := ih answer hrest
      exact ⟨_, hfirst.trans hsecond⟩
  | helper name template next ih =>
      obtain ⟨log, hlog⟩ := ih _ h
      exact ⟨_, (pass.serves_helper name template).trans hlog⟩
  | identifier name next ih =>
      obtain ⟨log, hlog⟩ := ih _ h
      exact ⟨_, (pass.serves_identify name).trans hlog⟩

theorem Place.writeBy_serves
    {write : Block → Pass ν → Option (Except Fault Code × Pass ν)}
    (hwrite : ∀ block (pass : Pass ν) outcome,
      write block pass = some outcome → ∃ log, pass.Serves log outcome.2)
    {place : Place}
    {allowed : BindingLevel}
    {pass : Pass ν}
    {outcome : Except Fault (Option String) × Pass ν}
    (h : place.writeBy write allowed pass = some outcome) :
    ∃ log, pass.Serves log outcome.2 := by
  unfold Place.writeBy at h
  cases hheld : place.held? with
  | none =>
      rw [hheld] at h
      cases h
      exact ⟨[], .nothing⟩
  | some child =>
      rw [hheld] at h
      obtain ⟨written, hchild, hrest⟩ := Option.bind_eq_some_iff.mp h
      cases hrest
      exact hwrite _ _ _ hchild

namespace OpenCustoms

variable {customs : OpenCustoms} {depth : Nat}

/-- Writing a block only makes requests. -/
theorem write_serves
    {block : Block}
    {pass : Pass ν}
    {outcome : Except Fault Code × Pass ν}
    (h : customs.write depth block pass = some outcome) :
    ∃ log, pass.Serves log outcome.2 := by
  induction depth generalizing block pass outcome with
  | zero =>
      cases h
  | succ depth ih =>
      have hchild : ∀ block (pass : Pass ν) outcome,
          customs.write depth block pass = some outcome → ∃ log, pass.Serves log outcome.2 :=
        fun _ _ _ => ih
      exact Recipe.runWithin_serves (fun _ _ _ _ => Place.writeBy_serves hchild) h

/-- Writing the blocks at the top level only makes requests. -/
theorem writeBlocks_serves
    {wrapBareValues : Bool}
    {blocks : List Block}
    {pass : Pass ν}
    {outcome : Except Fault (List String) × Pass ν}
    (h : customs.writeBlocks depth wrapBareValues blocks pass = some outcome) :
    ∃ log, pass.Serves log outcome.2 := by
  induction blocks generalizing pass outcome with
  | nil =>
      cases h
      exact ⟨[], .nothing⟩
  | cons block rest ih =>
      obtain ⟨⟨result, middle⟩, hwrite, hrest⟩ := Option.bind_eq_some_iff.mp h
      obtain ⟨first, hfirst⟩ := write_serves hwrite
      cases result with
      | error fault =>
          cases hrest
          exact ⟨first, hfirst⟩
      | ok code =>
          obtain ⟨written, hlines, hwhole⟩ := Option.bind_eq_some_iff.mp hrest
          obtain ⟨second, hsecond⟩ := ih hlines
          cases hwhole
          exact ⟨_, hfirst.trans hsecond⟩

end OpenCustoms
end Serving

mutual

/-- How many blocks of a tree are inside each other. -/
def Block.height : Block → Nat
  | .node _ _ inputs => inputs.height + 1

def Inputs.height : Inputs → Nat
  | .empty => 0
  | .plug _ child rest => max child.height rest.height

end

section Opened

variable {ν : Type} [NameSource ν]

end Opened
end MathBlocks
