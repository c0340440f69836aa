import MathBlocks.Proofs.Emit.Meaning
import MathBlocks.Proofs.Emit.Presents

/-!
# Rendering

`Renders` compares a computation on passes with what is meant: where it has a result, that result
and the meaning are related and the requests it made are the ones listed; where it fails, there is
no meaning. Recipes are compared step by step, each step by one of the rules here, so nothing else
needs to look at passes. The naming may be that of any later pass.
-/

namespace MathBlocks

open Lua

/-- The template of a helper of the math blocks, with the sum of a list as the naming has it. -/
def Naming.template?
    (naming : Naming)
    (name : String) : Option (List String) :=
  MathHelper.template? ((naming.ofHelper MathHelper.sumName).getD "") name

/-- Whether these logical names were asked for, in this order and each with its template. -/
structure Naming.Logs
    (naming : Naming)
    (requests : List String)
    (log : List Request) : Prop where
  names : log.map Prod.fst = requests
  templates : ∀ request ∈ log, naming.template? request.1 = some request.2

theorem Naming.Logs.append
    {naming : Naming}
    {requests others : List String}
    {first second : List Request}
    (hfirst : naming.Logs requests first)
    (hsecond : naming.Logs others second) :
    naming.Logs (requests ++ others) (first ++ second) where
  names := by
    rw [List.map_append, hfirst.names, hsecond.names]
  templates request hrequest := by
    rcases List.mem_append.mp hrequest with hmem | hmem
    · exact hfirst.templates request hmem
    · exact hsecond.templates request hmem

theorem Naming.Logs.nil
    {naming : Naming} :
    naming.Logs [] [] :=
  ⟨rfl, by simp⟩

/-- Whether an outcome with these requests agrees with what is meant. -/
def Agrees
    {α β : Type}
    (naming : Naming)
    (holds : α → β → Prop)
    (requests : List String)
    (log : List Request) :
    Except Fault α → Option β → Prop
  | .ok result, some meant => holds result meant ∧ naming.Logs requests log
  | .error _, none => True
  | _, _ => False

/-- An outcome agrees with what is meant also after requests made before. -/
theorem Agrees.append
    {α β : Type}
    {naming : Naming}
    {holds : α → β → Prop}
    {requests others : List String}
    {first second : List Request}
    {outcome : Except Fault α}
    {meant : Option β}
    (h : Agrees naming holds others second outcome meant)
    (hlogs : naming.Logs requests first) :
    Agrees naming holds (requests ++ others) (first ++ second) outcome meant := by
  cases outcome with
  | error fault =>
      cases meant with
      | none =>
          trivial
      | some tree =>
          exact h
  | ok result =>
      cases meant with
      | none =>
          exact h
      | some tree =>
          exact ⟨h.1, hlogs.append h.2⟩

/-- An outcome that agrees with what is meant does so after both are made into something else. -/
theorem Agrees.map
    {α β γ δ : Type}
    {naming : Naming}
    {between : α → β → Prop}
    {holds : γ → δ → Prop}
    {requests : List String}
    {log : List Request}
    {outcome : Except Fault α}
    {meant : Option β}
    {make : α → γ}
    {makeMeant : β → δ}
    (h : Agrees naming between requests log outcome meant)
    (hmake : ∀ result tree, between result tree → holds (make result) (makeMeant tree)) :
    Agrees naming holds requests log (outcome.map make) (meant.map makeMeant) := by
  cases outcome with
  | error fault =>
      cases meant with
      | none =>
          trivial
      | some tree =>
          exact h
  | ok result =>
      cases meant with
      | none =>
          exact h
      | some tree =>
          exact ⟨hmake result tree h.1, h.2⟩

/-- A computation in a pass. -/
abbrev Step (α : Type) := Pass NameDirectory → Except Fault α × Pass NameDirectory

/-- Carries on with a step that depends on the result of another one. -/
def Step.andThen
    {α β : Type}
    (step : Step α)
    (next : α → Step β) : Step β := fun pass =>
  match step pass with
  | (.ok result, pass) => next result pass
  | (.error fault, pass) => (.error fault, pass)

/-- Whether a step agrees with what is meant, from all passes whose identifiers are proper ones. -/
def Renders
    {α β : Type}
    (reserved : List String)
    (naming : Naming)
    (holds : α → β → Prop)
    (requests : List String)
    (step : Step α)
    (meant : Option β) : Prop :=
  ∀ pass : Pass NameDirectory,
    pass.Sound reserved →
    (step pass).2.naming.Within naming →
    ∃ log,
      pass.Serves log (step pass).2 ∧
      Agrees naming holds requests log (step pass).1 meant

/-- How a recipe is carried out for a math block with these inputs. -/
def Recipe.step
    {α : Type}
    (inputs : Inputs)
    (recipe : Recipe String α) : Step α :=
  recipe.run (Pass.supplier (inputs.write []))

/-- Whether all operands are written as text that stands for what they mean. -/
def Inputs.Render
    (inputs : Inputs)
    (reserved : List String)
    (naming : Naming) : Prop :=
  ∀ slot allowed,
    Renders reserved naming (Option.Rel (Stands allowed)) (inputs.requests slot)
      (inputs.write [] slot allowed) (inputs.meaning naming slot)

/-- Whether an identifier is the one that is meant, and a name of the language. -/
def Names (identifier meant : String) : Prop :=
  identifier = meant ∧ Identifier.IsIdentifier identifier.toList ∧ identifier ∉ keywords

namespace Renders

variable {α β : Type} {reserved : List String} {naming : Naming} {inputs : Inputs}

theorem done
    {holds : α → β → Prop}
    {result : α}
    {meant : β}
    (h : holds result meant) :
    Renders reserved naming holds [] ((Recipe.done result).step inputs) (some meant) :=
  fun _ _ _ => ⟨[], .nothing, h, .nil⟩

/-- A step that is carried on by steps that only make requests. -/
theorem andThen
    {γ δ : Type}
    {between : α → β → Prop}
    {holds : γ → δ → Prop}
    {first second : List String}
    {step : Step α}
    {next : α → Step γ}
    {meant : Option β}
    {goOn : β → Option δ}
    (hserves : ∀ result (pass : Pass NameDirectory), ∃ log, pass.Serves log (next result pass).2)
    (hstep : Renders reserved naming between first step meant)
    (hnext : ∀ result tree, meant = some tree → between result tree →
      Renders reserved naming holds second (next result) (goOn tree)) :
    Renders reserved naming holds (first ++ second) (step.andThen next) (meant >>= goOn) := by
  intro pass hsound
  have hfirst := hstep pass hsound
  unfold Step.andThen
  cases hrun : step pass with
  | mk outcome middle =>
      rw [hrun] at hfirst
      intro hwithin
      cases outcome with
      | error fault =>
          obtain ⟨log, hlog, hagrees⟩ := hfirst hwithin
          cases meant with
          | none =>
              exact ⟨log, hlog, trivial⟩
          | some tree =>
              exact hagrees.elim
      | ok result =>
          -- the naming may be that of a pass after the second step, with all names of the first
          obtain ⟨more, hmore⟩ := hserves result middle
          obtain ⟨log, hlog, hagrees⟩ := hfirst (hmore.within.trans hwithin)
          cases meant with
          | none =>
              exact hagrees.elim
          | some tree =>
              obtain ⟨rest, hrest, hlast⟩ :=
                hnext result tree rfl hagrees.1 middle (hlog.sound hsound) hwithin
              exact ⟨log ++ rest, hlog.trans hrest, hlast.append hagrees.2⟩

/-- A step whose result is made into another one. -/
theorem map
    {γ δ : Type}
    {between : α → β → Prop}
    {holds : γ → δ → Prop}
    {requests : List String}
    {step : Step α}
    {meant : Option β}
    {make : α → γ}
    {makeMeant : β → δ}
    (hstep : Renders reserved naming between requests step meant)
    (hmake : ∀ result tree, between result tree → holds (make result) (makeMeant tree)) :
    Renders reserved naming holds requests (fun pass => ((step pass).1.map make, (step pass).2))
      (meant.map makeMeant) := by
  intro pass hsound hwithin
  obtain ⟨log, hlog, hagrees⟩ := hstep pass hsound hwithin
  exact ⟨log, hlog, hagrees.map hmake⟩

/-- A recipe that carries on with another one. -/
theorem bind
    {γ δ : Type}
    {between : α → β → Prop}
    {holds : γ → δ → Prop}
    {first second : List String}
    {recipe : Recipe String α}
    {next : α → Recipe String γ}
    {meant : Option β}
    {goOn : β → Option δ}
    (hrecipe : Renders reserved naming between first (recipe.step inputs) meant)
    (hnext : ∀ result tree, meant = some tree → between result tree →
      Renders reserved naming holds second ((next result).step inputs) (goOn tree)) :
    Renders reserved naming holds (first ++ second) ((recipe >>= next).step inputs)
      (meant >>= goOn) := by
  have hserves : ∀ result (pass : Pass NameDirectory),
      ∃ log, pass.Serves log ((next result).step inputs pass).2 :=
    fun result => Recipe.run_serves (inputs.write_serves [] · · ·) (next result)
  have hstep : (recipe >>= next).step inputs =
      (recipe.step inputs).andThen fun result => (next result).step inputs := by
    funext pass
    unfold Recipe.step Step.andThen
    rw [Recipe.run_bind]
    cases recipe.run (Pass.supplier (inputs.write [])) pass with
    | mk outcome middle =>
        cases outcome <;> rfl
  rw [hstep]
  exact Renders.andThen hserves hrecipe hnext

/-- A recipe that carries on from something whose meaning is known. -/
theorem bind_some
    {γ δ : Type}
    {between : α → β → Prop}
    {holds : γ → δ → Prop}
    {first second : List String}
    {recipe : Recipe String α}
    {next : α → Recipe String γ}
    {found : β}
    {meant : Option δ}
    (hrecipe : Renders reserved naming between first (recipe.step inputs) (some found))
    (hnext : ∀ result, between result found →
      Renders reserved naming holds second ((next result).step inputs) meant) :
    Renders reserved naming holds (first ++ second) ((recipe >>= next).step inputs) meant := by
  have hgoOn : ∀ result tree, some found = some tree → between result tree →
      Renders reserved naming holds second ((next result).step inputs) meant := by
    rintro result _ ⟨rfl⟩ hbetween
    exact hnext result hbetween
  exact Renders.bind hrecipe hgoOn

/-- A check of something that can be read off the block. -/
theorem check
    {γ δ : Type}
    {holds : γ → δ → Prop}
    {requests : List String}
    {next : α → Recipe String γ}
    {goOn : α → Option δ}
    (outcome : Except Fault α)
    (hnext : ∀ result, outcome = .ok result →
      Renders reserved naming holds requests ((next result).step inputs) (goOn result)) :
    Renders reserved naming holds requests ((Recipe.check outcome >>= next).step inputs)
      (outcome.toOption >>= goOn) := by
  cases outcome with
  | ok result =>
      exact hnext result rfl
  | error fault =>
      exact fun _ _ _ => ⟨[], .nothing, trivial⟩

/-- A check of something that is there if and only if it means something. -/
theorem outcome
    {holds : α → β → Prop}
    {outcome : Except Fault α}
    {meant : Option β}
    (h : Option.Rel holds outcome.toOption meant) :
    Renders reserved naming holds [] ((Recipe.check outcome).step inputs) meant := by
  cases outcome with
  | ok result =>
      cases h with
      | some hholds =>
          exact .done hholds
  | error fault =>
      cases h with
      | none =>
          exact fun _ _ _ => ⟨[], .nothing, trivial⟩

/-- A recipe that asks for an operand, which is written as what is plugged into the slot. -/
theorem slot
    {holds : Option String → β → Prop}
    {requests : List String}
    {slot : String}
    {allowed : BindingLevel}
    {meant : Option β}
    (hslot : Renders reserved naming holds requests (inputs.write [] slot allowed) meant) :
    Renders reserved naming holds requests ((Recipe.operand? slot allowed).step inputs) meant := by
  intro pass hsound
  have hpass := hslot pass hsound
  simpa [Recipe.step, Recipe.operand?, Recipe.run, Pass.supplier] using hpass

/-- A recipe that asks for an operand and has a text to stand in for it. -/
theorem slotOr
    {holds : String → β → Prop}
    {requests : List String}
    {slot : String}
    {allowed : BindingLevel}
    {standIn : String}
    {other : β}
    {meant : Option (Option β)}
    (hslot : Renders reserved naming (Option.Rel holds) requests (inputs.write [] slot allowed)
      meant)
    (hstandIn : holds standIn other) :
    Renders reserved naming holds requests ((Recipe.operandOr slot allowed standIn).step inputs)
      (meant.map fun answer => answer.getD other) := by
  have hnext : ∀ answer found, meant = some found → Option.Rel holds answer found →
      Renders reserved naming holds []
        ((Recipe.done (answer.getD standIn)).step inputs) (some (found.getD other)) := by
    intro answer found _ hrel
    cases hrel with
    | none =>
        exact .done hstandIn
    | some hholds =>
        exact .done hholds
  have hwhole := Renders.bind (Renders.slot hslot) hnext
  rw [List.append_nil] at hwhole
  have hmeant : (meant.map fun answer => answer.getD other) =
      (meant >>= fun answer => some (answer.getD other)) := by
    cases meant <;> rfl
  rw [hmeant]
  exact hwhole

theorem operand?
    (hinputs : inputs.Render reserved naming)
    (slot : String)
    (allowed : BindingLevel) :
    Renders reserved naming (Option.Rel (Stands allowed)) (inputs.requests slot)
      ((Recipe.operand? slot allowed).step inputs) (inputs.meaning naming slot) :=
  Renders.slot (hinputs slot allowed)

theorem operandOr
    (hinputs : inputs.Render reserved naming)
    (slot : String)
    {allowed : BindingLevel}
    {standIn : String}
    {tree : Expr}
    (hstandIn : Stands allowed standIn tree) :
    Renders reserved naming (Stands allowed) (inputs.requests slot)
      ((Recipe.operandOr slot allowed standIn).step inputs)
      (Operands.orElse (inputs.meaning naming) slot tree) :=
  Renders.slotOr (hinputs slot allowed) hstandIn

theorem request
    (hkeywords : ∀ word ∈ keywords, word ∈ reserved)
    {name : String}
    {template : List String}
    (htemplate : naming.template? name = some template) :
    Renders reserved naming Names [name] ((Recipe.request name template).step inputs)
      (naming.ofHelper name) := by
  intro pass hsound hwithin
  obtain ⟨hproper, _⟩ := hsound.helper name template
  have hname : naming.ofHelper name = some (pass.helper name template).1 :=
    hwithin.ofHelper_eq (pass.identifier?_helper name template)
  refine ⟨[(name, template)], pass.serves_helper name template, ?_⟩
  rw [hname]
  refine ⟨⟨rfl, hproper.1, fun hkeyword => hproper.2 (hkeywords _ hkeyword)⟩, rfl, ?_⟩
  simpa using htemplate

/-- A recipe that carries on with the identifier of a helper; the helper is there from then on. -/
theorem request_bind
    {γ δ : Type}
    {holds : γ → δ → Prop}
    {requests : List String}
    {name : String}
    {template : List String}
    {next : String → Recipe String γ}
    {meant : Option δ}
    (htemplate : naming.template? name = some template)
    (hnext : ∀ identifier, naming.ofHelper name = some identifier →
      Renders reserved naming holds requests ((next identifier).step inputs) meant) :
    Renders reserved naming holds (name :: requests)
      ((Recipe.request name template >>= next).step inputs) meant := by
  intro pass hsound hwithin
  have hserves := pass.serves_helper name template
  obtain ⟨more, hmore⟩ := Recipe.run_serves (inputs.write_serves [] · · ·)
    (next (pass.helper name template).1) (pass.helper name template).2
  -- what is handed out here is still handed out in the end
  have hname := (hmore.within.trans hwithin).ofHelper_eq (pass.identifier?_helper name template)
  obtain ⟨rest, hrest, hlast⟩ := hnext _ hname _ (hserves.sound hsound) hwithin
  have hlogs : naming.Logs [name] [(name, template)] := ⟨rfl, by simpa using htemplate⟩
  exact ⟨_, hserves.trans hrest, hlast.append hlogs⟩

theorem identify
    (hkeywords : ∀ word ∈ keywords, word ∈ reserved)
    (name : String) :
    Renders reserved naming Names [] ((Recipe.identify name).step inputs)
      (naming.ofVariable name) := by
  intro pass hsound hwithin
  obtain ⟨hproper, _⟩ := hsound.identify name
  have hname : naming.ofVariable name = some (pass.identify name).1 :=
    hwithin.ofVariable_eq (pass.ofVariable_identify name)
  refine ⟨[], pass.serves_identify name, ?_⟩
  rw [hname]
  exact ⟨⟨rfl, hproper.1, fun hkeyword => hproper.2 (hkeywords _ hkeyword)⟩, .nil⟩

end Renders
end MathBlocks
