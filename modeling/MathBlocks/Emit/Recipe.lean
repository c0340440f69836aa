import MathBlocks.Emit.Code

/-!
# Recipes

How a block is written, step by step: a recipe asks for the code of operands, for helper
functions and for the identifiers of variables, and ends with a result or a fault. It holds no
state and walks no tree, so one recipe can be carried out by any `Supplier`, which answers what it
asks.

A recipe names the operands by places. For the recipe of a block that asks for its own operands a
place is the name of a slot; one that asks for those of other blocks, too, has to say of which.
-/

namespace MathBlocks

/-- A computation of an `α` that asks for operands, helpers and variables on its way. -/
inductive Recipe (κ α : Type) : Type where
  /-- The result is there. -/
  | done (result : α)
  /-- There is no result. -/
  | fail (fault : Fault)
  /-- Asks for the code at a place, fit for that level; there may be none, or a fault. -/
  | operand (place : κ) (allowed : BindingLevel)
      (next : Except Fault (Option String) → Recipe κ α)
  /-- Asks for the identifier of the helper of a logical name with that template. -/
  | helper (name : String) (template : List String) (next : String → Recipe κ α)
  /-- Asks for the identifier of a variable. -/
  | identifier (name : String) (next : String → Recipe κ α)

namespace Recipe

variable {κ : Type}

/-- Carries on with the result of a recipe. -/
def andThen
    {α β : Type} :
    Recipe κ α → (α → Recipe κ β) → Recipe κ β
  | .done result, next => next result
  | .fail fault, _ => .fail fault
  | .operand place allowed ask, next =>
      .operand place allowed fun answer => (ask answer).andThen next
  | .helper name template ask, next => .helper name template fun answer => (ask answer).andThen next
  | .identifier name ask, next => .identifier name fun answer => (ask answer).andThen next

instance : Monad (Recipe κ) where
  pure := .done
  bind := andThen

/-- A check that needs nothing asked. -/
def check
    {α : Type} :
    Except Fault α → Recipe κ α
  | .ok result => .done result
  | .error fault => .fail fault

/-- The code at a place, if there is any; a fault in it is a fault of the whole. -/
def operand?
    (place : κ)
    (allowed : BindingLevel) : Recipe κ (Option String) :=
  .operand place allowed check

/-- The code at a place, or `standIn` if nothing is plugged in there. -/
def operandOr
    (place : κ)
    (allowed : BindingLevel)
    (standIn : String) : Recipe κ String := do
  let answer ← operand? place allowed
  return answer.getD standIn

/-- The identifier of a helper. -/
def request
    (name : String)
    (template : List String) : Recipe κ String :=
  .helper name template .done

/-- The identifier of a variable. -/
def identify (name : String) : Recipe κ String :=
  .identifier name .done

end Recipe

/-- Answers what recipes ask, in a state that carries over from one question to the next. -/
structure Supplier (κ σ : Type) where
  /-- The code at a place, fit for that level. -/
  operand : κ → BindingLevel → σ → Except Fault (Option String) × σ
  /-- The identifier of a helper. -/
  helper : String → List String → σ → String × σ
  /-- The identifier of a variable. -/
  identify : String → σ → String × σ

/-- Carries out a recipe. Where it fails it ends, and the state stays as it is then. -/
def Recipe.run
    {κ α σ : Type}
    (supplier : Supplier κ σ) :
    Recipe κ α → σ → Except Fault α × σ
  | .done result, state => (.ok result, state)
  | .fail fault, state => (.error fault, state)
  | .operand place allowed next, state =>
      let (answer, state) := supplier.operand place allowed state
      (next answer).run supplier state
  | .helper name template next, state =>
      let (answer, state) := supplier.helper name template state
      (next answer).run supplier state
  | .identifier name next, state =>
      let (answer, state) := supplier.identify name state
      (next answer).run supplier state

/-- A recipe that carries on with another one is carried out by carrying out both in turn. -/
theorem Recipe.run_bind
    {κ α β σ : Type}
    (supplier : Supplier κ σ)
    (recipe : Recipe κ α)
    (next : α → Recipe κ β)
    (state : σ) :
    (recipe >>= next).run supplier state =
      match recipe.run supplier state with
      | (.ok result, state) => (next result).run supplier state
      | (.error fault, state) => (.error fault, state) := by
  show (recipe.andThen next).run supplier state = _
  induction recipe generalizing state with
  | done result => rfl
  | fail fault => rfl
  | operand place allowed ask ih =>
      simp only [Recipe.andThen, Recipe.run]
      exact ih _ _
  | helper name template ask ih =>
      simp only [Recipe.andThen, Recipe.run]
      exact ih _ _
  | identifier name ask ih =>
      simp only [Recipe.andThen, Recipe.run]
      exact ih _ _

/-- A check asks nothing, so the state stays as it is. -/
@[simp] theorem Recipe.run_check
    {κ α σ : Type}
    (supplier : Supplier κ σ)
    (result : Except Fault α)
    (state : σ) :
    (Recipe.check result).run supplier state = (result, state) := by
  cases result <;> rfl

/-- What gives a result in turn has given one by the first recipe and then by the next. -/
theorem Recipe.exists_of_run_bind
    {κ α β σ : Type}
    {supplier : Supplier κ σ}
    {recipe : Recipe κ α}
    {next : α → Recipe κ β}
    {result : β}
    {state after : σ}
    (h : (recipe >>= next).run supplier state = (.ok result, after)) :
    ∃ answer middle,
      recipe.run supplier state = (.ok answer, middle) ∧
      (next answer).run supplier middle = (.ok result, after) := by
  rw [Recipe.run_bind] at h
  split at h
  · exact ⟨_, _, ‹_›, h⟩
  · cases h

/-- A recipe that goes on with the code of an operand is carried out with what was written. -/
theorem Recipe.run_operand?
    {κ σ : Type}
    (supplier : Supplier κ σ)
    (place : κ)
    (allowed : BindingLevel)
    (state : σ) :
    (Recipe.operand? place allowed).run supplier state = supplier.operand place allowed state := by
  simp [Recipe.operand?, Recipe.run]

end MathBlocks
