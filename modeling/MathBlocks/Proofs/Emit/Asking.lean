import MathBlocks.Emit.Recipe
import MathBlocks.Proofs.Text.Printable

/-!
# What a recipe asks for

A recipe may have many ways to go on, but the slots that it looks into and their order are the same
on all of them. `Recipe.Asks` says so: a recipe asks for these slots in turn, ends at the first
fault that is in one of them, and otherwise has a result that holds. How a recipe is carried out
then follows from what is in the slots.

Texts are looked at only for the characters in them. What is put together from texts over a class
of characters, with nothing but printable characters between them, is a text over that class.
-/

namespace MathBlocks

/-- The fault that is in a result, if it is none. -/
def faultIn
    {α : Type} :
    Except Fault α → Option Fault
  | .ok _ => none
  | .error fault => some fault

@[simp] theorem faultIn_ok
    {α : Type}
    (result : α) :
    faultIn (.ok result) = none :=
  rfl

@[simp] theorem faultIn_error
    {α : Type}
    (fault : Fault) :
    faultIn (.error fault : Except Fault α) = some fault :=
  rfl

/-- Whether a computation ends with this fault or none, with a result that holds, in a fit state. -/
structure Ends
    {α σ : Type}
    (fault? : Option Fault)
    (holds : α → Prop)
    (keeps : σ → Prop)
    (outcome : Except Fault α × σ) : Prop where
  fault_eq : faultIn outcome.1 = fault?
  result_holds : ∀ result, outcome.1 = .ok result → holds result
  state_keeps : keeps outcome.2

/-- Whether all texts that an answer holds are over a class of characters. -/
def AnswerOver
    (fit : Char → Prop)
    (answer : Option String) : Prop :=
  ∀ code, answer = some code → Text.Over fit code

/--
Whether a recipe asks for these slots, in this order, and ends with the fault that is in one of
them, or else with a result that holds. All texts that it is given are over a class of characters.
-/
inductive Recipe.Asks
    {α : Type}
    (fit : Char → Prop)
    (holds : α → Prop) :
    List String → Recipe String α → Prop
  | done
      {result : α}
      (h : holds result) :
      Asks fit holds [] (.done result)
  | operand
      {slot : String}
      {allowed : BindingLevel}
      {slots : List String}
      {next : Except Fault (Option String) → Recipe String α}
      (hfault : ∀ fault, next (.error fault) = .fail fault)
      (hnext : ∀ answer, AnswerOver fit answer → Asks fit holds slots (next (.ok answer))) :
      Asks fit holds (slot :: slots) (.operand slot allowed next)
  | helper
      {name : String}
      {template : List String}
      {slots : List String}
      {next : String → Recipe String α}
      (hnext : ∀ identifier, Text.Over fit identifier → Asks fit holds slots (next identifier)) :
      Asks fit holds slots (.helper name template next)
  | identifier
      {name : String}
      {slots : List String}
      {next : String → Recipe String α}
      (hnext : ∀ identifier, Text.Over fit identifier → Asks fit holds slots (next identifier)) :
      Asks fit holds slots (.identifier name next)

namespace Recipe.Asks

variable {α β : Type} {fit : Char → Prop} {between : α → Prop} {holds : β → Prop}

/-- A recipe that carries on with another one asks for the slots of both. -/
theorem bind
    {first second : List String}
    {recipe : Recipe String α}
    {next : α → Recipe String β}
    (h : Asks fit between first recipe)
    (hnext : ∀ result, between result → Asks fit holds second (next result)) :
    Asks fit holds (first ++ second) (recipe >>= next) := by
  show Asks fit holds (first ++ second) (recipe.andThen next)
  induction h with
  | done hresult =>
      exact hnext _ hresult
  | operand hfault _ ih =>
      refine .operand ?_ ih
      intro fault
      rw [hfault fault]
      rfl
  | helper _ ih =>
      exact .helper ih
  | identifier _ ih =>
      exact .identifier ih

/-- A recipe that carries on with one that asks for no slot. -/
theorem finish
    {slots : List String}
    {recipe : Recipe String α}
    {next : α → Recipe String β}
    (h : Asks fit between slots recipe)
    (hnext : ∀ result, between result → Asks fit holds [] (next result)) :
    Asks fit holds slots (recipe >>= next) := by
  have hwhole := h.bind hnext
  rwa [List.append_nil] at hwhole

theorem operand?
    (slot : String)
    (allowed : BindingLevel) :
    Asks fit (AnswerOver fit) [slot] (Recipe.operand? slot allowed) :=
  .operand (fun _ => rfl) fun _ hanswer => .done hanswer

/-- The text of an operand, or what stands in for it. -/
theorem operandOr
    (slot : String)
    (allowed : BindingLevel)
    {standIn : String}
    (hstandIn : Text.Over fit standIn) :
    Asks fit (Text.Over fit) [slot] (Recipe.operandOr slot allowed standIn) := by
  refine (operand? slot allowed).finish ?_
  intro answer hanswer
  refine .done ?_
  cases answer with
  | none =>
      exact hstandIn
  | some code =>
      exact hanswer code rfl

theorem request
    (name : String)
    (template : List String) :
    Asks fit (Text.Over fit) [] (Recipe.request name template) :=
  .helper fun _ hidentifier => .done hidentifier

theorem identify
    (name : String) :
    Asks fit (Text.Over fit) [] (Recipe.identify name) :=
  .identifier fun _ hidentifier => .done hidentifier

end Recipe.Asks

/--
Whether a supplier answers for every slot with the fault that is in it, if there is one, and gives
out only texts over a class of characters, as long as its states are fit.
-/
structure Supplier.Gives
    {σ : Type}
    (supplier : Supplier String σ)
    (fit : Char → Prop)
    (keeps : σ → Prop)
    (fault? : String → Option Fault) : Prop where
  operand :
    ∀ slot allowed state, keeps state →
      Ends (fault? slot) (AnswerOver fit) keeps (supplier.operand slot allowed state)
  helper :
    ∀ name template state, keeps state →
      Text.Over fit (supplier.helper name template state).1 ∧
      keeps (supplier.helper name template state).2
  identify :
    ∀ name state, keeps state →
      Text.Over fit (supplier.identify name state).1 ∧
      keeps (supplier.identify name state).2

/-- A recipe ends with the first fault in the slots that it asks for, in their order. -/
theorem Recipe.Asks.run
    {α σ : Type}
    {fit : Char → Prop}
    {holds : α → Prop}
    {slots : List String}
    {recipe : Recipe String α}
    {supplier : Supplier String σ}
    {keeps : σ → Prop}
    {fault? : String → Option Fault}
    (h : Asks fit holds slots recipe)
    (hsupplier : supplier.Gives fit keeps fault?)
    {state : σ}
    (hstate : keeps state) :
    Ends (slots.findSome? fault?) holds keeps (recipe.run supplier state) := by
  induction h generalizing state with
  | done hresult =>
      exact ⟨rfl, by rintro _ ⟨rfl⟩; exact hresult, hstate⟩
  | @operand slot allowed slots next hfault _ ih =>
      have hoperand := hsupplier.operand slot allowed state hstate
      simp only [Recipe.run, List.findSome?_cons]
      cases hanswer : (supplier.operand slot allowed state).1 with
      | error fault =>
          have hslot : fault? slot = some fault := by
            rw [← hoperand.fault_eq, hanswer]
            rfl
          rw [hfault fault, hslot]
          exact ⟨rfl, by rintro _ ⟨⟩, hoperand.state_keeps⟩
      | ok answer =>
          have hslot : fault? slot = none := by
            rw [← hoperand.fault_eq, hanswer]
            rfl
          rw [hslot]
          exact ih answer (hoperand.result_holds answer hanswer) hoperand.state_keeps
  | @helper name template slots next _ ih =>
      obtain ⟨hidentifier, hafter⟩ := hsupplier.helper name template state hstate
      exact ih _ hidentifier hafter
  | @identifier name slots next _ ih =>
      obtain ⟨hidentifier, hafter⟩ := hsupplier.identify name state hstate
      exact ih _ hidentifier hafter

/-- Whether a recipe fails with a fault of its own, or else asks for these slots. -/
def Recipe.Follows
    {α : Type}
    (fit : Char → Prop)
    (holds : α → Prop)
    (own : Option Fault)
    (slots : List String)
    (recipe : Recipe String α) : Prop :=
  match own with
  | some fault => recipe = .fail fault
  | none => recipe.Asks fit holds slots

namespace Recipe.Follows

variable {α β : Type} {fit : Char → Prop} {holds : β → Prop} {slots : List String}

/-- A recipe that goes on after a check fails with the fault of the check. -/
theorem check
    {outcome : Except Fault α}
    {own : Option Fault}
    {next : α → Recipe String β}
    (hown : faultIn outcome = own)
    (h : ∀ result, outcome = .ok result → (next result).Asks fit holds slots) :
    (Recipe.check outcome >>= next).Follows fit holds own slots := by
  subst hown
  cases outcome with
  | ok result =>
      exact h result rfl
  | error fault =>
      rfl

/-- How a recipe ends that checks its block first. -/
theorem run
    {σ : Type}
    {own : Option Fault}
    {recipe : Recipe String β}
    {supplier : Supplier String σ}
    {keeps : σ → Prop}
    {fault? : String → Option Fault}
    (h : recipe.Follows fit holds own slots)
    (hsupplier : supplier.Gives fit keeps fault?)
    {state : σ}
    (hstate : keeps state) :
    Ends (own.or (slots.findSome? fault?)) holds keeps (recipe.run supplier state) := by
  cases own with
  | some fault =>
      obtain rfl : recipe = .fail fault := h
      exact ⟨rfl, by rintro _ ⟨⟩, hstate⟩
  | none =>
      exact Recipe.Asks.run h hsupplier hstate

end Recipe.Follows
end MathBlocks
