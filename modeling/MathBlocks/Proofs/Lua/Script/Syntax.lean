import MathBlocks.Proofs.Lua.Lexer

/-!
# Lua functions

The trees of functions with local variables, assignments, calls, branches and both kinds of loops.
A name that is declared is bound in the rest of its block, a parameter in the whole body, and the
variables of a loop in what is repeated. Every reference to a name is listed together with the names
that are bound there, so that a name is free where it is not among these. The name of an entry
behind a dot is no reference.
-/

namespace MathBlocks
namespace Lua
namespace Script

/-- The operators with one operand. -/
inductive Unary where
  | minus
  | not
  | length
  deriving DecidableEq, Repr

/-- The operators with two operands. -/
inductive Binary where
  | operator (operator : Operator)
  | and
  | or
  deriving DecidableEq, Repr

mutual

/-- The tree of an expression; parentheses show in it only by what they hold together. -/
inductive Term where
  | nil
  | bool (value : Bool)
  | numeral (text : String)
  | string (text : String)
  | name (text : String)
  /-- The entry of a table under a name. -/
  | field (table : Term) (name : String)
  /-- The entry of a table under a value. -/
  | index (table key : Term)
  | call (function : Term) (arguments : Terms)
  | list (items : Terms)
  | unary (operator : Unary) (operand : Term)
  | binary (operator : Binary) (left right : Term)
  deriving DecidableEq

/-- Expressions with commas between them. -/
inductive Terms where
  | empty
  | more (head : Term) (tail : Terms)
  deriving DecidableEq

end

mutual

/-- A statement. -/
inductive Statement where
  /-- Declares local variables. -/
  | declare (names : List String) (values : Terms)
  | assign (target value : Term)
  /-- A call for its effect. -/
  | call (function : Term) (arguments : Terms)
  | branch (condition : Term) (body otherwise : Body)
  /-- A loop over numbers: the first, the last and maybe the step. -/
  | count (name : String) (range : Terms) (body : Body)
  /-- A loop over what an iterator gives. -/
  | each (names : List String) (source : Terms) (body : Body)
  | result (values : Terms)
  deriving DecidableEq

/-- Statements one after the other. -/
inductive Body where
  | done
  | more (head : Statement) (tail : Body)
  deriving DecidableEq

end

/-- The expressions of a list. -/
@[simp] def Terms.ofList : List Term → Terms
  | [] => .empty
  | head :: tail => .more head (ofList tail)

/-- The statements of a list. -/
@[simp] def Body.ofList : List Statement → Body
  | [] => .done
  | head :: tail => .more head (ofList tail)

/-- The definition of a global function. -/
structure Function where
  name : String
  parameters : List String
  body : Body
  deriving DecidableEq

/-- A reference to a name, with the names that are bound there. -/
abbrev Reference := String × List String

mutual

/-- The references in an expression. -/
@[simp] def Term.references
    (bound : List String) :
    Term → List Reference
  | .nil | .bool _ | .numeral _ | .string _ => []
  | .name text => [(text, bound)]
  | .field table _ => table.references bound
  | .index table key => table.references bound ++ key.references bound
  | .call function arguments => function.references bound ++ arguments.references bound
  | .list items => items.references bound
  | .unary _ operand => operand.references bound
  | .binary _ left right => left.references bound ++ right.references bound

/-- The references in expressions. -/
@[simp] def Terms.references
    (bound : List String) :
    Terms → List Reference
  | .empty => []
  | .more head tail => head.references bound ++ tail.references bound

end

/-- The names that a statement binds in what follows it. -/
@[simp] def Statement.declares : Statement → List String
  | .declare names _ => names
  | _ => []

mutual

/-- The references in a statement; a local variable is not bound yet in its own value. -/
@[simp] def Statement.references
    (bound : List String) :
    Statement → List Reference
  | .declare _ values => values.references bound
  | .assign target value => target.references bound ++ value.references bound
  | .call function arguments => function.references bound ++ arguments.references bound
  | .branch condition body otherwise =>
      condition.references bound ++ body.references bound ++ otherwise.references bound
  | .count name range body => range.references bound ++ body.references (name :: bound)
  | .each names source body => source.references bound ++ body.references (names ++ bound)
  | .result values => values.references bound

/-- The references in statements. -/
@[simp] def Body.references
    (bound : List String) :
    Body → List Reference
  | .done => []
  | .more head tail => head.references bound ++ tail.references (head.declares ++ bound)

end

mutual

/-- The names that a statement assigns to, as references. -/
@[simp] def Statement.targets
    (bound : List String) :
    Statement → List Reference
  | .assign (.name text) _ => [(text, bound)]
  | .branch _ body otherwise => body.targets bound ++ otherwise.targets bound
  | .count name _ body => body.targets (name :: bound)
  | .each names _ body => body.targets (names ++ bound)
  | _ => []

/-- The names that statements assign to, as references. -/
@[simp] def Body.targets
    (bound : List String) :
    Body → List Reference
  | .done => []
  | .more head tail => head.targets bound ++ tail.targets (head.declares ++ bound)

end

mutual

/-- All names that a statement binds anywhere. -/
@[simp] def Statement.binders : Statement → List String
  | .declare names _ => names
  | .branch _ body otherwise => body.binders ++ otherwise.binders
  | .count name _ body => name :: body.binders
  | .each names _ body => names ++ body.binders
  | _ => []

/-- All names that statements bind anywhere. -/
@[simp] def Body.binders : Body → List String
  | .done => []
  | .more head tail => head.binders ++ tail.binders

end

namespace Function

/-- The references in a function. -/
def references (function : Function) : List Reference :=
  function.body.references function.parameters

/-- The names that a function assigns to, as references. -/
def targets (function : Function) : List Reference :=
  function.body.targets function.parameters

/-- All names that a function binds, its parameters among them. -/
def binders (function : Function) : List String :=
  function.parameters ++ function.body.binders

/-- Whether all that a function refers to is bound or known, and all that it assigns to is bound. -/
def Within
    (known : List String)
    (function : Function) : Prop :=
  (∀ reference ∈ function.references, reference.1 ∈ reference.2 ∨ reference.1 ∈ known) ∧
  ∀ target ∈ function.targets, target.1 ∈ target.2

instance (known : List String) (function : Function) : Decidable (function.Within known) :=
  inferInstanceAs (Decidable (_ ∧ _))

/-- Whether a function refers to a global of this name. -/
def RefersTo
    (function : Function)
    (name : String) : Prop :=
  ∃ bound, (name, bound) ∈ function.references ∧ name ∉ bound

/-- Whether a function assigns to a global of this name. -/
def AssignsTo
    (function : Function)
    (name : String) : Prop :=
  ∃ bound, (name, bound) ∈ function.targets ∧ name ∉ bound

variable {known : List String} {function : Function}

/-- A global that a function refers to is known. -/
theorem Within.mem_of_refersTo
    (h : function.Within known)
    {name : String}
    (hname : function.RefersTo name) :
    name ∈ known := by
  obtain ⟨bound, hmem, hfree⟩ := hname
  exact (h.1 _ hmem).resolve_left hfree

/-- A function assigns to no global. -/
theorem Within.not_assignsTo
    (h : function.Within known)
    (name : String) :
    ¬ function.AssignsTo name := by
  rintro ⟨bound, hmem, hfree⟩
  exact hfree (h.2 _ hmem)

end Function
end Script
end Lua
end MathBlocks
