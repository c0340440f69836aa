import MathBlocks.Proofs.Lua.Script.Syntax
import MathBlocks.Proofs.Lua.Script.Values
import MathBlocks.Proofs.Lua.Value

/-!
# Running Lua functions

What the trees of functions do, by recursion on the trees. Local variables are kept from the latest
to the earliest, so that a block is left by dropping what was declared in it. The functions of the
language are found on their paths unless a local variable hides them; what other functions do is
given. Assignments go to local variables only, and a loop over a list reads every entry when it
comes to it.
-/

namespace MathBlocks
namespace Lua
namespace Script

/-- The local variables with their values, the latest first. -/
abbrev Locals := List (String × Value)

namespace Locals

/-- Declares variables, with nil for those that no value is left for. -/
def declare : List String → List Value → Locals → Locals
  | [], _, locals => locals
  | name :: names, values, locals =>
      declare names values.tail ((name, values.head?.join) :: locals)

/-- Gives another value to the latest variable of a name. -/
def assign
    (name : String)
    (value : Value) : Locals → Option Locals
  | [] => none
  | (other, old) :: rest =>
      if other = name then
        some ((other, value) :: rest)
      else
        (assign name value rest).map fun rest => (other, old) :: rest

end Locals

/-- How statements end. -/
inductive Flow where
  /-- What follows them is next. -/
  | next (locals : Locals)
  /-- The function returns these values. -/
  | back (values : List Value)

/-- How statements end once the variables that are declared in them are gone. -/
def Flow.leave (outer : Locals) : Flow → Flow
  | .next inner => .next (inner.drop (inner.length - outer.length))
  | .back values => .back values

/-- Statements that leave the variables as they are declare none. -/
@[simp] theorem Flow.leave_next_self
    (locals : Locals) :
    (Flow.next locals).leave locals = .next locals := by
  rw [Flow.leave, Nat.sub_self, List.drop_zero]

/-- The names on the path to a global function. -/
def Term.path? (locals : Locals) : Term → Option (List String)
  | .name text => if (locals.lookup text).isNone then some [text] else none
  | .field (.name table) text => if (locals.lookup table).isNone then some [table, text] else none
  | _ => none

section Paths

variable {locals : Locals} {text table : String}

theorem Term.path?_name
    (h : locals.lookup text = none) :
    (Term.name text).path? locals = some [text] := by
  rw [Term.path?, h]
  rfl

theorem Term.path?_field
    (h : locals.lookup table = none) :
    (Term.field (.name table) text).path? locals = some [table, text] := by
  rw [Term.path?, h]
  rfl

end Paths

section Running

variable (functions : String → Option Behaviour)

/-- What the global function on a path does. -/
noncomputable def behaviour? (path : List String) : Option Behaviour :=
  match library? path, path with
  | some behaviour, _ => some behaviour
  | none, [name] => functions name
  | none, _ => none

/-- Calls the global function on a path. -/
noncomputable def callGlobal
    (path : Option (List String))
    (arguments : List Value) : Action (List Value) :=
  match path.bind (behaviour? functions) with
  | some behaviour => behaviour arguments
  | none => throw .outside

mutual

/-- The value of an expression. -/
@[simp] noncomputable def Term.value (locals : Locals) : Term → Action Value
  | .nil => pure none
  | .bool value => pure (truth value)
  | .numeral text =>
      match numeralValue? text with
      | some value => pure (number value)
      | none => throw .outside
  | .string text => pure (some (.string text))
  | .name text =>
      match locals.lookup text with
      | some value => pure value
      | none => throw .outside
  | .field _ _ => throw .outside
  | .index table key => do
      let table ← table.value locals
      let key ← key.value locals
      return entry (← listed table) key
  | .call function arguments => do
      match ← callGlobal functions (function.path? locals) (← arguments.values locals) with
      | [value] => pure value
      | _ => throw .outside
  | .list items => do
      match (← items.values locals).mapM id with
      | some items => allocate items
      | none => throw .outside
  | .unary .minus operand => do
      let result ← (Value.toNumber (← operand.value locals) : Except Failure _)
      let result ← (Number.arithmetic .minus (.exact 0) result : Except Failure _)
      pure (some (.number result))
  | .unary .not operand => do
      return truth (!Value.holds (← operand.value locals))
  | .unary .length operand => do
      return number (← listed (← operand.value locals)).length
  | .binary .and left right => do
      let value ← left.value locals
      if Value.holds value then right.value locals else pure value
  | .binary .or left right => do
      let value ← left.value locals
      if Value.holds value then pure value else right.value locals
  | .binary (.operator operator) left right => do
      let left ← left.value locals
      let right ← right.value locals
      (Value.combine left right operator : Except Failure _)

/-- The values of expressions. -/
@[simp] noncomputable def Terms.values (locals : Locals) : Terms → Action (List Value)
  | .empty => pure []
  | .more head tail => do
      let value ← head.value locals
      let values ← tail.values locals
      pure (value :: values)

end

/-- The numbers from the first one on in equal steps, up to the last one. -/
noncomputable def steps (first last step : ℝ) : List ℝ :=
  (List.range (⌊(last - first) / step⌋ + 1).toNat).map fun count : Nat => first + count * step

/-- The numbers that a loop counts through. -/
noncomputable def counted : List Value → Except Failure (List ℝ)
  | [first, last] => do
      return steps (← Value.toExact first) (← Value.toExact last) 1
  | [first, last, step] => do
      let step ← Value.toExact step
      if step = 0 then
        throw .outside
      else
        return steps (← Value.toExact first) (← Value.toExact last) step
  | _ => throw .outside

/-- Goes through numbers in rounds, up to one that returns. -/
def countUp (round : ℝ → Locals → Action Flow) : List ℝ → Locals → Action Flow
  | [], locals => pure (.next locals)
  | item :: rest, locals => do
      match ← round item locals with
      | .next locals => countUp round rest locals
      | .back values => pure (.back values)

/-- The list that a loop goes through. -/
def Terms.iterated? (locals : Locals) : Terms → Option Term
  | .more (.call function (.more list .empty)) .empty =>
      if function.path? locals = some ["ipairs"] then some list else none
  | _ => none

/--
Goes through the entries of a list in rounds, up to one that returns. The bound on the number of
entries is met as long as the list does not grow.
-/
def walk
    (list : Value)
    (round : Nat → Datum → Locals → Action Flow) : Nat → Nat → Locals → Action Flow
  | 0, _, _ => throw .outside
  | bound + 1, place, locals => do
      match (← listed list)[place]? with
      | none => pure (.next locals)
      | some item => do
          match ← round place item locals with
          | .next locals => walk list round bound (place + 1) locals
          | .back values => pure (.back values)

mutual

/-- What a statement does. -/
@[simp] noncomputable def Statement.run : Statement → Locals → Action Flow
  | .declare names values, locals => do
      return .next (Locals.declare names (← values.values functions locals) locals)
  | .assign target value, locals => do
      let value ← value.value functions locals
      match target with
      | .name text =>
          match Locals.assign text value locals with
          | some locals => pure (.next locals)
          | none => throw .outside
      | _ => throw .outside
  | .call function arguments, locals => do
      let _ ← callGlobal functions (function.path? locals) (← arguments.values functions locals)
      pure (.next locals)
  | .branch condition body otherwise, locals => do
      let value ← condition.value functions locals
      let flow ← if Value.holds value then body.run locals else otherwise.run locals
      pure (flow.leave locals)
  | .count name range body, locals => do
      let range ← (counted (← range.values functions locals) : Except Failure _)
      countUp
        (fun item locals => do
          let flow ← body.run ((name, number item) :: locals)
          pure (flow.leave locals))
        range locals
  | .each names source body, locals => do
      match source.iterated? locals with
      | some list => do
          let list ← list.value functions locals
          walk list
            (fun place item locals => do
              let flow ← body.run
                (Locals.declare names [number ((place : ℝ) + 1), some item] locals)
              pure (flow.leave locals))
            ((← listed list).length + 1) 0 locals
      | none => throw .outside
  | .result values, locals => do
      return .back (← values.values functions locals)

/-- What statements do one after the other. -/
@[simp] noncomputable def Body.run : Body → Locals → Action Flow
  | .done, locals => pure (.next locals)
  | .more head tail, locals => do
      match ← head.run locals with
      | .next locals => tail.run locals
      | .back values => pure (.back values)

end

/-- What a function does with its arguments. -/
noncomputable def Function.behaviour (function : Function) : Behaviour :=
  fun arguments => do
    match ← function.body.run functions (Locals.declare function.parameters arguments []) with
    | .next _ => pure []
    | .back values => pure values

end Running

end Script
end Lua
end MathBlocks
