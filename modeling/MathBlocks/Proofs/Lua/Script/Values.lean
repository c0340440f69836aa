import Mathlib.Analysis.Real.Sqrt
import Mathlib.Data.List.Sort
import MathBlocks.Proofs.Lua.Lexer

/-!
# Lua values

Numbers are exact: they are the real numbers and the one that is no number, which zero over zero
gives. Tables are lists without holes, which values refer to by their addresses; no value has a
metatable. What an operator or a function makes of values may be an error of the language, or it may
be outside of what exact numbers and lists tell, as are infinite numbers, strings that are read as
numbers and the order of strings.
-/

namespace MathBlocks
namespace Lua
namespace Script

/-- A number in exact arithmetic, or the one that is no number. -/
inductive Number where
  | exact (value : ℝ)
  | nan

/-- A value other than nil. -/
inductive Datum where
  | bool (value : Bool)
  | number (value : Number)
  | string (text : String)
  /-- The list at an address. -/
  | list (address : Nat)
  | function (id : Nat)
  | thread (id : Nat)
  | userdata (id : Nat)

/-- A value, where none stands for nil. -/
abbrev Value := Option Datum

/-- The lists by their addresses. -/
abbrev Tables := List (List Datum)

/-- Why there is no result. -/
inductive Failure where
  /-- The language has an error there. -/
  | error
  /-- Exact numbers and lists do not tell. -/
  | outside
  deriving DecidableEq, Repr

/-- What reads and changes the lists and may fail. -/
abbrev Action := StateT Tables (Except Failure)

/-- What a function does with its arguments. -/
abbrev Behaviour := List Value → Action (List Value)

section Running

variable {α β : Type} {action : Action α} {next : α → Action β} {tables after : Tables}

/-- What follows an action that succeeds goes on from what it gives and the lists that it leaves. -/
theorem run_bind_ok
    {value : α}
    (h : action.run tables = .ok (value, after)) :
    (action >>= next).run tables = (next value).run after := by
  rw [StateT.run_bind, h]
  rfl

/-- What follows an action that fails is not done. -/
theorem run_bind_error
    {failure : Failure}
    (h : action.run tables = .error failure) :
    (action >>= next).run tables = .error failure := by
  rw [StateT.run_bind, h]
  rfl

end Running

/-- An exact number in a list. -/
abbrev Datum.exact (value : ℝ) : Datum :=
  .number (.exact value)

/-- The value of an exact number. -/
abbrev number (value : ℝ) : Value :=
  some (.exact value)

/-- The value of an answer to a question. -/
abbrev truth (value : Bool) : Value :=
  some (.bool value)

namespace Number

/-- What is left of a number once the floored quotient is taken off. -/
noncomputable def remainder (dividend divisor : ℝ) : ℝ :=
  dividend - divisor * ⌊dividend / divisor⌋

/-- Nothing is left of a whole number exactly when its whole divisor divides it. -/
theorem remainder_natCast_eq_zero_iff
    (dividend divisor : Nat) :
    remainder dividend divisor = 0 ↔ divisor ∣ dividend := by
  have hfloor : ⌊(dividend : ℝ) / divisor⌋ = ((dividend / divisor : Nat) : Int) := by
    rw [Int.floor_div_natCast, Int.floor_natCast, Int.natCast_ediv]
  rw [remainder, hfloor, sub_eq_zero, Nat.dvd_iff_div_mul_eq, mul_comm]
  exact_mod_cast eq_comm

/-- Nothing is left of a number over one exactly when it is whole. -/
theorem remainder_one_eq_zero_iff
    (dividend : ℝ) :
    remainder dividend 1 = 0 ↔ dividend = ⌊dividend⌋ := by
  rw [remainder, div_one, one_mul, sub_eq_zero]

/-- What is no number stays no number. -/
def lift
    (operation : ℝ → ℝ → Except Failure Number) :
    Number → Number → Except Failure Number
  | .exact left, .exact right => operation left right
  | _, _ => .ok .nan

/-- What arithmetic makes of two numbers; no other number than zero is divided by zero. -/
noncomputable def arithmetic : Operator → Number → Number → Except Failure Number
  | .plus => lift fun left right => .ok (.exact (left + right))
  | .minus => lift fun left right => .ok (.exact (left - right))
  | .times => lift fun left right => .ok (.exact (left * right))
  | .over => lift fun left right =>
      if right ≠ 0 then .ok (.exact (left / right))
      else if left = 0 then .ok .nan
      else .error .outside
  | .modulo => lift fun left right =>
      if right ≠ 0 then .ok (.exact (remainder left right)) else .error .outside
  | _ => fun _ _ => .error .outside

/-- What an operation gives for two numbers; what is no number stays no number. -/
def both (operation : ℝ → ℝ → ℝ) : Number → Number → Number
  | .exact left, .exact right => .exact (operation left right)
  | _, _ => .nan

@[simp] theorem both_exact
    (operation : ℝ → ℝ → ℝ)
    (left right : ℝ) :
    both operation (.exact left) (.exact right) = .exact (operation left right) :=
  rfl

@[simp] theorem nan_both
    (operation : ℝ → ℝ → ℝ)
    (right : Number) :
    both operation .nan right = .nan :=
  rfl

@[simp] theorem both_nan
    (operation : ℝ → ℝ → ℝ)
    (left : Number) :
    both operation left .nan = .nan := by
  cases left <;> rfl

/-- An operation that always has a result is one of all numbers. -/
theorem lift_exact
    (operation : ℝ → ℝ → ℝ)
    (left right : Number) :
    lift (fun left right => .ok (.exact (operation left right))) left right =
      .ok (both operation left right) := by
  cases left <;> cases right <;> rfl

/-- Any number is divided by one that is not zero. -/
theorem arithmetic_over
    {divisor : ℝ}
    (hdivisor : divisor ≠ 0)
    (dividend : Number) :
    arithmetic .over dividend (.exact divisor) = .ok (both (· / ·) dividend (.exact divisor)) := by
  cases dividend with
  | exact value =>
      exact if_pos hdivisor
  | nan =>
      rfl

/-- Zero over zero is no number. -/
theorem arithmetic_over_zero :
    arithmetic .over (.exact 0) (.exact 0) = .ok .nan := by
  show (if (0 : ℝ) ≠ 0 then _ else if (0 : ℝ) = 0 then _ else _ : Except Failure Number) = _
  rw [if_neg (not_not.mpr rfl), if_pos rfl]

/-- The sum of numbers. -/
noncomputable def total (values : List Number) : Number :=
  values.foldl (both (· + ·)) (.exact 0)

theorem total_concat
    (values : List Number)
    (value : Number) :
    total (values ++ [value]) = both (· + ·) (total values) value := by
  rw [total, List.foldl_concat]
  rfl

/-- The sum of exact numbers is exact. -/
theorem total_exact
    (values : List ℝ) :
    total (values.map .exact) = .exact values.sum := by
  induction values using List.reverseRecOn with
  | nil =>
      rfl
  | append_singleton values value ih =>
      rw [List.map_append, List.map_singleton, total_concat, ih, both_exact, List.sum_append,
        List.sum_singleton]

/-- One that is no number makes the sum none. -/
theorem total_of_nan
    {values : List Number}
    (h : .nan ∈ values) :
    total values = .nan := by
  induction values using List.reverseRecOn with
  | nil =>
      cases h
  | append_singleton values value ih =>
      rw [total_concat]
      rcases List.mem_append.mp h with hvalues | hvalue
      · rw [ih hvalues, nan_both]
      · rw [← List.mem_singleton.mp hvalue, both_nan]

/-- Whether two numbers are in that order, which no number is with what is none. -/
noncomputable def compare : Operator → Number → Number → Bool
  | .less, .exact left, .exact right => decide (left < right)
  | .lessEqual, .exact left, .exact right => decide (left ≤ right)
  | .greater, .exact left, .exact right => decide (right < left)
  | .greaterEqual, .exact left, .exact right => decide (right ≤ left)
  | _, _, _ => false

/-- The square root of a number that is not negative. -/
noncomputable def squareRoot : Number → Number
  | .exact value => if 0 ≤ value then .exact √value else .nan
  | .nan => .nan

theorem squareRoot_exact
    {value : ℝ}
    (hvalue : 0 ≤ value) :
    squareRoot (.exact value) = .exact √value :=
  if_pos hvalue

/-- The least whole number that is not smaller. -/
noncomputable def ceiling : Number → Number
  | .exact value => .exact ⌈value⌉
  | .nan => .nan

end Number

namespace Datum

/-- The exact number that a value is. -/
def real? : Datum → Option ℝ
  | .number (.exact value) => some value
  | _ => none

/-- The number that a value is, exact or not. -/
def number? : Datum → Option Number
  | .number value => some value
  | _ => none

/-- The numbers of a list of numbers. -/
@[simp] theorem filterMap_number?
    (values : List Number) :
    (values.map Datum.number).filterMap number? = values := by
  rw [List.filterMap_map]
  exact List.filterMap_some

/-- A number at the end of a list is the last one of its numbers. -/
theorem filterMap_number?_concat
    (items : List Datum)
    (value : Number) :
    (items ++ [Datum.number value]).filterMap number? = items.filterMap number? ++ [value] := by
  rw [List.filterMap_append]
  rfl

/-- Whether a value is a number, exact or not. -/
def isNumber : Datum → Bool
  | .number _ => true
  | _ => false

/-- The name of the type of a value. -/
def typeName : Datum → String
  | .bool _ => "boolean"
  | .number _ => "number"
  | .string _ => "string"
  | .list _ => "table"
  | .function _ => "function"
  | .thread _ => "thread"
  | .userdata _ => "userdata"

/-- Numbers are what the name of their type says. -/
theorem typeName_eq_number_iff
    (datum : Datum) :
    datum.typeName = "number" ↔ datum.isNumber = true := by
  cases datum <;> simp [typeName, isNumber]

/-- Among entries that are exact numbers if they are numbers, the numbers can all be compared. -/
theorem mapM_real?_filter
    {items : List Datum}
    (hexact : ∀ item ∈ items, item ≠ .number .nan) :
    (items.filter isNumber).mapM real? = some (items.filterMap real?) := by
  induction items with
  | nil =>
      rfl
  | cons item rest ih =>
      have hrest := ih fun other hother => hexact other (List.mem_cons_of_mem _ hother)
      cases item with
      | number value =>
          cases value with
          | exact value =>
              rw [List.filter_cons_of_pos rfl, List.mapM_cons, hrest]
              rfl
          | nan =>
              exact absurd rfl (hexact _ List.mem_cons_self)
      | _ =>
          exact hrest

end Datum

namespace Value

/-- Whether a value counts as true. -/
def holds : Value → Bool
  | none => false
  | some (.bool value) => value
  | some _ => true

open Classical in
/-- Whether two values are equal, which the one that is no number is not even to itself. -/
noncomputable def equals (left right : Value) : Bool :=
  decide (left = right ∧ left ≠ some (.number .nan))

theorem equals_eq_true_iff
    (left right : Value) :
    equals left right = true ↔ left = right ∧ left ≠ some (.number .nan) := by
  simp [equals]

/-- The number that an operator on numbers takes a value for. -/
def toNumber : Value → Except Failure Number
  | some (.number value) => .ok value
  | some (.string _) => .error .outside
  | _ => .error .error

/-- The exact number that the range of a loop has a value for. -/
def toExact (value : Value) : Except Failure ℝ :=
  match toNumber value with
  | .ok (.exact value) => .ok value
  | .ok .nan => .error .outside
  | .error failure => .error failure

/-- Whether values are in that order; no values of other types than numbers and strings are. -/
noncomputable def ordered (operator : Operator) : Value → Value → Except Failure Bool
  | some (.number left), some (.number right) => .ok (Number.compare operator left right)
  | some (.string _), some (.string _) => .error .outside
  | _, _ => .error .error

/-- What an operator makes of two values. -/
noncomputable def combine
    (left right : Value) :
    Operator → Except Failure Value
  | .equal => .ok (truth (equals left right))
  | .unequal => .ok (truth (!equals left right))
  | operator =>
      if operator ∈ [.less, .lessEqual, .greater, .greaterEqual] then
        (ordered operator left right).map truth
      else do
        let result ← Number.arithmetic operator (← toNumber left) (← toNumber right)
        pure (some (.number result))

end Value

/-- The entry of a list under a key; the first one has the key one. -/
noncomputable def entry (items : List Datum) : Value → Value
  | some (.number (.exact key)) =>
      if key = ⌊key⌋₊ ∧ key ≠ 0 then items[⌊key⌋₊ - 1]? else none
  | _ => none

/-- Under each number from one on is the entry in that place. -/
@[simp] theorem entry_number_succ
    (items : List Datum)
    (place : Nat) :
    entry items (number ((place : ℝ) + 1)) = items[place]? := by
  have hkey : (place : ℝ) + 1 = ((place + 1 : Nat) : ℝ) := by
    push_cast
    rfl
  rw [hkey, number, entry, Nat.floor_natCast, if_pos ⟨rfl, by positivity⟩, Nat.add_sub_cancel]

/-- In an empty list is nothing. -/
@[simp] theorem entry_nil
    (key : Value) :
    entry [] key = none := by
  unfold entry
  split
  · simp
  · rfl

/-- The list that a value refers to. -/
def listed : Value → Action (List Datum)
  | some (.list address) => do
      match (← get)[address]? with
      | some items => pure items
      | none => throw .outside
  | some (.string _) => throw .outside
  | _ => throw .error

/-- A new list with these entries. -/
def allocate (items : List Datum) : Action Value := do
  let tables ← get
  set (tables ++ [items])
  pure (some (.list tables.length))

section Lists

variable {tables : Tables} {address : Nat} {items : List Datum}

theorem listed_list
    (h : tables[address]? = some items) :
    (listed (some (.list address))).run tables = .ok (items, tables) := by
  have hget : (get : Action Tables).run tables = .ok (tables, tables) :=
    rfl
  rw [listed, run_bind_ok hget, h]
  rfl

theorem listed_latest
    (tables : Tables)
    (items : List Datum) :
    (listed (some (.list tables.length))).run (tables ++ [items]) =
      .ok (items, tables ++ [items]) :=
  listed_list (by simp)

end Lists

/-- Changes the list that a value refers to. -/
def update
    (change : List Datum → Except Failure (List Datum)) :
    Value → Action Unit
  | some (.list address) => do
      let items ← listed (some (.list address))
      let items ← (change items : Except Failure _)
      modify fun tables => tables.set address items
  | value => do
      let _ ← listed value

theorem update_list
    {tables : Tables}
    {address : Nat}
    {items changed : List Datum}
    {change : List Datum → Except Failure (List Datum)}
    (h : tables[address]? = some items)
    (hchange : change items = .ok changed) :
    (update change (some (.list address))).run tables = .ok ((), tables.set address changed) := by
  rw [update, run_bind_ok (listed_list h), hchange]
  rfl

/-- Exact numbers in ascending order. -/
noncomputable def sorted (items : List Datum) : Except Failure (List Datum) :=
  match items.mapM Datum.real? with
  | some values => .ok ((values.insertionSort (· ≤ ·)).map .exact)
  | none => .error .outside

/-- What a function of one number makes of it. -/
def ofNumber (operation : Number → Number) : Behaviour
  | value :: _ => do
      let argument ← (Value.toNumber value : Except Failure _)
      pure [some (.number (operation argument))]
  | [] => throw .error

/-- Puts an entry at the end of a list. -/
def insertEntry : Behaviour
  | [list, some item] => do
      update (fun items => .ok (items ++ [item])) list
      pure []
  | _ => throw .outside

/-- Sorts the entries of a list. -/
noncomputable def sortEntries : Behaviour
  | [list] => do
      update sorted list
      pure []
  | _ => throw .outside

/-- The functions of the language, by the names on the path to them. -/
noncomputable def library? : List String → Option Behaviour
  | ["type"] => some fun
      | none :: _ => pure [some (.string "nil")]
      | some value :: _ => pure [some (.string value.typeName)]
      | [] => throw .error
  | ["math", "sqrt"] => some (ofNumber Number.squareRoot)
  | ["math", "ceil"] => some (ofNumber Number.ceiling)
  | ["table", "insert"] => some insertEntry
  | ["table", "sort"] => some sortEntries
  | _ => none

section Lists

variable {tables : Tables} {items : List Datum}

/-- The latest list gets another entry. -/
theorem insertEntry_run
    (item : Datum) :
    (insertEntry [some (.list tables.length), some item]).run (tables ++ [items]) =
      .ok ([], tables ++ [items ++ [item]]) := by
  have hlist : (tables ++ [items])[tables.length]? = some items := by
    simp
  have hupdate : (update (fun items => .ok (items ++ [item])) (some (.list tables.length))).run
      (tables ++ [items]) = .ok ((), tables ++ [items ++ [item]]) := by
    refine Eq.trans (update_list hlist (by rfl)) ?_
    simp
  rw [insertEntry, run_bind_ok hupdate]
  rfl

/-- The latest list is sorted, if its numbers are exact. -/
theorem sortEntries_run
    (hexact : ∀ item ∈ items, item ≠ .number .nan) :
    (sortEntries [some (.list tables.length)]).run (tables ++ [items.filter Datum.isNumber]) =
      .ok ([], tables ++ [((items.filterMap Datum.real?).insertionSort (· ≤ ·)).map .exact]) := by
  have hlist : (tables ++ [items.filter Datum.isNumber])[tables.length]? =
      some (items.filter Datum.isNumber) := by
    simp
  have hsorted : sorted (items.filter Datum.isNumber) =
      .ok (((items.filterMap Datum.real?).insertionSort (· ≤ ·)).map .exact) := by
    rw [sorted, Datum.mapM_real?_filter hexact]
  have hupdate : (update sorted (some (.list tables.length))).run
      (tables ++ [items.filter Datum.isNumber]) =
      .ok ((), tables ++ [((items.filterMap Datum.real?).insertionSort (· ≤ ·)).map .exact]) := by
    rw [update_list hlist hsorted]
    simp
  rw [sortEntries, run_bind_ok hupdate]
  rfl

end Lists

end Script
end Lua
end MathBlocks
