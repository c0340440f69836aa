/-!
# How tightly an expression binds

The levels of the expressions of the target language, from the ones that never need parentheses
to the ones that always may. An operand is put in parentheses when it binds more loosely than the
place that it goes to allows.
-/

namespace MathBlocks

/-- How tightly an expression binds, tightest first. -/
inductive BindingLevel where
  /-- Literals and names. -/
  | atomic
  /-- Calls. -/
  | call
  /-- `^`, which associates to the right. -/
  | power
  /-- Unary minus. -/
  | unary
  /-- `*`, `/` and `%`. -/
  | product
  /-- `+` and `-`. -/
  | sum
  /-- `..`. -/
  | concatenation
  /-- `==`, `<` and the other comparisons. -/
  | comparison
  /-- `and`. -/
  | conjunction
  /-- `or`. -/
  | disjunction
  /-- Anything at all. -/
  | any
  deriving DecidableEq, Repr

namespace BindingLevel

/-- The place of a level in the order, counted from the tightest. -/
def rank : BindingLevel → Nat
  | .atomic => 0
  | .call => 1
  | .power => 2
  | .unary => 3
  | .product => 4
  | .sum => 5
  | .concatenation => 6
  | .comparison => 7
  | .conjunction => 8
  | .disjunction => 9
  | .any => 10

/-- All levels, tightest first. -/
def all : List BindingLevel :=
  [.atomic, .call, .power, .unary, .product, .sum, .concatenation, .comparison, .conjunction,
   .disjunction, .any]

/-- The name of a level in documents. -/
def name : BindingLevel → String
  | .atomic => "Atomic"
  | .call => "High"
  | .power => "Exponentiation"
  | .unary => "Unary"
  | .product => "Multiplicative"
  | .sum => "Additive"
  | .concatenation => "Concatenation"
  | .comparison => "Relational"
  | .conjunction => "And"
  | .disjunction => "Or"
  | .any => "None"

/-- The level of that name. -/
def ofName? (text : String) : Option BindingLevel :=
  all.find? fun level => level.name = text

/-- A looser level is a greater one. -/
instance : LT BindingLevel where
  lt a b := a.rank < b.rank

/-- A looser level is a greater one. -/
instance : LE BindingLevel where
  le a b := a.rank ≤ b.rank

instance (a b : BindingLevel) : Decidable (a < b) :=
  inferInstanceAs (Decidable (a.rank < b.rank))

instance (a b : BindingLevel) : Decidable (a ≤ b) :=
  inferInstanceAs (Decidable (a.rank ≤ b.rank))

/-- Whether an expression of level `own` needs parentheses where `allowed` is asked for. -/
def exceeds
    (own allowed : BindingLevel) : Bool :=
  decide (allowed < own)

/-- An expression of level `own`, in parentheses if the place that it goes to asks for them. -/
def enclose
    (own : BindingLevel)
    (code : String)
    (allowed : BindingLevel) : String :=
  if own.exceeds allowed then "(" ++ code ++ ")" else code

/-- The next level that binds more tightly; below a call there is only the atomic level. -/
def tightened : BindingLevel → BindingLevel
  | .atomic => .atomic
  | .call => .atomic
  | .power => .call
  | .unary => .power
  | .product => .unary
  | .sum => .product
  | .concatenation => .sum
  | .comparison => .concatenation
  | .conjunction => .comparison
  | .disjunction => .conjunction
  | .any => .disjunction

/-- Levels with the same place in the order are the same. -/
theorem eq_of_rank_eq
    {a b : BindingLevel}
    (h : a.rank = b.rank) :
    a = b := by
  revert h
  cases a <;> cases b <;> decide

/-- A level is no looser than itself. -/
theorem le_refl
    (a : BindingLevel) :
    a ≤ a :=
  Nat.le_refl a.rank

/-- What is no looser than a level is no looser than a looser one. -/
theorem le_trans
    {a b c : BindingLevel}
    (hab : a ≤ b)
    (hbc : b ≤ c) :
    a ≤ c :=
  Nat.le_trans hab hbc

/-- No level is looser than the loosest one. -/
theorem le_any
    (a : BindingLevel) :
    a ≤ .any := by
  cases a <;> decide

/-- A level that is not as tight as another one is looser. -/
theorem lt_of_not_le
    {a b : BindingLevel}
    (h : ¬ a ≤ b) :
    b < a :=
  Nat.lt_of_not_le h

/-- An expression that binds tightly enough stays as it is. -/
theorem enclose_of_le
    {own allowed : BindingLevel}
    (code : String)
    (h : own ≤ allowed) :
    own.enclose code allowed = code := by
  have : ¬ allowed < own := Nat.not_lt.mpr h
  simp [enclose, exceeds, this]

/-- An expression that binds too loosely goes into parentheses. -/
theorem enclose_of_lt
    {own allowed : BindingLevel}
    (code : String)
    (h : allowed < own) :
    own.enclose code allowed = "(" ++ code ++ ")" := by
  simp [enclose, exceeds, h]

end BindingLevel
end MathBlocks
