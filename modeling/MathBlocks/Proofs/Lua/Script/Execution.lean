import MathBlocks.Proofs.Lua.Script.Run

/-!
# How functions are run

What running gives, construct by construct: the values of expressions that leave the lists as they
are, the questions that conditions ask, what one statement after the other comes to, and what both
kinds of loops come to after all of their rounds.
-/

namespace MathBlocks

/-- A numeral denotes a finite number when it is rounded to it. -/
theorem Lua.numeralValue?_of_units
    {text : String}
    {number : Binary64.Finite}
    (hunits : Numeral.units? text = some number.units) :
    Lua.numeralValue? text = some (Binary64.rational number.units) := by
  simp [Lua.numeralValue?, hunits, number.inRange]

namespace Lua
namespace Script

section Execution

variable {functions : String → Option Behaviour} {locals : Locals} {tables : Tables}

/-- Whether an expression has a value and leaves the lists as they are. -/
def Term.Gives
    (functions : String → Option Behaviour)
    (locals : Locals)
    (tables : Tables)
    (term : Term)
    (value : Value) : Prop :=
  (term.value functions locals).run tables = .ok (value, tables)

/-- Whether expressions have these values and leave the lists as they are. -/
def Terms.Give
    (functions : String → Option Behaviour)
    (locals : Locals)
    (tables : Tables)
    (terms : Terms)
    (values : List Value) : Prop :=
  (terms.values functions locals).run tables = .ok (values, tables)

/-- Whether an expression asks whether a proposition holds. -/
def Term.Asks
    (functions : String → Option Behaviour)
    (locals : Locals)
    (tables : Tables)
    (term : Term)
    (question : Prop) : Prop :=
  ∃ answer, term.Gives functions locals tables (truth answer) ∧ (answer = true ↔ question)

theorem Terms.give_empty :
    Terms.empty.Give functions locals tables [] :=
  rfl

theorem Terms.Give.more
    {head : Term}
    {tail : Terms}
    {value : Value}
    {values : List Value}
    (hhead : head.Gives functions locals tables value)
    (htail : tail.Give functions locals tables values) :
    (Terms.more head tail).Give functions locals tables (value :: values) := by
  unfold Terms.Give
  rw [Terms.values, run_bind_ok hhead, run_bind_ok htail]
  rfl

theorem Term.Gives.single
    {term : Term}
    {value : Value}
    (hterm : term.Gives functions locals tables value) :
    (Terms.ofList [term]).Give functions locals tables [value] :=
  .more hterm Terms.give_empty

/-- Of the functions of the language, `type` is the only one with a name and no more. -/
theorem behaviour?_name
    {name : String}
    (h : name ≠ "type") :
    behaviour? functions [name] = functions name := by
  have hlibrary : library? [name] = none := by
    unfold library?
    split <;> simp_all
  unfold behaviour?
  rw [hlibrary]

namespace Term

theorem gives_bool
    {value : Bool} :
    (Term.bool value).Gives functions locals tables (truth value) :=
  rfl

theorem gives_string
    (text : String) :
    (Term.string text).Gives functions locals tables (some (.string text)) :=
  rfl

theorem gives_numeral
    {text : String}
    {denoted : ℚ}
    {value : ℝ}
    (hnumeral : numeralValue? text = some denoted)
    (hvalue : (denoted : ℝ) = value) :
    (Term.numeral text).Gives functions locals tables (number value) := by
  unfold Gives
  rw [Term.value, hnumeral, ← hvalue]
  rfl

/-- A numeral of a whole number has it as its value. -/
theorem gives_whole
    (whole : Nat)
    {text : String}
    {value : ℝ}
    (hvalue : (whole : ℝ) = value)
    (hlt : whole < 2 ^ 53)
    (hunits : Numeral.units? text = some (whole * Binary64.unitsPerOne)) :
    (Term.numeral text).Gives functions locals tables (number value) := by
  have hnumeral : numeralValue? text = some (whole : ℚ) := by
    rw [← Binary64.rational_whole hlt]
    exact numeralValue?_of_units hunits
  exact gives_numeral hnumeral (by rw [Rat.cast_natCast, hvalue])

theorem gives_zero :
    (Term.numeral "0").Gives functions locals tables (number 0) :=
  gives_whole 0 Nat.cast_zero (by decide) (by decide +kernel)

theorem gives_one :
    (Term.numeral "1").Gives functions locals tables (number 1) :=
  gives_whole 1 Nat.cast_one (by decide) (by decide +kernel)

theorem gives_two :
    (Term.numeral "2").Gives functions locals tables (number 2) :=
  gives_whole 2 Nat.cast_ofNat (by decide) (by decide +kernel)

theorem gives_three :
    (Term.numeral "3").Gives functions locals tables (number 3) :=
  gives_whole 3 Nat.cast_ofNat (by decide) (by decide +kernel)

theorem gives_six :
    (Term.numeral "6").Gives functions locals tables (number 6) :=
  gives_whole 6 Nat.cast_ofNat (by decide) (by decide +kernel)

theorem gives_oneAndHalf :
    (Term.numeral "1.5").Gives functions locals tables (number 1.5) := by
  have hdouble : Binary64.unitsPerOne = 2 * (Binary64.unitsPerOne / 2) := by
    decide +kernel
  have hunits : Numeral.units? "1.5" = some (3 * (Binary64.unitsPerOne / 2)) := by
    decide +kernel
  have hfinite : 3 * (Binary64.unitsPerOne / 2) < Binary64.limit := by
    decide +kernel
  have hrational : Binary64.rational (3 * (Binary64.unitsPerOne / 2)) = 3 / 2 := by
    have hhalf : ((Binary64.unitsPerOne / 2 : Nat) : ℚ) ≠ 0 := by
      exact_mod_cast (show Binary64.unitsPerOne / 2 ≠ 0 by decide +kernel)
    have hcast : (Binary64.unitsPerOne : ℚ) = 2 * ((Binary64.unitsPerOne / 2 : Nat) : ℚ) := by
      exact_mod_cast hdouble
    rw [Binary64.rational, hcast, Nat.cast_mul, Nat.cast_ofNat, mul_div_mul_right _ _ hhalf]
  have hnumeral : numeralValue? "1.5" = some (3 / 2) := by
    simp [numeralValue?, hunits, hfinite, hrational]
  exact gives_numeral hnumeral (by norm_num)

theorem gives_name
    {name : String}
    {value : Value}
    (hname : locals.lookup name = some value) :
    (Term.name name).Gives functions locals tables value := by
  unfold Gives
  rw [Term.value, hname]
  rfl

theorem Gives.binary
    {operator : Operator}
    {left right : Term}
    {first second result : Value}
    (hleft : left.Gives functions locals tables first)
    (hright : right.Gives functions locals tables second)
    (hcombine : Value.combine first second operator = .ok result) :
    (Term.binary (.operator operator) left right).Gives functions locals tables result := by
  unfold Gives
  rw [Term.value, run_bind_ok hleft, run_bind_ok hright, hcombine]
  rfl

/-- Arithmetic is done on numbers. -/
theorem Gives.arithmetic
    {operator : Operator}
    {left right : Term}
    {first second result : Number}
    (hleft : left.Gives functions locals tables (some (.number first)))
    (hright : right.Gives functions locals tables (some (.number second)))
    (hoperator : operator ∈ [Operator.plus, .minus, .times, .over, .modulo])
    (hresult : Number.arithmetic operator first second = .ok result) :
    (Term.binary (.operator operator) left right).Gives functions locals tables
      (some (.number result)) := by
  refine hleft.binary hright ?_
  have hcombine : Value.combine (some (.number first)) (some (.number second)) operator =
      (Number.arithmetic operator first second >>= fun result => pure (some (.number result))) := by
    cases operator <;> first | rfl | simp at hoperator
  rw [hcombine, hresult]
  rfl

/-- An operator that has a result for all real numbers gives it; what is no number stays none. -/
theorem Gives.both
    {operator : Operator}
    {operation : ℝ → ℝ → ℝ}
    {left right : Term}
    {first second : Number}
    (hleft : left.Gives functions locals tables (some (.number first)))
    (hright : right.Gives functions locals tables (some (.number second)))
    (hoperation : ∀ first second,
      Number.arithmetic operator first second = .ok (Number.both operation first second)) :
    (Term.binary (.operator operator) left right).Gives functions locals tables
      (some (.number (Number.both operation first second))) := by
  have hoperator : operator ∈ [Operator.plus, .minus, .times, .over, .modulo] := by
    have hzero := hoperation (.exact 0) (.exact 0)
    cases operator <;> first | decide | cases hzero
  exact hleft.arithmetic hright hoperator (hoperation first second)

/-- The length of a list is the number of its entries. -/
theorem Gives.length
    {operand : Term}
    {list : Value}
    {items : List Datum}
    (hoperand : operand.Gives functions locals tables list)
    (hlist : (listed list).run tables = .ok (items, tables)) :
    (Term.unary .length operand).Gives functions locals tables (number items.length) := by
  unfold Gives
  rw [Term.value, run_bind_ok hoperand, run_bind_ok hlist]
  rfl

/-- An entry of a list is read under its key. -/
theorem Gives.index
    {table key : Term}
    {list under : Value}
    {items : List Datum}
    (htable : table.Gives functions locals tables list)
    (hkey : key.Gives functions locals tables under)
    (hlist : (listed list).run tables = .ok (items, tables)) :
    (Term.index table key).Gives functions locals tables (entry items under) := by
  unfold Gives
  rw [Term.value, run_bind_ok htable, run_bind_ok hkey, run_bind_ok hlist]
  rfl

/-- A call has the only value that the function gives for the arguments. -/
theorem Gives.call
    {function : Term}
    {arguments : Terms}
    {path : List String}
    {behaviour : Behaviour}
    {values : List Value}
    {result : Value}
    (hpath : function.path? locals = some path)
    (hbehaviour : behaviour? functions path = some behaviour)
    (harguments : arguments.Give functions locals tables values)
    (hresult : (behaviour values).run tables = .ok ([result], tables)) :
    (Term.call function arguments).Gives functions locals tables result := by
  have hcall : (callGlobal functions (function.path? locals) values).run tables =
      .ok ([result], tables) := by
    rw [hpath, callGlobal, Option.bind_some, hbehaviour]
    exact hresult
  unfold Gives
  rw [Term.value, run_bind_ok harguments, run_bind_ok hcall]
  rfl

/-- The same question in other words. -/
theorem Asks.congr
    {term : Term}
    {first second : Prop}
    (hterm : term.Asks functions locals tables first)
    (h : first ↔ second) :
    term.Asks functions locals tables second := by
  obtain ⟨answer, hgives, hanswer⟩ := hterm
  exact ⟨answer, hgives, hanswer.trans h⟩

/-- Two values are the same or not; no number is not the same as itself. -/
theorem Gives.asks_same
    {left right : Term}
    {first second : Value}
    (hleft : left.Gives functions locals tables first)
    (hright : right.Gives functions locals tables second)
    (hsecond : second ≠ some (.number .nan)) :
    (Term.binary (.operator .equal) left right).Asks functions locals tables (first = second) := by
  refine ⟨_, hleft.binary hright rfl, ?_⟩
  rw [Value.equals_eq_true_iff]
  exact and_iff_left_of_imp fun h => h ▸ hsecond

section Arithmetic

variable {left right : Term} {a b : ℝ}
variable (hleft : left.Gives functions locals tables (number a))
variable (hright : right.Gives functions locals tables (number b))
include hleft hright

theorem Gives.plus :
    (Term.binary (.operator .plus) left right).Gives functions locals tables (number (a + b)) :=
  hleft.both hright (Number.lift_exact (· + ·))

theorem Gives.minus :
    (Term.binary (.operator .minus) left right).Gives functions locals tables (number (a - b)) :=
  hleft.both hright (Number.lift_exact (· - ·))

theorem Gives.over
    (hb : b ≠ 0) :
    (Term.binary (.operator .over) left right).Gives functions locals tables (number (a / b)) :=
  hleft.arithmetic hright (by simp) (if_pos hb)

theorem Gives.modulo
    (hb : b ≠ 0) :
    (Term.binary (.operator .modulo) left right).Gives functions locals tables
      (number (Number.remainder a b)) :=
  hleft.arithmetic hright (by simp) (if_pos hb)

theorem Gives.asks_equal :
    (Term.binary (.operator .equal) left right).Asks functions locals tables (a = b) :=
  (hleft.asks_same hright (by simp)).congr (by simp)

theorem Gives.asks_unequal :
    (Term.binary (.operator .unequal) left right).Asks functions locals tables (a ≠ b) :=
  ⟨_, hleft.binary hright rfl, by simp [Value.equals]⟩

theorem Gives.asks_greater :
    (Term.binary (.operator .greater) left right).Asks functions locals tables (b < a) :=
  ⟨_, hleft.binary hright rfl, by simp [Number.compare]⟩

end Arithmetic

/-- A negation asks for the opposite. -/
theorem Asks.not
    {operand : Term}
    {question : Prop}
    (hoperand : operand.Asks functions locals tables question) :
    (Term.unary .not operand).Asks functions locals tables (¬ question) := by
  obtain ⟨answer, hgives, hanswer⟩ := hoperand
  refine ⟨!answer, ?_, by simp [← hanswer]⟩
  unfold Gives
  rw [Term.value, run_bind_ok hgives]
  rfl

/-- The second of two questions is only asked if the first one is answered in the negative. -/
theorem Asks.or
    {left right : Term}
    {first second : Prop}
    (hleft : left.Asks functions locals tables first)
    (hright : ¬ first → right.Asks functions locals tables second) :
    (Term.binary .or left right).Asks functions locals tables (first ∨ second) := by
  obtain ⟨answer, hgives, hanswer⟩ := hleft
  cases answer with
  | true =>
      refine ⟨true, ?_, by simp [hanswer.mp rfl]⟩
      unfold Gives
      rw [Term.value, run_bind_ok hgives]
      rfl
  | false =>
      have hfirst : ¬ first :=
        fun h => Bool.false_ne_true (hanswer.mpr h)
      obtain ⟨other, hother, hsecond⟩ := hright hfirst
      refine ⟨other, ?_, by simp [hfirst, hsecond]⟩
      unfold Gives
      rw [Term.value, run_bind_ok hgives]
      exact hother

/-- With `and` and `or`, a condition chooses between two values, if the first counts as true. -/
theorem Asks.choose
    {condition chosen other : Term}
    {question : Prop}
    {value : Value}
    (hcondition : condition.Asks functions locals tables question)
    (hchosen : question →
      chosen.Gives functions locals tables value ∧ Value.holds value = true)
    (hother : ¬ question → other.Gives functions locals tables value) :
    (Term.binary .or (.binary .and condition chosen) other).Gives functions locals tables
      value := by
  obtain ⟨answer, hgives, hanswer⟩ := hcondition
  cases answer with
  | true =>
      obtain ⟨hvalue, hholds⟩ := hchosen (hanswer.mp rfl)
      have hboth : (Term.binary .and condition chosen).Gives functions locals tables value := by
        unfold Gives
        rw [Term.value, run_bind_ok hgives]
        exact hvalue
      unfold Gives
      rw [Term.value, run_bind_ok hboth, if_pos hholds]
      rfl
  | false =>
      have hquestion : ¬ question :=
        fun h => Bool.false_ne_true (hanswer.mpr h)
      have hboth : (Term.binary .and condition chosen).Gives functions locals tables
          (truth false) := by
        unfold Gives
        rw [Term.value, run_bind_ok hgives]
        rfl
      unfold Gives
      rw [Term.value, run_bind_ok hboth]
      exact hother hquestion

end Term

section Statements

variable {after : Tables}

theorem Body.run_done :
    (Body.done.run functions locals).run tables = .ok (.next locals, tables) :=
  rfl

theorem Body.run_more_next
    {head : Statement}
    {tail : Body}
    {inner : Locals}
    (hhead : (head.run functions locals).run tables = .ok (.next inner, after)) :
    ((Body.more head tail).run functions locals).run tables =
      (tail.run functions inner).run after := by
  rw [Body.run, run_bind_ok hhead]

theorem Body.run_more_back
    {head : Statement}
    {tail : Body}
    {values : List Value}
    (hhead : (head.run functions locals).run tables = .ok (.back values, after)) :
    ((Body.more head tail).run functions locals).run tables = .ok (.back values, after) := by
  rw [Body.run, run_bind_ok hhead]
  rfl

theorem Body.run_more_error
    {head : Statement}
    {tail : Body}
    {failure : Failure}
    (hhead : (head.run functions locals).run tables = .error failure) :
    ((Body.more head tail).run functions locals).run tables = .error failure := by
  rw [Body.run, run_bind_error hhead]

/-- Statements that do not return are followed by those behind them. -/
theorem Body.run_append
    {inner : Locals}
    (rest : List Statement) :
    (before : List Statement) →
    (locals : Locals) →
    (tables : Tables) →
    ((Body.ofList before).run functions locals).run tables = .ok (.next inner, after) →
    ((Body.ofList (before ++ rest)).run functions locals).run tables =
      ((Body.ofList rest).run functions inner).run after
  | [], _, _, hbefore => by
      cases hbefore
      rfl
  | head :: before, locals, tables, hbefore => by
      rw [Body.ofList] at hbefore
      cases hhead : (head.run functions locals).run tables with
      | error failure =>
          rw [Body.run_more_error hhead] at hbefore
          cases hbefore
      | ok result =>
          obtain ⟨flow, middle⟩ := result
          cases flow with
          | next between =>
              rw [Body.run_more_next hhead] at hbefore
              rw [List.cons_append, Body.ofList, Body.run_more_next hhead]
              exact run_append rest before between middle hbefore
          | back values =>
              rw [Body.run_more_back hhead] at hbefore
              cases hbefore

theorem Statement.run_declare
    {names : List String}
    {terms : Terms}
    {values : List Value}
    (hterms : (terms.values functions locals).run tables = .ok (values, after)) :
    ((Statement.declare names terms).run functions locals).run tables =
      .ok (.next (Locals.declare names values locals), after) := by
  rw [Statement.run, run_bind_ok hterms]
  rfl

theorem Statement.run_assign
    {text : String}
    {term : Term}
    {value : Value}
    {assigned : Locals}
    (hterm : term.Gives functions locals tables value)
    (hassign : Locals.assign text value locals = some assigned) :
    ((Statement.assign (.name text) term).run functions locals).run tables =
      .ok (.next assigned, tables) := by
  rw [Statement.run, run_bind_ok hterm]
  simp only [hassign]
  rfl

/-- A variable that there is has the value that it is given. -/
theorem Locals.exists_assign
    {name : String}
    (value : Value) :
    (locals : Locals) →
    (locals.lookup name).isSome →
    ∃ assigned, Locals.assign name value locals = some assigned ∧
      assigned.lookup name = some value
  | [], hname => by
      cases hname
  | (other, old) :: rest, hname => by
      by_cases hother : other = name
      · subst hother
        exact ⟨(other, value) :: rest, if_pos rfl, List.lookup_cons_self⟩
      · have hne : (name == other) = false :=
          beq_false_of_ne (Ne.symm hother)
        rw [List.lookup_cons, hne] at hname
        obtain ⟨assigned, hassign, hlookup⟩ := exists_assign value rest hname
        refine ⟨(other, old) :: assigned, ?_, ?_⟩
        · rw [Locals.assign, if_neg hother, hassign]
          rfl
        · rw [List.lookup_cons, hne]
          exact hlookup

/-- A call for its effect only changes lists. -/
theorem Statement.run_call
    {function : Term}
    {arguments : Terms}
    {path : List String}
    {behaviour : Behaviour}
    {values results : List Value}
    (hpath : function.path? locals = some path)
    (hbehaviour : behaviour? functions path = some behaviour)
    (harguments : arguments.Give functions locals tables values)
    (hresults : (behaviour values).run tables = .ok (results, after)) :
    ((Statement.call function arguments).run functions locals).run tables =
      .ok (.next locals, after) := by
  have hcall : (callGlobal functions (function.path? locals) values).run tables =
      .ok (results, after) := by
    rw [hpath, callGlobal, Option.bind_some, hbehaviour]
    exact hresults
  rw [Statement.run, run_bind_ok harguments, run_bind_ok hcall]
  rfl

theorem Statement.run_result
    {terms : Terms}
    {values : List Value}
    (hterms : terms.Give functions locals tables values) :
    ((Statement.result terms).run functions locals).run tables = .ok (.back values, tables) := by
  rw [Statement.run, run_bind_ok hterms]
  rfl

/-- A value that cannot be had is not returned. -/
theorem Statement.run_result_error
    {term : Term}
    {failure : Failure}
    (hterm : (term.value functions locals).run tables = .error failure) :
    ((Statement.result (.ofList [term])).run functions locals).run tables = .error failure := by
  have hterms : ((Terms.ofList [term]).values functions locals).run tables = .error failure := by
    rw [Terms.ofList, Terms.values, run_bind_error hterm]
  rw [Statement.run, run_bind_error hterms]

variable {condition : Term} {body otherwise : Body} {question : Prop}

/-- A branch whose condition holds does what its body does. -/
theorem Statement.run_branch_of
    (hcondition : condition.Asks functions locals tables question)
    (hquestion : question)
    {flow : Flow}
    (hbody : (body.run functions locals).run tables = .ok (flow, after)) :
    ((Statement.branch condition body otherwise).run functions locals).run tables =
      .ok (flow.leave locals, after) := by
  obtain ⟨answer, hgives, hanswer⟩ := hcondition
  obtain rfl : answer = true := hanswer.mpr hquestion
  rw [Statement.run, run_bind_ok hgives]
  exact run_bind_ok hbody

/-- A branch whose condition holds fails where its body does. -/
theorem Statement.run_branch_error
    (hcondition : condition.Asks functions locals tables question)
    (hquestion : question)
    {failure : Failure}
    (hbody : (body.run functions locals).run tables = .error failure) :
    ((Statement.branch condition body otherwise).run functions locals).run tables =
      .error failure := by
  obtain ⟨answer, hgives, hanswer⟩ := hcondition
  obtain rfl : answer = true := hanswer.mpr hquestion
  rw [Statement.run, run_bind_ok hgives]
  exact run_bind_error hbody

/-- A branch whose condition holds returns what its body does. -/
theorem Statement.run_branch_back
    (hcondition : condition.Asks functions locals tables question)
    (hquestion : question)
    {values : List Value}
    (hbody : (body.run functions locals).run tables = .ok (.back values, after)) :
    ((Statement.branch condition body otherwise).run functions locals).run tables =
      .ok (.back values, after) :=
  Statement.run_branch_of hcondition hquestion hbody

/-- A branch whose body leaves the variables as they are does so, too. -/
theorem Statement.run_branch_next
    (hcondition : condition.Asks functions locals tables question)
    (hquestion : question)
    (hbody : (body.run functions locals).run tables = .ok (.next locals, after)) :
    ((Statement.branch condition body otherwise).run functions locals).run tables =
      .ok (.next locals, after) := by
  rw [Statement.run_branch_of hcondition hquestion hbody, Flow.leave_next_self]

/-- A branch whose condition does not hold does what it has for that case. -/
theorem Statement.run_branch_of_not
    (hcondition : condition.Asks functions locals tables question)
    (hquestion : ¬ question) :
    ((Statement.branch condition body otherwise).run functions locals).run tables =
      (do
        let flow ← otherwise.run functions locals
        pure (flow.leave locals) : Action Flow).run tables := by
  obtain ⟨answer, hgives, hanswer⟩ := hcondition
  obtain rfl : answer = false := Bool.eq_false_iff.mpr fun h => hquestion (hanswer.mp h)
  rw [Statement.run, run_bind_ok hgives]
  rfl

/-- Where its condition holds, a guard returns. -/
theorem Body.run_guard_of
    {terms : Terms}
    {tail : Body}
    {values : List Value}
    (hcondition : condition.Asks functions locals tables question)
    (hquestion : question)
    (hterms : terms.Give functions locals tables values) :
    ((Body.more (.branch condition (.ofList [.result terms]) .done) tail).run functions locals).run
      tables = .ok (.back values, tables) :=
  Body.run_more_back (Statement.run_branch_back hcondition hquestion
    (Body.run_more_back (Statement.run_result hterms)))

/-- Where its condition does not hold, a branch without an alternative changes nothing. -/
theorem Body.run_guard_of_not
    {tail : Body}
    (hcondition : condition.Asks functions locals tables question)
    (hquestion : ¬ question) :
    ((Body.more (.branch condition body .done) tail).run functions locals).run tables =
      (tail.run functions locals).run tables := by
  refine Body.run_more_next ?_
  rw [Statement.run_branch_of_not hcondition hquestion, run_bind_ok Body.run_done,
    Flow.leave_next_self]
  rfl

end Statements

section Loops

/-- The numbers that a loop counts through in ascending steps. -/
theorem mem_steps
    {first last step : ℝ}
    (hstep : 0 < step)
    {item : ℝ} :
    item ∈ steps first last step ↔
      ∃ count : Nat, first + count * step = item ∧ item ≤ last := by
  have hcount : ∀ count : Nat,
      count < (⌊(last - first) / step⌋ + 1).toNat ↔ first + count * step ≤ last := by
    intro count
    rw [Int.lt_toNat, Int.lt_add_one_iff, Int.le_floor, Int.cast_natCast, le_div_iff₀ hstep,
      le_sub_iff_add_le']
  simp only [steps, List.mem_map, List.mem_range, hcount]
  constructor
  · rintro ⟨count, hle, rfl⟩
    exact ⟨count, rfl, hle⟩
  · rintro ⟨count, rfl, hle⟩
    exact ⟨count, hle, rfl⟩

variable {round : ℝ → Locals → Action Flow} {found : ℝ → Prop} {values : List Value}

/-- A count with a step goes through the numbers from the first to the last. -/
theorem counted_steps
    {first last step : ℝ}
    (hstep : step ≠ 0) :
    counted [number first, number last, number step] = .ok (steps first last step) := by
  show (if step = 0 then _ else _ : Except Failure (List ℝ)) = _
  rw [if_neg hstep]
  rfl

/-- A loop over numbers goes through what its range counts. -/
theorem Statement.run_count
    {name : String}
    {range : Terms}
    {body : Body}
    {values : List Value}
    {numbers : List ℝ}
    (hrange : range.Give functions locals tables values)
    (hcounted : counted values = .ok numbers) :
    ((Statement.count name range body).run functions locals).run tables =
      (countUp
        (fun item locals => do
          let flow ← body.run functions ((name, number item) :: locals)
          pure (flow.leave locals))
        numbers locals).run tables := by
  rw [Statement.run, run_bind_ok hrange, hcounted]
  rfl

/-- A loop that no round returns from goes through all numbers. -/
theorem countUp_next :
    (numbers : List ℝ) →
    (∀ item ∈ numbers, (round item locals).run tables = .ok (.next locals, tables)) →
    (countUp round numbers locals).run tables = .ok (.next locals, tables)
  | [], _ => rfl
  | item :: rest, hrounds => by
      obtain ⟨hround, hrest⟩ := List.forall_mem_cons.mp hrounds
      rw [countUp, run_bind_ok hround]
      exact countUp_next rest hrest

/-- A loop returns if one of its rounds does and those before it change nothing. -/
theorem countUp_back :
    (numbers : List ℝ) →
    (∀ item ∈ numbers, ¬ found item → (round item locals).run tables = .ok (.next locals, tables)) →
    (∀ item ∈ numbers, found item → (round item locals).run tables = .ok (.back values, tables)) →
    (∃ item ∈ numbers, found item) →
    (countUp round numbers locals).run tables = .ok (.back values, tables)
  | [], _, _, hfound => by
      simp at hfound
  | item :: rest, hnext, hback, hfound => by
      by_cases hitem : found item
      · rw [countUp, run_bind_ok (hback item List.mem_cons_self hitem)]
        rfl
      · rw [countUp, run_bind_ok (hnext item List.mem_cons_self hitem)]
        obtain ⟨_, hnext⟩ := List.forall_mem_cons.mp hnext
        obtain ⟨_, hback⟩ := List.forall_mem_cons.mp hback
        exact countUp_back rest hnext hback (by simpa [hitem] using hfound)

variable {list : Value} {items : List Datum} {visit : Nat → Datum → Locals → Action Flow}

/--
A loop over a list that it does not change, where each round goes on from what the entries before
its own have led to. The bound on the rounds is one more than the number of entries that are left.
-/
theorem walk_next
    (reached : List Datum → Locals × Tables)
    (hlist : ∀ done, (listed list).run (reached done).2 = .ok (items, (reached done).2))
    (hvisit : ∀ done, ∀ item ∈ items,
      (visit done.length item (reached done).1).run (reached done).2 =
        .ok (.next (reached (done ++ [item])).1, (reached (done ++ [item])).2)) :
    (rest done : List Datum) →
    done ++ rest = items →
    (walk list visit (rest.length + 1) done.length (reached done).1).run (reached done).2 =
      .ok (.next (reached items).1, (reached items).2)
  | [], done, hitems => by
      rw [List.append_nil] at hitems
      have hplace : items[done.length]? = none := by
        simp [hitems]
      rw [walk, run_bind_ok (hlist done), hplace, hitems]
      rfl
  | item :: rest, done, hitems => by
      have hplace : items[done.length]? = some item := by
        simp [← hitems]
      have hitem : item ∈ items := by
        simp [← hitems]
      have hrest := walk_next reached hlist hvisit rest (done ++ [item]) (by simpa using hitems)
      rw [List.length_append, List.length_singleton] at hrest
      rw [walk, run_bind_ok (hlist done), hplace]
      show StateT.run (visit done.length item (reached done).1 >>= _) _ = _
      rw [run_bind_ok (hvisit done item hitem)]
      exact hrest

/-- A loop over a list that it does not change visits all of its entries. -/
theorem Statement.run_each
    {names : List String}
    {source : Terms}
    {body : Body}
    {term : Term}
    (reached : List Datum → Locals × Tables)
    (hsource : source.iterated? (reached []).1 = some term)
    (hterm : term.Gives functions (reached []).1 (reached []).2 list)
    (hlist : ∀ done, (listed list).run (reached done).2 = .ok (items, (reached done).2))
    (hbody : ∀ done, ∀ item ∈ items,
      (do
        let flow ← body.run functions
          (Locals.declare names [number ((done.length : ℝ) + 1), some item] (reached done).1)
        pure (flow.leave (reached done).1) : Action Flow).run (reached done).2 =
      .ok (.next (reached (done ++ [item])).1, (reached (done ++ [item])).2)) :
    ((Statement.each names source body).run functions (reached []).1).run (reached []).2 =
      .ok (.next (reached items).1, (reached items).2) := by
  rw [Statement.run, hsource]
  show StateT.run (term.value functions (reached []).1 >>= _) _ = _
  rw [run_bind_ok hterm, run_bind_ok (hlist [])]
  exact walk_next reached hlist hbody items [] rfl

end Loops

section Functions

variable {function : Function} {arguments : List Value} {after : Tables}

/-- A function gives what its body returns. -/
theorem Function.behaviour_of_back
    {values : List Value}
    (hbody : (function.body.run functions
      (Locals.declare function.parameters arguments [])).run tables = .ok (.back values, after)) :
    (function.behaviour functions arguments).run tables = .ok (values, after) := by
  unfold Function.behaviour
  rw [run_bind_ok hbody]
  rfl

/-- A function fails where its body does. -/
theorem Function.behaviour_of_error
    {failure : Failure}
    (hbody : (function.body.run functions
      (Locals.declare function.parameters arguments [])).run tables = .error failure) :
    (function.behaviour functions arguments).run tables = .error failure := by
  unfold Function.behaviour
  rw [run_bind_error hbody]

/--
Whether a function ends by returning what the global function on a path makes of a value, once what
stands before has left the lists as they are.
-/
def Function.HandsOver
    (functions : String → Option Behaviour)
    (function : Function)
    (arguments : List Value)
    (tables : Tables)
    (path : List String)
    (value : Value) : Prop :=
  ∃ before target callee term locals,
    function.body = .ofList
      (before ++ [.assign (.name target) (.call callee (.ofList [term])),
        .result (.ofList [.name target])]) ∧
    ((Body.ofList before).run functions
      (Locals.declare function.parameters arguments [])).run tables = .ok (.next locals, tables) ∧
    (locals.lookup target).isSome ∧
    callee.path? locals = some path ∧
    term.Gives functions locals tables value

/-- A function that hands a value over gives what the other function makes of it. -/
theorem Function.HandsOver.behaviour
    {path : List String}
    {value result : Value}
    (h : function.HandsOver functions arguments tables path value)
    {behaviour : Behaviour}
    (hbehaviour : behaviour? functions path = some behaviour)
    (hresult : (behaviour [value]).run tables = .ok ([result], tables)) :
    (function.behaviour functions arguments).run tables = .ok ([result], tables) := by
  obtain ⟨before, target, callee, term, locals, hbody, hbefore, htarget, hpath, hterm⟩ := h
  obtain ⟨assigned, hassign, hlookup⟩ := Locals.exists_assign result locals htarget
  have hcall : (Term.call callee (.ofList [term])).Gives functions locals tables result :=
    Term.Gives.call hpath hbehaviour hterm.single hresult
  refine Function.behaviour_of_back ?_
  rw [hbody, Body.run_append _ before _ tables hbefore,
    Body.ofList, Body.run_more_next (Statement.run_assign hcall hassign)]
  exact Body.run_more_back (Statement.run_result (Term.gives_name hlookup).single)

end Functions

end Execution

end Script
end Lua
end MathBlocks
