import MathBlocks.Proofs.Helper.Sum

/-!
# The standard deviation of a list

The helper for standard deviations divides the sum of its list, by the helper for sums, to have the
mean, and adds up the squares of how far the numbers are away from it. With two numbers or more, the
root is taken of the sample variance. With one number there is zero over zero, which is no number,
but without any there is zero over minus one, which is zero.
-/

namespace MathBlocks

open Lua Script

/--
The sample variance of numbers: the squares of how far they are away from their mean, added up and
divided by one less than their count.
-/
noncomputable def sampleVariance (values : List ℝ) : ℝ :=
  (values.map fun value => (value - values.sum / values.length) ^ 2).sum / (values.length - 1)

theorem sampleVariance_nonneg
    {values : List ℝ}
    (hlength : 1 ≤ values.length) :
    0 ≤ sampleVariance values := by
  have hcount : (1 : ℝ) ≤ values.length := by
    exact_mod_cast hlength
  refine div_nonneg (List.sum_nonneg ?_) (sub_nonneg.mpr hcount)
  intro square hsquare
  obtain ⟨value, _, rfl⟩ := List.mem_map.mp hsquare
  exact sq_nonneg _

theorem sampleVariance_nil :
    sampleVariance [] = 0 := by
  simp [sampleVariance]

namespace Lua.Script.Number

/-- The mean of numbers, for which the helper has zero if there are none. -/
noncomputable def mean : List Number → Number
  | [] => .exact 0
  | values => both (· / ·) (total values) (.exact values.length)

/-- How far a number is away from the mean. -/
def deviation (mean value : Number) : Number :=
  both (· - ·) value mean

/-- The square of how far a number is away from the mean. -/
def squaredDeviation (mean value : Number) : Number :=
  both (· * ·) (deviation mean value) (deviation mean value)

/-- The squares of how far numbers are away from the mean, added up. -/
noncomputable def squaredDeviations
    (mean : Number)
    (values : List Number) : Number :=
  total (values.map (squaredDeviation mean))

theorem squaredDeviations_concat
    (mean : Number)
    (values : List Number)
    (value : Number) :
    squaredDeviations mean (values ++ [value]) =
      both (· + ·) (squaredDeviations mean values) (squaredDeviation mean value) := by
  rw [squaredDeviations, List.map_append, List.map_singleton, total_concat]
  rfl

theorem mean_of_ne_nil
    {values : List Number}
    (h : values ≠ []) :
    mean values = both (· / ·) (total values) (.exact values.length) := by
  cases values with
  | nil =>
      exact absurd rfl h
  | cons value rest =>
      rfl

/-- Exact numbers have an exact mean, and exact squares. -/
theorem squaredDeviations_exact
    (values : List ℝ) :
    squaredDeviations (mean (values.map .exact)) (values.map .exact) =
      .exact (values.map fun value => (value - values.sum / values.length) ^ 2).sum := by
  cases values with
  | nil =>
      rfl
  | cons first rest =>
      have hmean : mean ((first :: rest).map .exact) =
          .exact ((first :: rest).sum / (first :: rest).length) := by
        rw [mean_of_ne_nil (by simp), total_exact, both_exact, List.length_map]
      rw [hmean, squaredDeviations, ← total_exact, List.map_map, List.map_map]
      refine congrArg total (List.map_congr_left fun value _ => ?_)
      simp [squaredDeviation, deviation, sq]

/-- One that is no number makes the squares none. -/
theorem squaredDeviations_of_nan
    {values : List Number}
    (h : .nan ∈ values) :
    squaredDeviations (mean values) values = .nan := by
  refine total_of_nan (List.mem_map.mpr ⟨.nan, h, ?_⟩)
  rw [squaredDeviation, deviation, nan_both, nan_both]

/-- Exact numbers, but not a single one, have a quotient like the sample variance. -/
theorem quotient_exact
    {values : List ℝ}
    (hlength : values.length ≠ 1) :
    arithmetic .over
      (squaredDeviations (mean (values.map .exact)) (values.map .exact))
      (.exact (values.length - 1)) = .ok (.exact (sampleVariance values)) := by
  have hdivisor : (values.length : ℝ) - 1 ≠ 0 :=
    sub_ne_zero.mpr (by exact_mod_cast hlength)
  rw [squaredDeviations_exact, arithmetic_over hdivisor]
  rfl

/-- The quotient is no number if one of the numbers is none. -/
theorem quotient_of_nan
    {values : List Number}
    (h : .nan ∈ values)
    (divisor : Number) :
    arithmetic .over (squaredDeviations (mean values) values) divisor = .ok .nan := by
  rw [squaredDeviations_of_nan h]
  rfl

/-- The quotient of a single number is no number. -/
theorem quotient_single
    (value : Number) :
    arithmetic .over (squaredDeviations (mean [value]) [value]) (.exact ((1 : ℕ) - 1)) =
      .ok .nan := by
  cases value with
  | exact value =>
      have hsquares : squaredDeviations (mean [.exact value]) [.exact value] = .exact 0 := by
        refine (squaredDeviations_exact [value]).trans ?_
        simp
      rw [hsquares, Nat.cast_one, sub_self, arithmetic_over_zero]
  | nan =>
      exact quotient_of_nan List.mem_cons_self _

end Lua.Script.Number

namespace MathHelper

/-- The mean of the list, or zero if it is empty. -/
def meanOrZeroTerm (sum : String) : Term :=
  .binary .or (.binary .and emptyTerm (.numeral "0")) (meanTerm sum)

/-- Adds the square for an entry and counts it. -/
def squareBody : Body :=
  .ofList
    [.assign (.name "vm") (.binary (.operator .minus) (.name "v") (.name "m")),
     .assign (.name "total")
       (.binary (.operator .plus) (.name "total")
         (.binary (.operator .times) (.name "vm") (.name "vm"))),
     .assign (.name "count") (.binary (.operator .plus) (.name "count") (.numeral "1"))]

/-- Adds the square for an entry if it is numeric. -/
def deviationBody : Body :=
  .ofList [.branch numberTerm squareBody .done]

/-- The loop that adds the squares. -/
def deviationLoop : Statement :=
  .each ["_", "v"] entriesTerms deviationBody

/-- What the root is taken of. -/
def quotientTerm : Term :=
  .binary (.operator .over) (.name "total")
    (.binary (.operator .minus) (.name "count") (.numeral "1"))

/-- What is done before the root is taken. -/
def deviationStatements (sum : String) : List Statement :=
  [.declare ["m"] .empty,
   .declare ["vm"] .empty,
   .declare ["total"] (.ofList [.numeral "0"]),
   .declare ["count"] (.ofList [.numeral "0"]),
   .declare ["result"] .empty,
   .assign (.name "m") (meanOrZeroTerm sum),
   deviationLoop]

theorem standardDeviationBody_eq
    (sum : String) :
    standardDeviationBody sum = .ofList
      (deviationStatements sum ++
        [.assign (.name "result") (.call (.field (.name "math") "sqrt") (.ofList [quotientTerm])),
         .result (.ofList [.name "result"])]) :=
  rfl

/-- The variables of the function in the loop, by the mean and what changes. -/
noncomputable def deviationLocals
    (address : Nat)
    (mean : Number)
    (last : Script.Value)
    (total : Number)
    (count : ℝ) : Locals :=
  [("result", none), ("count", number count), ("total", some (.number total)), ("vm", last),
    ("m", some (.number mean)), ("t", some (.list address))]

/-- The variables in a round of the loop. -/
noncomputable def roundLocals
    (address : Nat)
    (place : Script.Value)
    (value mean : Number)
    (last : Script.Value)
    (total : Number)
    (count : ℝ) : Locals :=
  Locals.declare ["_", "v"] [place, some (.number value)]
    (deviationLocals address mean last total count)

section Running

variable {functions : String → Option Behaviour} {tables : Tables} {address : Nat}
variable {place last : Script.Value} {value mean total : Number} {count : ℝ}

/-- The square for the entry is added and the entry is counted. -/
theorem squareBody_run :
    (squareBody.run functions (roundLocals address place value mean last total count)).run tables =
      .ok (.next
        (roundLocals address place value mean (some (.number (Number.deviation mean value)))
          (Number.both (· + ·) total (Number.squaredDeviation mean value)) (count + 1)),
        tables) := by
  have hdeviation : (Term.binary (.operator .minus) (.name "v") (.name "m")).Gives functions
      (roundLocals address place value mean last total count) tables
      (some (.number (Number.deviation mean value))) :=
    (Term.gives_name rfl).both (Term.gives_name rfl) (Number.lift_exact (· - ·))
  have hlast : (Term.name "vm").Gives functions
      (roundLocals address place value mean (some (.number (Number.deviation mean value)))
        total count) tables (some (.number (Number.deviation mean value))) :=
    Term.gives_name rfl
  have htotal : (Term.name "total").Gives functions
      (roundLocals address place value mean (some (.number (Number.deviation mean value)))
        total count) tables (some (.number total)) :=
    Term.gives_name rfl
  have hcount : (Term.binary (.operator .plus) (.name "count") (.numeral "1")).Gives functions
      (roundLocals address place value mean (some (.number (Number.deviation mean value)))
        (Number.both (· + ·) total (Number.squaredDeviation mean value)) count) tables
      (number (count + 1)) :=
    (Term.gives_name rfl).plus Term.gives_one
  have hsquare : (Term.binary (.operator .times) (.name "vm") (.name "vm")).Gives functions
      (roundLocals address place value mean (some (.number (Number.deviation mean value)))
        total count) tables (some (.number (Number.squaredDeviation mean value))) :=
    hlast.both hlast (Number.lift_exact (· * ·))
  have hsquares : (Term.binary (.operator .plus) (.name "total")
      (.binary (.operator .times) (.name "vm") (.name "vm"))).Gives functions
      (roundLocals address place value mean (some (.number (Number.deviation mean value)))
        total count) tables
      (some (.number (Number.both (· + ·) total (Number.squaredDeviation mean value)))) :=
    htotal.both hsquare (Number.lift_exact (· + ·))
  refine (Body.run_more_next (Statement.run_assign hdeviation rfl)).trans ?_
  refine (Body.run_more_next (Statement.run_assign hsquares rfl)).trans ?_
  exact (Body.run_more_next (Statement.run_assign hcount rfl)).trans Body.run_done

/-- In a list of numbers, a round of the loop adds the square for its entry. -/
theorem deviationBody_run :
    (deviationBody.run functions (roundLocals address place value mean last total count)).run
        tables =
      .ok (.next
        (roundLocals address place value mean (some (.number (Number.deviation mean value)))
          (Number.both (· + ·) total (Number.squaredDeviation mean value)) (count + 1)),
        tables) := by
  have hasks : numberTerm.Asks functions (roundLocals address place value mean last total count)
      tables ((Datum.number value).isNumber = true) :=
    numberTerm_asks rfl rfl
  exact (Body.run_more_next (Statement.run_branch_of hasks rfl squareBody_run)).trans Body.run_done

/-- The variables after these entries have been looked at. -/
noncomputable def deviated
    (address : Nat)
    (mean : Number)
    (done : List Datum) : Locals :=
  deviationLocals address mean
    ((done.filterMap Datum.number?).getLast?.map fun value =>
      .number (Number.deviation mean value))
    (Number.squaredDeviations mean (done.filterMap Datum.number?))
    (done.filterMap Datum.number?).length

theorem deviated_nil
    (address : Nat)
    (mean : Number) :
    deviated address mean [] = deviationLocals address mean none (.exact 0) 0 := by
  rw [deviated, List.filterMap_nil, List.length_nil, Nat.cast_zero]
  rfl

theorem deviated_concat
    (address : Nat)
    (mean : Number)
    (done : List Datum)
    (value : Number) :
    deviated address mean (done ++ [Datum.number value]) =
      deviationLocals address mean (some (.number (Number.deviation mean value)))
        (Number.both (· + ·)
          (Number.squaredDeviations mean (done.filterMap Datum.number?))
          (Number.squaredDeviation mean value))
        ((done.filterMap Datum.number?).length + 1) := by
  rw [deviated, Datum.filterMap_number?_concat, Number.squaredDeviations_concat,
    List.getLast?_concat, List.length_append, List.length_singleton, Nat.cast_succ]
  rfl

/-- The loop adds the squares for all entries. -/
theorem deviationLoop_run
    {values : List Number}
    (hlist : tables[address]? = some (values.map .number)) :
    (deviationLoop.run functions (deviated address mean [])).run tables =
      .ok (.next (deviated address mean (values.map .number)), tables) := by
  refine Statement.run_each (fun done => (deviated address mean done, tables)) rfl
    (Term.gives_name rfl) (fun _ => listed_list hlist) ?_
  intro done item hitem
  obtain ⟨value, _, rfl⟩ := List.mem_map.mp hitem
  rw [deviated_concat]
  exact run_bind_ok deviationBody_run

end Running

section Mean

variable {functions others : String → Option Behaviour} {tables : Tables} {address : Nat}
variable {values : List Number} {sum : String}
variable (hlist : tables[address]? = some (values.map .number))
variable (hglobal : sum ∉ Script.globals)
variable (hsum : functions sum = some ((Script.Function.mk sum ["t"] sumBody).behaviour others))
include hlist hglobal hsum

/-- Where no variable hides the sum, the mean is the sum over the number of entries. -/
theorem meanTerm_gives
    {locals : Locals}
    (hname : locals.lookup "t" = some (some (.list address)))
    (hunbound : locals.lookup sum = none)
    (hnonempty : values ≠ []) :
    (meanTerm sum).Gives functions locals tables (some (.number (Number.mean values))) := by
  have hbehaviour : behaviour? functions [sum] =
      some ((Script.Function.mk sum ["t"] sumBody).behaviour others) := by
    rw [behaviour?_name (by rintro rfl; exact hglobal (by decide)), hsum]
  have hcall : (Term.call (.name sum) (.ofList [.name "t"])).Gives functions locals tables
      (some (.number (Number.total values))) :=
    Term.Gives.call (Term.path?_name hunbound) hbehaviour (Term.gives_name hname).single
      (sum_behaviour sum others hlist)
  have hcount : (values.length : ℝ) ≠ 0 := by
    exact_mod_cast (List.length_pos_iff.mpr hnonempty).ne'
  have hlength : lengthTerm.Gives functions locals tables (number values.length) := by
    rw [← List.length_map Datum.number]
    exact lengthTerm_gives hname (listed_list hlist)
  rw [Number.mean_of_ne_nil hnonempty]
  exact hcall.arithmetic hlength (by simp) (Number.arithmetic_over hcount _)

/-- The mean of the list, or zero if it is empty. -/
theorem meanOrZeroTerm_gives
    {locals : Locals}
    (hname : locals.lookup "t" = some (some (.list address)))
    (hunbound : locals.lookup sum = none) :
    (meanOrZeroTerm sum).Gives functions locals tables (some (.number (Number.mean values))) := by
  refine (emptyTerm_asks hname (listed_list hlist)).choose ?_ ?_
  · intro hempty
    rw [List.map_eq_nil_iff.mp hempty]
    -- zero counts as true, so `or` stops there and nothing is divided by zero
    exact ⟨Term.gives_zero, rfl⟩
  · intro hnonempty
    exact meanTerm_gives hlist hglobal hsum hname hunbound fun h => hnonempty (by rw [h]; rfl)

/-- What is done before the root is taken leaves the squares and the count of the list. -/
theorem deviationStatements_run
    (hunbound : sum ∉ ["result", "count", "total", "vm", "m", "t"]) :
    ((Body.ofList (deviationStatements sum)).run functions [("t", some (.list address))]).run
        tables =
      .ok (.next (deviated address (Number.mean values) (values.map .number)), tables) := by
  have hmean : (meanOrZeroTerm sum).Gives functions
      [("result", none), ("count", number 0), ("total", number 0), ("vm", none), ("m", none),
        ("t", some (.list address))] tables (some (.number (Number.mean values))) := by
    -- none of the variables that are there by now has the name of the sum
    refine meanOrZeroTerm_gives hlist hglobal hsum rfl ?_
    refine List.lookup_eq_none_iff.mpr fun entry hentry => bne_iff_ne.mpr ?_
    rintro rfl
    exact hunbound (List.mem_map_of_mem hentry)
  have hloop : (deviationLoop.run functions
      (deviationLocals address (Number.mean values) none (.exact 0) 0)).run tables =
      .ok (.next (deviated address (Number.mean values) (values.map .number)), tables) := by
    rw [← deviated_nil]
    exact deviationLoop_run hlist
  have hnone {locals : Locals} : (Terms.empty.values functions locals).run tables =
      .ok ([], tables) :=
    Terms.give_empty
  rw [deviationStatements, Body.ofList, Body.run_more_next (Statement.run_declare hnone),
    Body.ofList, Body.run_more_next (Statement.run_declare hnone),
    Body.ofList, Body.run_more_next (Statement.run_declare Term.gives_zero.single),
    Body.ofList, Body.run_more_next (Statement.run_declare Term.gives_zero.single),
    Body.ofList, Body.run_more_next (Statement.run_declare hnone),
    Body.ofList]
  refine (Body.run_more_next (Statement.run_assign hmean rfl)).trans ?_
  exact (Body.run_more_next hloop).trans Body.run_done

/-- The root is taken of the squares divided by one less than the count. -/
theorem standardDeviation_handsOver
    (identifier : String)
    (hunbound : sum ∉ ["result", "count", "total", "vm", "m", "t"])
    {quotient : Number}
    (hquotient : Number.arithmetic .over
      (Number.squaredDeviations (Number.mean values) values) (.exact (values.length - 1)) =
        .ok quotient) :
    (Script.Function.mk identifier ["t"] (standardDeviationBody sum)).HandsOver functions
      [some (.list address)] tables ["math", "sqrt"] (some (.number quotient)) := by
  have hlocals : deviated address (Number.mean values) (values.map .number) =
      deviationLocals address (Number.mean values)
        (values.getLast?.map fun value => .number (Number.deviation (Number.mean values) value))
        (Number.squaredDeviations (Number.mean values) values) values.length := by
    rw [deviated, Datum.filterMap_number?]
  have hrun := deviationStatements_run hlist hglobal hsum hunbound
  rw [hlocals] at hrun
  refine ⟨deviationStatements sum, "result", .field (.name "math") "sqrt", quotientTerm, _,
    standardDeviationBody_eq sum, hrun, rfl, rfl, ?_⟩
  exact (Term.gives_name rfl).arithmetic ((Term.gives_name rfl).minus Term.gives_one) (by simp)
    hquotient

/-- The function gives the root of the quotient. -/
theorem standardDeviation_root
    (identifier : String)
    (hunbound : sum ∉ ["result", "count", "total", "vm", "m", "t"])
    {quotient : Number}
    (hquotient : Number.arithmetic .over
      (Number.squaredDeviations (Number.mean values) values) (.exact (values.length - 1)) =
        .ok quotient) :
    ((Script.Function.mk identifier ["t"] (standardDeviationBody sum)).behaviour functions
      [some (.list address)]).run tables =
      .ok ([some (.number (Number.squareRoot quotient))], tables) :=
  (standardDeviation_handsOver hlist hglobal hsum identifier hunbound hquotient).behaviour rfl rfl

/-- Without entries, there is the root of zero over minus one. -/
theorem standardDeviation_nil
    (identifier : String)
    (hunbound : sum ∉ ["result", "count", "total", "vm", "m", "t"])
    (hempty : values = []) :
    ((Script.Function.mk identifier ["t"] (standardDeviationBody sum)).behaviour functions
      [some (.list address)]).run tables = .ok ([number 0], tables) := by
  subst hempty
  have hquotient := Number.quotient_exact (show ([] : List ℝ).length ≠ 1 by decide)
  have hroot := standardDeviation_root hlist hglobal hsum identifier hunbound hquotient
  rwa [sampleVariance_nil, Number.squareRoot_exact le_rfl, Real.sqrt_zero] at hroot

end Mean

theorem standardDeviation_defines
    {sum identifier : String}
    (hsumProper : Identifier.IsIdentifier sum.toList)
    (hsumKeyword : sum ∉ keywords)
    (hproper : Identifier.IsIdentifier identifier.toList)
    (hkeyword : identifier ∉ keywords)
    (indent : Indent) :
    Helper.Defines
      ⟨standardDeviationName, identifier,
        (standardDeviation sum).map (HelperTable.fillLine indent identifier)⟩
      ⟨identifier, ["t"], standardDeviationBody sum⟩ := by
  have hbrace : '\x7b' ∉ sum.toList := hsumProper.not_mem (by decide)
  refine ⟨ofText?_function hproper hkeyword (by decide +kernel) ?_ indent
    (standardDeviation_definition? hsumProper hsumKeyword), rfl⟩
  intro line hline
  have hplaceless : '\x7b' ∉ line.toList := by
    revert line
    simp [hbrace]
  exact HelperTable.replaceWord_of_not_mem (by decide) hplaceless identifier

/-- The names that the helpers have where nothing else takes them. -/
theorem standardDeviationNames_proper :
    Identifier.IsIdentifier sumName.toList ∧ sumName ∉ keywords ∧ sumName ∉ Script.globals ∧
    Identifier.IsIdentifier standardDeviationName.toList ∧ standardDeviationName ∉ keywords := by
  refine ⟨⟨'m', "ath_sum".toList, by decide, by decide, List.all_eq_true.mp (by decide)⟩,
    by decide, by decide,
    ⟨'m', "ath_standard_deviation".toList, by decide, by decide, List.all_eq_true.mp (by decide)⟩,
    by decide⟩

/-- An empty list has the standard deviation zero, and not one that is no number. -/
theorem standardDeviation_empty_not_nan :
    ∃ adding deviation,
      Helper.Defines
        ⟨sumName, sumName, sum.map (HelperTable.fillLine (.spaces 2) sumName)⟩ adding ∧
      Helper.Defines
        ⟨standardDeviationName, standardDeviationName,
          (standardDeviation sumName).map
            (HelperTable.fillLine (.spaces 2) standardDeviationName)⟩ deviation ∧
      (deviation.behaviour (fun _ => some (adding.behaviour fun _ => none))
        [some (.list 0)]).run [[]] = .ok ([number 0], [[]]) ∧
      number 0 ≠ some (.number .nan) := by
  obtain ⟨hsumProper, hsumKeyword, hglobal, hproper, hkeyword⟩ := standardDeviationNames_proper
  have hlist : [([] : List Datum)][0]? = some (([] : List Number).map .number) :=
    rfl
  refine ⟨_, _, sum_defines hsumProper hsumKeyword (.spaces 2),
    standardDeviation_defines hsumProper hsumKeyword hproper hkeyword (.spaces 2), ?_, by simp⟩
  exact standardDeviation_nil hlist hglobal rfl standardDeviationName (by decide) rfl

/--
The texts of both helpers define functions, of which the one for standard deviations calls the one
for sums. For a list of two exact numbers or more, it hands the sample variance over to the square
root and returns that. It is no number for a single number, and for a list with one that is none.
But it is zero for the empty list.
-/
theorem standardDeviation_outcome
    {sum identifier : String}
    (hsumProper : Identifier.IsIdentifier sum.toList)
    (hsumKeyword : sum ∉ keywords)
    (hglobal : sum ∉ Script.globals)
    (hunbound : sum ∉ (Script.Function.mk identifier ["t"] (standardDeviationBody sum)).binders)
    (hproper : Identifier.IsIdentifier identifier.toList)
    (hkeyword : identifier ∉ keywords)
    (indent : Indent) :
    ∃ adding deviation,
      Helper.Defines
        ⟨sumName, sum, MathHelper.sum.map (HelperTable.fillLine indent sum)⟩ adding ∧
      Helper.Defines
        ⟨standardDeviationName, identifier,
          (standardDeviation sum).map (HelperTable.fillLine indent identifier)⟩ deviation ∧
      ∀ functions others tables address values,
        functions sum = some (adding.behaviour others) →
        tables[address]? = some (values.map Datum.number) →
        let result := (deviation.behaviour functions [some (.list address)]).run tables
        (∀ exact : List ℝ, values = exact.map .exact → 2 ≤ exact.length →
          deviation.HandsOver functions [some (.list address)] tables ["math", "sqrt"]
            (number (sampleVariance exact)) ∧
          result = .ok ([number √(sampleVariance exact)], tables)) ∧
        (.nan ∈ values → result = .ok ([some (.number .nan)], tables)) ∧
        (values.length = 1 → result = .ok ([some (.number .nan)], tables)) ∧
        (values = [] → result = .ok ([number 0], tables)) := by
  have hapart : sum ∉ ["result", "count", "total", "vm", "m", "t"] := by
    intro hmem
    have hsubset : ["result", "count", "total", "vm", "m", "t"] ⊆
        ["t", "m", "vm", "total", "count", "result", "_", "v"] := by
      decide
    exact hunbound (hsubset hmem)
  refine ⟨_, _, sum_defines hsumProper hsumKeyword indent,
    standardDeviation_defines hsumProper hsumKeyword hproper hkeyword indent, ?_⟩
  intro functions others tables address values hsum hlist
  refine ⟨?_, ?_, ?_, ?_⟩
  · rintro exact rfl hlength
    have hquotient := Number.quotient_exact (show exact.length ≠ 1 by omega)
    rw [← List.length_map Number.exact] at hquotient
    have hroot := standardDeviation_root hlist hglobal hsum identifier hapart hquotient
    rw [Number.squareRoot_exact (sampleVariance_nonneg (by omega))] at hroot
    exact ⟨standardDeviation_handsOver hlist hglobal hsum identifier hapart hquotient, hroot⟩
  · intro hnan
    exact standardDeviation_root hlist hglobal hsum identifier hapart
      (Number.quotient_of_nan hnan _)
  · intro hlength
    obtain ⟨value, rfl⟩ := List.length_eq_one_iff.mp hlength
    exact standardDeviation_root hlist hglobal hsum identifier hapart
      (Number.quotient_single value)
  · intro hempty
    exact standardDeviation_nil hlist hglobal hsum identifier hapart hempty

/-- The variance of one, two and six is seven, and a single five has no standard deviation. -/
theorem standardDeviation_outcome_seven :
    let tables : Tables := [[.exact 1, .exact 2, .exact 6], [.exact 5]]
    Identifier.IsIdentifier sumName.toList ∧ sumName ∉ keywords ∧ sumName ∉ Script.globals ∧
    sumName ∉ (Script.Function.mk standardDeviationName ["t"]
      (standardDeviationBody sumName)).binders ∧
    Identifier.IsIdentifier standardDeviationName.toList ∧ standardDeviationName ∉ keywords ∧
    ∃ adding deviation,
      Helper.Defines
        ⟨sumName, sumName, sum.map (HelperTable.fillLine .tab sumName)⟩ adding ∧
      Helper.Defines
        ⟨standardDeviationName, standardDeviationName,
          (standardDeviation sumName).map (HelperTable.fillLine .tab standardDeviationName)⟩
        deviation ∧
      deviation.HandsOver (fun _ => some (adding.behaviour fun _ => none)) [some (.list 0)] tables
        ["math", "sqrt"] (number 7) ∧
      (deviation.behaviour (fun _ => some (adding.behaviour fun _ => none))
        [some (.list 0)]).run tables = .ok ([number √7], tables) ∧
      (deviation.behaviour (fun _ => some (adding.behaviour fun _ => none))
        [some (.list 1)]).run tables = .ok ([some (.number .nan)], tables) := by
  intro tables
  obtain ⟨hsumProper, hsumKeyword, hglobal, hproper, hkeyword⟩ := standardDeviationNames_proper
  have hunbound : sumName ∉ (Script.Function.mk standardDeviationName ["t"]
      (standardDeviationBody sumName)).binders := by
    decide
  have hvariance : sampleVariance [1, 2, 6] = 7 := by
    norm_num [sampleVariance]
  obtain ⟨adding, deviation, hadding, hdeviation, hresults⟩ :=
    standardDeviation_outcome hsumProper hsumKeyword hglobal hunbound hproper hkeyword .tab
  obtain ⟨hvariances, _, _, _⟩ := hresults (fun _ => some (adding.behaviour fun _ => none))
    (fun _ => none) tables 0 [.exact 1, .exact 2, .exact 6] rfl rfl
  obtain ⟨_, _, hsingle, _⟩ := hresults (fun _ => some (adding.behaviour fun _ => none))
    (fun _ => none) tables 1 [.exact 5] rfl rfl
  obtain ⟨hhands, hroot⟩ := hvariances [1, 2, 6] rfl (by decide)
  rw [hvariance] at hhands hroot
  exact ⟨hsumProper, hsumKeyword, hglobal, hunbound, hproper, hkeyword, adding, deviation, hadding,
    hdeviation, hhands, hroot, hsingle rfl⟩

end MathHelper
end MathBlocks
