import MathBlocks.Proofs.Helper.Behaviour

/-!
# The median of a list

The helper for medians copies the numeric entries of its list to a new one, sorts that one and takes
what is in the middle. A list without entries has the median zero, but a list that has entries and
no numbers among them passes the first look at it: then nothing is in the middle, and the sum of
nothing and nothing is an error.
-/

namespace MathBlocks

open Lua Script

/--
The median of numbers: the one in the middle of their ascending order, or the mean of the two there.
-/
inductive IsMedian (numbers : List ℝ) : ℝ → Prop where
  | odd
      {below above : List ℝ}
      {middle : ℝ}
      (hperm : (below ++ middle :: above).Perm numbers)
      (hascending : (below ++ middle :: above).Pairwise (· ≤ ·))
      (hlength : below.length = above.length) :
      IsMedian numbers middle
  | even
      {below above : List ℝ}
      {low high : ℝ}
      (hperm : (below ++ low :: high :: above).Perm numbers)
      (hascending : (below ++ low :: high :: above).Pairwise (· ≤ ·))
      (hlength : below.length = above.length) :
      IsMedian numbers ((low + high) / 2)

namespace IsMedian

variable {numbers ascending : List ℝ}

/-- Numbers have no two medians. -/
theorem unique
    {first second : ℝ}
    (hfirst : IsMedian numbers first)
    (hsecond : IsMedian numbers second) :
    first = second := by
  cases hfirst with
  | odd hperm hascending hlength =>
      cases hsecond with
      | odd hother hsorted hcount =>
          have hsame := (hperm.trans hother.symm).eq_of_pairwise' hascending hsorted
          have hsize := congrArg List.length hsame
          simp only [List.length_append, List.length_cons] at hsize
          obtain ⟨_, hrest⟩ := List.append_inj hsame (by omega)
          exact (List.cons.inj hrest).1
      | even hother hsorted hcount =>
          have hsize := (hperm.trans hother.symm).length_eq
          simp only [List.length_append, List.length_cons] at hsize
          omega
  | even hperm hascending hlength =>
      cases hsecond with
      | odd hother hsorted hcount =>
          have hsize := (hperm.trans hother.symm).length_eq
          simp only [List.length_append, List.length_cons] at hsize
          omega
      | even hother hsorted hcount =>
          have hsame := (hperm.trans hother.symm).eq_of_pairwise' hascending hsorted
          have hsize := congrArg List.length hsame
          simp only [List.length_append, List.length_cons] at hsize
          obtain ⟨_, hrest⟩ := List.append_inj hsame (by omega)
          obtain ⟨hlow, htail⟩ := List.cons.inj hrest
          rw [hlow, (List.cons.inj htail).1]

section Places

variable (hperm : ascending.Perm numbers) (hascending : ascending.Pairwise (· ≤ ·)) {count : Nat}
include hperm hascending

/-- In ascending order, one of an odd number is in the middle. -/
theorem of_odd
    (hlength : ascending.length = 2 * count + 1) :
    ∃ middle, ascending[count]? = some middle ∧ IsMedian numbers middle := by
  have hlt : count < ascending.length := by
    omega
  have hsplit : ascending.take count ++ ascending[count] :: ascending.drop (count + 1) =
      ascending := by
    rw [← List.drop_eq_getElem_cons hlt, List.take_append_drop]
  have hmiddle : (ascending.take count).length = (ascending.drop (count + 1)).length := by
    rw [List.length_take, List.length_drop]
    omega
  rw [← hsplit] at hperm hascending
  exact ⟨_, List.getElem?_eq_getElem hlt, .odd hperm hascending hmiddle⟩

/-- In ascending order, two of an even number are in the middle. -/
theorem of_even
    (hlength : ascending.length = 2 * (count + 1)) :
    ∃ low high, ascending[count]? = some low ∧ ascending[count + 1]? = some high ∧
      IsMedian numbers ((low + high) / 2) := by
  have hlt : count + 1 < ascending.length := by
    omega
  have hsplit : ascending.take count ++
      ascending[count] :: ascending[count + 1] :: ascending.drop (count + 2) = ascending := by
    rw [← List.drop_eq_getElem_cons hlt, ← List.drop_eq_getElem_cons (by omega),
      List.take_append_drop]
  have hmiddle : (ascending.take count).length = (ascending.drop (count + 2)).length := by
    rw [List.length_take, List.length_drop]
    omega
  rw [← hsplit] at hperm hascending
  exact ⟨_, _, List.getElem?_eq_getElem (by omega), List.getElem?_eq_getElem hlt,
    .even hperm hascending hmiddle⟩

end Places

end IsMedian

namespace MathHelper

/-- The new list, where the numeric entries are. -/
def numbersTerm : Term :=
  .name "temp"

/-- Half of how many numeric entries there are. -/
def halfTerm : Term :=
  .binary (.operator .over) (.unary .length numbersTerm) (.numeral "2")

/-- Whether there is an even number of numeric entries. -/
def evenTerm : Term :=
  .binary (.operator .equal)
    (.binary (.operator .modulo) (.unary .length numbersTerm) (.numeral "2")) (.numeral "0")

/-- The mean of the two numbers in the middle. -/
def middlesTerm : Term :=
  .binary (.operator .over)
    (.binary (.operator .plus)
      (.index numbersTerm halfTerm)
      (.index numbersTerm (.binary (.operator .plus) halfTerm (.numeral "1"))))
    (.numeral "2")

/-- The number in the middle. -/
def middleTerm : Term :=
  .index numbersTerm (.call (.field (.name "math") "ceil") (.ofList [halfTerm]))

/-- Copies an entry. -/
def copyStatement : Statement :=
  .call (.field (.name "table") "insert") (.ofList [numbersTerm, .name "v"])

/-- Copies an entry if it is numeric. -/
def copyBody : Body :=
  .ofList [.branch numberTerm (.ofList [copyStatement]) .done]

/-- The loop that copies the numeric entries. -/
def copyLoop : Statement :=
  .each ["_", "v"] entriesTerms copyBody

/-- Sorts the numeric entries. -/
def sortStatement : Statement :=
  .call (.field (.name "table") "sort") (.ofList [numbersTerm])

/-- What is returned in the end. -/
def middleStatement : Statement :=
  .branch evenTerm
    (.ofList [.result (.ofList [middlesTerm])]) (.ofList [.result (.ofList [middleTerm])])

/-- The body of the median. -/
def medianBody : Body :=
  .ofList
    [.branch emptyTerm (.ofList [.result (.ofList [.numeral "0"])]) .done,
     .declare ["temp"] (.ofList [.list .empty]),
     copyLoop,
     sortStatement,
     middleStatement]

theorem median_isReadAs :
    IsReadAs "t"
      ["  if #t == 0 then", "    return 0", "  end", "  local temp = \x7b\x7d",
       "  for _, v in ipairs(t) do", "    if type(v) == \"number\" then",
       "      table.insert(temp, v)", "    end", "  end", "  table.sort(temp)",
       "  if #temp % 2 == 0 then",
       "    return (temp[#temp / 2] + temp[(#temp / 2) + 1]) / 2", "  else",
       "    return temp[math.ceil(#temp / 2)]", "  end"]
      (["t"], medianBody) := by
  decide +kernel

section Running

variable {functions : String → Option Behaviour} {tables : Tables} {address : Nat}
variable {items : List Datum}

/-- The variables and lists after these entries have been looked at. -/
def copied
    (address : Nat)
    (tables : Tables)
    (done : List Datum) : Locals × Tables :=
  ([("temp", some (.list tables.length)), ("t", some (.list address))],
    tables ++ [done.filter Datum.isNumber])

/-- A round of the loop copies its entry if it is numeric. -/
theorem copyBody_run
    {locals : Locals}
    {done : List Datum}
    {item : Datum}
    (hitem : locals.lookup "v" = some (some item))
    (hnumbers : locals.lookup "temp" = some (some (.list tables.length)))
    (htype : locals.lookup "type" = none)
    (htable : locals.lookup "table" = none) :
    (copyBody.run functions locals).run (tables ++ [done.filter Datum.isNumber]) =
      .ok (.next locals, tables ++ [(done ++ [item]).filter Datum.isNumber]) := by
  have hasks : numberTerm.Asks functions locals (tables ++ [done.filter Datum.isNumber])
      (item.isNumber = true) :=
    numberTerm_asks hitem htype
  cases hnumber : item.isNumber with
  | true =>
      have hcopied : (done ++ [item]).filter Datum.isNumber =
          done.filter Datum.isNumber ++ [item] := by
        simp [hnumber]
      have hcopy : (copyStatement.run functions locals).run
          (tables ++ [done.filter Datum.isNumber]) =
          .ok (.next locals, tables ++ [done.filter Datum.isNumber ++ [item]]) :=
        Statement.run_call (Term.path?_field htable) rfl
          (.more (Term.gives_name hnumbers) (Term.gives_name hitem).single) (insertEntry_run item)
      have hinner := (Body.run_more_next hcopy).trans Body.run_done
      rw [hcopied]
      exact (Body.run_more_next (Statement.run_branch_next hasks hnumber hinner)).trans
        Body.run_done
  | false =>
      have hsame : (done ++ [item]).filter Datum.isNumber = done.filter Datum.isNumber := by
        simp [hnumber]
      rw [hsame]
      exact (Body.run_guard_of_not hasks (by simp [hnumber])).trans Body.run_done

/-- The loop copies all numeric entries. -/
theorem copyLoop_run
    (hlist : tables[address]? = some items) :
    (copyLoop.run functions (copied address tables []).1).run (copied address tables []).2 =
      .ok (.next (copied address tables items).1, (copied address tables items).2) := by
  have hkept : ∀ done, (copied address tables done).2[address]? = some items := by
    intro done
    obtain ⟨hlt, _⟩ := List.getElem?_eq_some_iff.mp hlist
    rw [copied, List.getElem?_append_left hlt, hlist]
  refine Statement.run_each (copied address tables) rfl (Term.gives_name rfl)
    (fun done => listed_list (hkept done)) ?_
  intro done item _
  exact run_bind_ok (copyBody_run rfl rfl rfl rfl)

end Running

section Middle

variable {functions : String → Option Behaviour} {locals : Locals} {tables : Tables}
variable {list : Script.Value} {numbers : List Datum}
variable (hname : locals.lookup "temp" = some list)
variable (hlist : (listed list).run tables = .ok (numbers, tables))
include hname hlist

theorem halfTerm_gives :
    halfTerm.Gives functions locals tables (number ((numbers.length : ℝ) / 2)) :=
  ((Term.gives_name hname).length hlist).over Term.gives_two two_ne_zero

theorem evenTerm_asks :
    evenTerm.Asks functions locals tables (2 ∣ numbers.length) :=
  ((((Term.gives_name hname).length hlist).modulo Term.gives_two two_ne_zero).asks_equal
    Term.gives_zero).congr (Number.remainder_natCast_eq_zero_iff numbers.length 2)

/-- Of an even number, the places of the two in the middle are half of it and the next one. -/
theorem middlesTerm_gives
    {count : Nat}
    (hlength : numbers.length = 2 * (count + 1))
    {low high : ℝ}
    (hlow : numbers[count]? = some (.exact low))
    (hhigh : numbers[count + 1]? = some (.exact high)) :
    middlesTerm.Gives functions locals tables (number ((low + high) / 2)) := by
  have hkey : (numbers.length : ℝ) / 2 = count + 1 := by
    rw [hlength]
    push_cast
    ring
  have hhalf : halfTerm.Gives functions locals tables (number ((count : ℝ) + 1)) :=
    hkey ▸ halfTerm_gives hname hlist
  have hfirst := (Term.gives_name hname).index hhalf hlist
  have hsecond := (Term.gives_name hname).index (hhalf.plus Term.gives_one) hlist
  rw [entry_number_succ, hlow] at hfirst
  rw [← Nat.cast_succ, entry_number_succ, hhigh] at hsecond
  exact (hfirst.plus hsecond).over Term.gives_two two_ne_zero

/-- Of an odd number, the place of the one in the middle is half of it, rounded up. -/
theorem middleTerm_gives
    {count : Nat}
    (hlength : numbers.length = 2 * count + 1)
    {middle : ℝ}
    (hmiddle : numbers[count]? = some (.exact middle))
    (hfree : locals.lookup "math" = none) :
    middleTerm.Gives functions locals tables (number middle) := by
  have hceil : ⌈(numbers.length : ℝ) / 2⌉ = (count : Int) + 1 := by
    rw [hlength, Int.ceil_eq_iff]
    push_cast
    constructor <;> linarith
  have hplace : (Term.call (.field (.name "math") "ceil") (.ofList [halfTerm])).Gives functions
      locals tables (number ((count : ℝ) + 1)) := by
    refine Term.Gives.call (Term.path?_field hfree) rfl (halfTerm_gives hname hlist).single ?_
    show Except.ok ([number (⌈(numbers.length : ℝ) / 2⌉ : ℝ)], tables) = _
    rw [hceil]
    push_cast
    rfl
  have hentry := (Term.gives_name hname).index hplace hlist
  rwa [entry_number_succ, hmiddle] at hentry

/-- Without a numeric entry, the sum of the two in the middle is an error. -/
theorem middlesTerm_fails
    (hempty : numbers = []) :
    (middlesTerm.value functions locals).run tables = .error .error := by
  subst hempty
  have hhalf : halfTerm.Gives functions locals tables (number (([] : List Datum).length / 2)) :=
    halfTerm_gives hname hlist
  have hfirst := (Term.gives_name hname).index hhalf hlist
  have hsecond := (Term.gives_name hname).index (hhalf.plus Term.gives_one) hlist
  rw [entry_nil] at hfirst hsecond
  have hsum : ((Term.binary (.operator .plus) (.index numbersTerm halfTerm)
      (.index numbersTerm (.binary (.operator .plus) halfTerm (.numeral "1")))).value functions
        locals).run tables = .error .error := by
    rw [Term.value, numbersTerm, run_bind_ok hfirst, run_bind_ok hsecond]
    rfl
  rw [middlesTerm, Term.value, run_bind_error hsum]

end Middle

section Body

variable {functions : String → Option Behaviour} {tables : Tables} {address : Nat}
variable {items : List Datum} (hlist : tables[address]? = some items)
include hlist

/-- An empty list has the median zero. -/
theorem medianBody_empty
    (hempty : items = []) :
    (medianBody.run functions [("t", some (.list address))]).run tables =
      .ok (.back [number 0], tables) :=
  Body.run_guard_of (emptyTerm_asks rfl (listed_list hlist)) hempty Term.gives_zero.single

/-- The numeric entries of a list in ascending order, as entries of a list. -/
noncomputable def ascendingEntries (items : List Datum) : List Datum :=
  ((items.filterMap Datum.real?).insertionSort (· ≤ ·)).map .exact

/-- If a list has entries, what the body does after its numeric entries are in ascending order. -/
theorem medianBody_nonempty
    (hexact : ∀ item ∈ items, item ≠ .number .nan)
    (hnonempty : items ≠ []) :
    (medianBody.run functions [("t", some (.list address))]).run tables =
      ((Body.ofList [middleStatement]).run functions
        [("temp", some (.list tables.length)), ("t", some (.list address))]).run
          (tables ++ [ascendingEntries items]) := by
  have hnew : ((Terms.ofList [.list .empty]).values functions [("t", some (.list address))]).run
      tables = .ok ([some (.list tables.length)], tables ++ [[]]) :=
    rfl
  have hsort : (sortStatement.run functions (copied address tables items).1).run
      (copied address tables items).2 =
      .ok (.next (copied address tables items).1, tables ++ [ascendingEntries items]) :=
    Statement.run_call rfl rfl (Term.gives_name rfl).single (sortEntries_run hexact)
  rw [medianBody, Body.ofList,
    Body.run_guard_of_not (emptyTerm_asks rfl (listed_list hlist)) hnonempty,
    Body.ofList, Body.run_more_next (Statement.run_declare hnew)]
  refine (Body.run_more_next (copyLoop_run hlist)).trans ?_
  exact Body.run_more_next hsort

end Body

section Ending

variable {functions : String → Option Behaviour} {tables : Tables} {address : Nat}
variable {items : List Datum}

theorem length_ascendingEntries
    (items : List Datum) :
    (ascendingEntries items).length = (items.filterMap Datum.real?).length := by
  rw [ascendingEntries, List.length_map, List.length_insertionSort]

/-- The entries are what the sorted numbers are, in the same places. -/
theorem ascendingEntries_getElem?
    {place : Nat}
    {value : ℝ}
    (h : ((items.filterMap Datum.real?).insertionSort (· ≤ ·))[place]? = some value) :
    (ascendingEntries items)[place]? = some (.exact value) := by
  rw [ascendingEntries, List.getElem?_map, h]
  rfl

/-- An even number of numeric entries has the mean of two of them returned. -/
theorem middleStatement_even
    {count : Nat}
    (hlength : (items.filterMap Datum.real?).length = 2 * (count + 1)) :
    ∃ median, IsMedian (items.filterMap Datum.real?) median ∧
      (middleStatement.run functions
        [("temp", some (.list tables.length)), ("t", some (.list address))]).run
          (tables ++ [ascendingEntries items]) =
        .ok (.back [number median], tables ++ [ascendingEntries items]) := by
  have hlist := listed_latest tables (ascendingEntries items)
  have hcount := (length_ascendingEntries items).trans hlength
  obtain ⟨low, high, hlow, hhigh, hmedian⟩ :=
    IsMedian.of_even (List.perm_insertionSort (· ≤ ·) (items.filterMap Datum.real?))
      (List.pairwise_insertionSort (· ≤ ·) _) (by rwa [List.length_insertionSort])
  refine ⟨_, hmedian, Statement.run_branch_back (evenTerm_asks rfl hlist) ⟨count + 1, hcount⟩ ?_⟩
  refine Body.run_more_back (Statement.run_result (Term.Gives.single ?_))
  exact middlesTerm_gives rfl hlist hcount (ascendingEntries_getElem? hlow)
    (ascendingEntries_getElem? hhigh)

/-- An odd number of numeric entries has one of them returned. -/
theorem middleStatement_odd
    {count : Nat}
    (hlength : (items.filterMap Datum.real?).length = 2 * count + 1) :
    ∃ median, IsMedian (items.filterMap Datum.real?) median ∧
      (middleStatement.run functions
        [("temp", some (.list tables.length)), ("t", some (.list address))]).run
          (tables ++ [ascendingEntries items]) =
        .ok (.back [number median], tables ++ [ascendingEntries items]) := by
  have hlist := listed_latest tables (ascendingEntries items)
  have hcount := (length_ascendingEntries items).trans hlength
  obtain ⟨middle, hmiddle, hmedian⟩ :=
    IsMedian.of_odd (List.perm_insertionSort (· ≤ ·) (items.filterMap Datum.real?))
      (List.pairwise_insertionSort (· ≤ ·) _) (by rwa [List.length_insertionSort])
  refine ⟨_, hmedian, ?_⟩
  rw [middleStatement, Statement.run_branch_of_not (evenTerm_asks rfl hlist) (by omega)]
  refine run_bind_ok (Body.run_more_back (Statement.run_result (Term.Gives.single ?_)))
  exact middleTerm_gives rfl hlist hcount (ascendingEntries_getElem? hmiddle) rfl

/-- If there are numeric entries, their median is returned. -/
theorem middleStatement_run
    (hnumbers : items.filterMap Datum.real? ≠ []) :
    ∃ median, IsMedian (items.filterMap Datum.real?) median ∧
      (middleStatement.run functions
        [("temp", some (.list tables.length)), ("t", some (.list address))]).run
          (tables ++ [ascendingEntries items]) =
        .ok (.back [number median], tables ++ [ascendingEntries items]) := by
  have hpos : 0 < (items.filterMap Datum.real?).length :=
    List.length_pos_iff.mpr hnumbers
  rcases Nat.even_or_odd' (items.filterMap Datum.real?).length with ⟨half, heven | hodd⟩
  · obtain ⟨count, rfl⟩ : ∃ count, half = count + 1 := ⟨half - 1, by omega⟩
    exact middleStatement_even heven
  · exact middleStatement_odd hodd

/-- If there is no numeric entry, there is an error. -/
theorem middleStatement_fails
    (hnumbers : items.filterMap Datum.real? = []) :
    (middleStatement.run functions
      [("temp", some (.list tables.length)), ("t", some (.list address))]).run
        (tables ++ [ascendingEntries items]) = .error .error := by
  have hempty : ascendingEntries items = [] := by
    rw [ascendingEntries, hnumbers]
    rfl
  have hlist := listed_latest tables (ascendingEntries items)
  refine Statement.run_branch_error (evenTerm_asks rfl hlist) (by simp [hempty]) ?_
  exact Body.run_more_error (Statement.run_result_error (middlesTerm_fails rfl hlist hempty))

end Ending

/-- What the function does with a list of exact numbers and other values. -/
theorem median_behaviour
    (identifier : String)
    (functions : String → Option Behaviour)
    {tables : Tables}
    {address : Nat}
    {items : List Datum}
    (hlist : tables[address]? = some items)
    (hexact : ∀ item ∈ items, item ≠ .number .nan) :
    let result := ((Script.Function.mk identifier ["t"] medianBody).behaviour functions
      [some (.list address)]).run tables
    (items = [] → result = .ok ([number 0], tables)) ∧
    (items.filterMap Datum.real? ≠ [] → ∃ median,
      result = .ok ([number median], tables ++ [ascendingEntries items]) ∧
      IsMedian (items.filterMap Datum.real?) median) ∧
    (items ≠ [] → items.filterMap Datum.real? = [] → result = .error .error) := by
  refine ⟨?_, ?_, ?_⟩
  · intro hempty
    exact Function.behaviour_of_back (medianBody_empty hlist hempty)
  · intro hnumbers
    have hnonempty : items ≠ [] := by
      rintro rfl
      exact hnumbers rfl
    obtain ⟨median, hmedian, hrun⟩ := middleStatement_run hnumbers
    refine ⟨median, Function.behaviour_of_back ?_, hmedian⟩
    exact (medianBody_nonempty hlist hexact hnonempty).trans (Body.run_more_back hrun)
  · intro hnonempty hnumbers
    refine Function.behaviour_of_error ?_
    exact (medianBody_nonempty hlist hexact hnonempty).trans
      (Body.run_more_error (middleStatement_fails hnumbers))

theorem median_defines
    {identifier : String}
    (hproper : Identifier.IsIdentifier identifier.toList)
    (hkeyword : identifier ∉ keywords)
    (indent : Indent) :
    Helper.Defines
      ⟨medianName, identifier, median.map (HelperTable.fillLine indent identifier)⟩
      ⟨identifier, ["t"], medianBody⟩ :=
  median_isReadAs.defines hproper hkeyword indent

/-- The name that the helper has where nothing else takes it. -/
theorem medianName_proper :
    Identifier.IsIdentifier medianName.toList ∧ medianName ∉ keywords :=
  ⟨⟨'m', "ath_median".toList, by decide, by decide, List.all_eq_true.mp (by decide)⟩, by decide⟩

/-- A list with one entry that is no number passes the look for an empty list and is an error. -/
theorem median_fails_on_text :
    ∃ function,
      Helper.Defines
        ⟨medianName, medianName, median.map (HelperTable.fillLine (.spaces 2) medianName)⟩
        function ∧
      (function.behaviour (fun _ => none) [some (.list 0)]).run [[.string "a"]] =
        .error .error := by
  obtain ⟨hproper, hkeyword⟩ := medianName_proper
  obtain ⟨_, _, hfails⟩ := median_behaviour medianName (fun _ => none)
    (show [[Datum.string "a"]][0]? = some [.string "a"] from rfl) (by simp)
  exact ⟨_, median_defines hproper hkeyword (.spaces 2), hfails (by simp) rfl⟩

/--
The text of the helper defines a function of a list, of exact numbers and of other values in any
mix. It returns zero for the empty list and the median of the numbers if there are any, which are
sorted in a list of their own, so that the lists there are stay as they are. A list that has entries
but no numbers is an error.
-/
theorem median_outcome
    {identifier : String}
    (hproper : Identifier.IsIdentifier identifier.toList)
    (hkeyword : identifier ∉ keywords)
    (indent : Indent) :
    ∃ function,
      Helper.Defines
        ⟨medianName, identifier, median.map (HelperTable.fillLine indent identifier)⟩ function ∧
      ∀ functions tables address items,
        tables[address]? = some items →
        (∀ item ∈ items, item ≠ .number .nan) →
        let result := (function.behaviour functions [some (.list address)]).run tables
        (items = [] → result = .ok ([number 0], tables)) ∧
        (items.filterMap Datum.real? ≠ [] → ∃ median,
          result = .ok ([number median], tables ++ [ascendingEntries items]) ∧
          IsMedian (items.filterMap Datum.real?) median) ∧
        (items ≠ [] → items.filterMap Datum.real? = [] → result = .error .error) :=
  ⟨_, median_defines hproper hkeyword indent, fun functions _ _ _ hlist hexact =>
    median_behaviour identifier functions hlist hexact⟩

/-- Of two numbers among other values the mean is returned. -/
theorem median_outcome_mixed :
    Identifier.IsIdentifier medianName.toList ∧ medianName ∉ keywords ∧
    ∃ function,
      Helper.Defines
        ⟨medianName, medianName, median.map (HelperTable.fillLine .tab medianName)⟩ function ∧
      (∀ item ∈ [Datum.exact 3, .string "a", .exact 1], item ≠ .number .nan) ∧
      (function.behaviour (fun _ => none) [some (.list 0)]).run
        [[.exact 3, .string "a", .exact 1]] =
          .ok ([number 2], [[.exact 3, .string "a", .exact 1],
            ascendingEntries [.exact 3, .string "a", .exact 1]]) := by
  obtain ⟨hproper, hkeyword⟩ := medianName_proper
  have hexact : ∀ item ∈ [Datum.exact 3, .string "a", .exact 1], item ≠ .number .nan := by
    simp
  obtain ⟨function, hdefines, hresults⟩ := median_outcome hproper hkeyword .tab
  obtain ⟨_, hmedians, _⟩ := hresults (fun _ => none) [[.exact 3, .string "a", .exact 1]] 0 _ rfl
    hexact
  obtain ⟨median, hresult, hmedian⟩ := hmedians (by simp [Datum.real?])
  have htwo : IsMedian [3, 1] ((1 + 3) / 2) :=
    @IsMedian.even [3, 1] [] [] 1 3 (List.Perm.swap 3 1 []) (by norm_num) rfl
  obtain rfl : median = 2 := by
    rw [hmedian.unique htwo]
    norm_num
  exact ⟨hproper, hkeyword, function, hdefines, hexact, hresult⟩

end MathHelper
end MathBlocks
