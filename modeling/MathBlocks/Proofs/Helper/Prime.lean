import Mathlib.Data.Nat.Prime.Basic
import Mathlib.Tactic.Linarith
import MathBlocks.Proofs.Helper.Behaviour

/-!
# The question for prime numbers

The helper that asks whether a number is prime divides by the numbers next to the multiples of six,
up to a multiple that is at most the square root and one and a half. A least prime factor of what is
no multiple of two or three is next to such a multiple and at most the square root, so that none is
missed; and no number from five on is next to a multiple that small, so that none is divided by
itself.
-/

namespace MathBlocks

section TrialDivision

variable {number : Nat} (hlarge : 1 < number) (htwo : ¬ 2 ∣ number) (hthree : ¬ 3 ∣ number)
include hlarge htwo hthree

/-- A multiple of six next to the number itself is too large. -/
theorem sqrt_lt_of_neighbour
    {multiple : Nat}
    (hneighbour : number = multiple + 5 ∨ number = multiple + 7) :
    √(number : ℝ) + 1.5 < (multiple : ℝ) + 6 := by
  have hfive : 5 ≤ number := by
    omega
  have hsquare : √(number : ℝ) * √number = number :=
    Real.mul_self_sqrt (Nat.cast_nonneg _)
  have hcast : (5 : ℝ) ≤ number := by
    exact_mod_cast hfive
  have hmultiple : (number : ℝ) ≤ multiple + 7 := by
    exact_mod_cast (show number ≤ multiple + 7 by omega)
  have hroot : (2.2 : ℝ) < √number := by
    refine Real.lt_sqrt_of_sq_lt ?_
    norm_num
    linarith
  -- the root is more than two and a half below the number, as the root less one is above 1.2
  have hproduct : 2.2 * 1.2 ≤ √(number : ℝ) * (√number - 1) :=
    mul_le_mul hroot.le (by linarith) (by norm_num) (by linarith)
  linarith

/-- The least prime factor is next to a multiple of six. -/
theorem minFac_neighbour :
    ∃ count, number.minFac = 6 * count + 5 ∨ number.minFac = 6 * count + 7 := by
  have hprime : number.minFac.Prime :=
    Nat.minFac_prime hlarge.ne'
  have hdvd : number.minFac ∣ number :=
    Nat.minFac_dvd number
  have htwo : ¬ 2 ∣ number.minFac :=
    fun h => htwo (h.trans hdvd)
  have hthree : ¬ 3 ∣ number.minFac :=
    fun h => hthree (h.trans hdvd)
  have hone : 1 < number.minFac :=
    hprime.one_lt
  have hrest : number.minFac % 6 = 1 ∨ number.minFac % 6 = 5 := by
    omega
  exact ⟨(number.minFac - 5) / 6, by omega⟩

/-- A number is prime if no number next to a multiple of six that is small enough divides it. -/
theorem prime_iff_no_neighbour_divides :
    number.Prime ↔
      ¬ ∃ count : Nat, 6 + (count : ℝ) * 6 ≤ √(number : ℝ) + 1.5 ∧
        (6 * count + 5 ∣ number ∨ 6 * count + 7 ∣ number) := by
  constructor
  · rintro hprime ⟨count, hsmall, hdvd⟩
    have hself : number = 6 * count + 5 ∨ number = 6 * count + 7 := by
      rcases hdvd with hdvd | hdvd
      · have h := (Nat.dvd_prime hprime).mp hdvd
        omega
      · have h := (Nat.dvd_prime hprime).mp hdvd
        omega
    have hlarge := sqrt_lt_of_neighbour hlarge htwo hthree hself
    push_cast at hlarge
    linarith
  · intro hnone
    by_contra hcomposite
    obtain ⟨count, hcount⟩ := minFac_neighbour hlarge htwo hthree
    have hsquare : ((number.minFac : ℝ)) ^ 2 ≤ number := by
      exact_mod_cast Nat.minFac_sq_le_self (by omega) hcomposite
    have hroot : (number.minFac : ℝ) ≤ √number :=
      Real.le_sqrt_of_sq_le hsquare
    have hdvd : number.minFac ∣ number :=
      Nat.minFac_dvd number
    refine hnone ⟨count, ?_, ?_⟩
    · rcases hcount with hcount | hcount
      · rw [hcount] at hroot
        push_cast at hroot
        linarith
      · rw [hcount] at hroot
        push_cast at hroot
        linarith
    · rcases hcount with hcount | hcount
      · exact Or.inl (hcount ▸ hdvd)
      · exact Or.inr (hcount ▸ hdvd)

end TrialDivision

open Lua Script

namespace MathHelper

/-- Whether the number that is asked about leaves nothing over a divisor. -/
def dividesTerm (divisor : Term) : Term :=
  .binary (.operator .equal) (.binary (.operator .modulo) (.name "n") divisor) (.numeral "0")

/-- Whether the number that is asked about is two or three. -/
def smallPrimeTerm : Term :=
  .binary .or
    (.binary (.operator .equal) (.name "n") (.numeral "2"))
    (.binary (.operator .equal) (.name "n") (.numeral "3"))

/-- Whether the number that is asked about is at most one, no whole number or a multiple. -/
def excludedTerm : Term :=
  .binary .or
    (.binary .or
      (.binary .or
        (.unary .not (.binary (.operator .greater) (.name "n") (.numeral "1")))
        (.binary (.operator .unequal)
          (.binary (.operator .modulo) (.name "n") (.numeral "1")) (.numeral "0")))
      (dividesTerm (.numeral "2")))
    (dividesTerm (.numeral "3"))

/-- Whether a number next to a multiple of six divides the number that is asked about. -/
def neighbourTerm : Term :=
  .binary .or
    (dividesTerm (.binary (.operator .minus) (.name "x") (.numeral "1")))
    (dividesTerm (.binary (.operator .plus) (.name "x") (.numeral "1")))

/-- The multiples of six that are looked at. -/
def multiplesTerms : Terms :=
  .ofList
    [.numeral "6",
     .binary (.operator .plus)
       (.call (.field (.name "math") "sqrt") (.ofList [.name "n"])) (.numeral "1.5"),
     .numeral "6"]

/-- The loop over these multiples. -/
def multiplesLoop : Statement :=
  .count "x" multiplesTerms
    (.ofList [.branch neighbourTerm (.ofList [.result (.ofList [.bool false])]) .done])

/-- The body of the question for prime numbers. -/
def isPrimeBody : Body :=
  .ofList
    [.branch smallPrimeTerm (.ofList [.result (.ofList [.bool true])]) .done,
     .branch excludedTerm (.ofList [.result (.ofList [.bool false])]) .done,
     multiplesLoop,
     .result (.ofList [.bool true])]

theorem isPrime_isReadAs :
    IsReadAs "n"
      ["  if n == 2 or n == 3 then", "    return true", "  end",
       "  -- NaN, below 2, fractional, or a multiple of 2 or 3.",
       "  if not(n > 1) or n % 1 ~= 0 or n % 2 == 0 or n % 3 == 0 then", "    return false",
       "  end", "  -- Trial division by 6k - 1 and 6k + 1 up to sqrt(n).",
       "  for x = 6, math.sqrt(n) + 1.5, 6 do",
       "    if n % (x - 1) == 0 or n % (x + 1) == 0 then", "      return false", "    end",
       "  end", "  return true"]
      (["n"], isPrimeBody) := by
  decide +kernel

/-- Whether a number is at most one, no whole number, or a multiple of two or three. -/
def IsExcluded (value : ℝ) : Prop :=
  ((¬ 1 < value ∨ Number.remainder value 1 ≠ 0) ∨ Number.remainder value 2 = 0) ∨
    Number.remainder value 3 = 0

/-- Of the whole numbers, those up to one and the multiples are left out. -/
theorem isExcluded_natCast_iff
    (whole : Nat) :
    IsExcluded whole ↔ ¬ 1 < whole ∨ 2 ∣ whole ∨ 3 ∣ whole := by
  have hone : Number.remainder whole 1 = 0 := by
    rw [Number.remainder_one_eq_zero_iff, Int.floor_natCast, Int.cast_natCast]
  have htwo : Number.remainder whole 2 = 0 ↔ 2 ∣ whole :=
    Number.remainder_natCast_eq_zero_iff whole 2
  have hthree : Number.remainder whole 3 = 0 ↔ 3 ∣ whole :=
    Number.remainder_natCast_eq_zero_iff whole 3
  rw [IsExcluded, htwo, hthree, Nat.one_lt_cast]
  simp only [hone, ne_eq, not_true, or_false, or_assoc]

/-- What is not left out is a whole number. -/
theorem exists_natCast_of_not_isExcluded
    {value : ℝ}
    (h : ¬ IsExcluded value) :
    ∃ whole : Nat, (whole : ℝ) = value := by
  obtain ⟨hlarge, hwhole⟩ : 1 < value ∧ Number.remainder value 1 = 0 := by
    simp only [IsExcluded, not_or, not_not] at h
    exact h.1.1
  have hfloor : value = ⌊value⌋ :=
    (Number.remainder_one_eq_zero_iff value).mp hwhole
  have hpos : 0 ≤ ⌊value⌋ :=
    Int.floor_nonneg.mpr (by linarith)
  refine ⟨⌊value⌋.toNat, ?_⟩
  rw [hfloor, Int.floor_intCast, ← Int.cast_natCast, Int.toNat_of_nonneg hpos]

/-- Whether a number next to a multiple divides. -/
def NeighbourDivides (value multiple : ℝ) : Prop :=
  Number.remainder value (multiple - 1) = 0 ∨ Number.remainder value (multiple + 1) = 0

/-- What is next to the multiples of six in whole numbers. -/
theorem neighbourDivides_natCast_iff
    (whole : Nat)
    (last : ℝ) :
    (∃ multiple ∈ steps 6 last 6, NeighbourDivides whole multiple) ↔
      ∃ count : Nat, 6 + (count : ℝ) * 6 ≤ last ∧
        (6 * count + 5 ∣ whole ∨ 6 * count + 7 ∣ whole) := by
  have hneighbours : ∀ count : Nat, NeighbourDivides whole (6 + (count : ℝ) * 6) ↔
      6 * count + 5 ∣ whole ∨ 6 * count + 7 ∣ whole := by
    intro count
    have hbelow : (6 : ℝ) + count * 6 - 1 = ((6 * count + 5 : Nat) : ℝ) := by
      push_cast
      ring
    have habove : (6 : ℝ) + count * 6 + 1 = ((6 * count + 7 : Nat) : ℝ) := by
      push_cast
      ring
    rw [NeighbourDivides, hbelow, habove, Number.remainder_natCast_eq_zero_iff,
      Number.remainder_natCast_eq_zero_iff]
  have hsix : (0 : ℝ) < 6 := by
    norm_num
  constructor
  · rintro ⟨multiple, hmem, hdivides⟩
    obtain ⟨count, rfl, hle⟩ := (mem_steps hsix).mp hmem
    exact ⟨count, hle, (hneighbours count).mp hdivides⟩
  · rintro ⟨count, hle, hdivides⟩
    exact ⟨_, (mem_steps hsix).mpr ⟨count, rfl, hle⟩, (hneighbours count).mpr hdivides⟩

theorem nonneg_of_not_isExcluded
    {value : ℝ}
    (h : ¬ IsExcluded value) :
    0 ≤ value := by
  obtain ⟨whole, rfl⟩ := exists_natCast_of_not_isExcluded h
  exact Nat.cast_nonneg whole

/--
The prime numbers are two, three, and what is not left out and not divided by a number next to a
multiple of six.
-/
theorem exists_prime_iff
    (value : ℝ) :
    (∃ prime : Nat, prime.Prime ∧ (prime : ℝ) = value) ↔
      (value = 2 ∨ value = 3) ∨
        ¬ IsExcluded value ∧
        ¬ ∃ multiple ∈ steps 6 (√value + 1.5) 6, NeighbourDivides value multiple := by
  by_cases hout : IsExcluded value
  · simp only [hout, not_true, false_and, or_false]
    constructor
    · rintro ⟨prime, hprime, rfl⟩
      rw [isExcluded_natCast_iff, or_iff_right (not_not.mpr hprime.one_lt)] at hout
      refine hout.imp (fun h => ?_) (fun h => ?_)
      · exact_mod_cast ((Nat.prime_dvd_prime_iff_eq Nat.prime_two hprime).mp h).symm
      · exact_mod_cast ((Nat.prime_dvd_prime_iff_eq Nat.prime_three hprime).mp h).symm
    · rintro (rfl | rfl)
      · exact ⟨2, Nat.prime_two, Nat.cast_ofNat⟩
      · exact ⟨3, Nat.prime_three, Nat.cast_ofNat⟩
  · obtain ⟨whole, rfl⟩ := exists_natCast_of_not_isExcluded hout
    simp only [neighbourDivides_natCast_iff, hout, not_false_iff, true_and, Nat.cast_inj,
      exists_eq_right]
    rw [isExcluded_natCast_iff, not_or, not_or, not_not] at hout
    obtain ⟨hlarge, htwo, hthree⟩ := hout
    rw [← prime_iff_no_neighbour_divides hlarge htwo hthree, or_iff_right]
    rintro (h | h)
    · exact htwo (by rw [show whole = 2 by exact_mod_cast h])
    · exact hthree (by rw [show whole = 3 by exact_mod_cast h])

section Running

variable {functions : String → Option Behaviour} {locals : Locals} {tables : Tables}
variable {value : ℝ} (hname : locals.lookup "n" = some (number value))
include hname

/-- The number that is asked about is divided by any number but zero. -/
theorem dividesTerm_asks
    {divisor : Term}
    {divided : ℝ}
    (hdivisor : divisor.Gives functions locals tables (number divided))
    (hne : divided ≠ 0) :
    (dividesTerm divisor).Asks functions locals tables (Number.remainder value divided = 0) :=
  ((Term.gives_name hname).modulo hdivisor hne).asks_equal Term.gives_zero

theorem smallPrimeTerm_asks :
    smallPrimeTerm.Asks functions locals tables (value = 2 ∨ value = 3) := by
  exact ((Term.gives_name hname).asks_equal Term.gives_two).or fun _ =>
    (Term.gives_name hname).asks_equal Term.gives_three

theorem excludedTerm_asks :
    excludedTerm.Asks functions locals tables (IsExcluded value) := by
  have hvalue : (Term.name "n").Gives functions locals tables (number value) :=
    Term.gives_name hname
  have hlarge := (hvalue.asks_greater Term.gives_one).not
  have hwhole := (hvalue.modulo Term.gives_one one_ne_zero).asks_unequal Term.gives_zero
  exact ((hlarge.or fun _ => hwhole).or fun _ =>
    dividesTerm_asks hname Term.gives_two two_ne_zero).or fun _ =>
      dividesTerm_asks hname Term.gives_three three_ne_zero

theorem neighbourTerm_asks
    {multiple : ℝ}
    (hmultiple : 1 < multiple)
    (hlocal : locals.lookup "x" = some (number multiple)) :
    neighbourTerm.Asks functions locals tables (NeighbourDivides value multiple) := by
  have hx : (Term.name "x").Gives functions locals tables (number multiple) :=
    Term.gives_name hlocal
  have hbelow := dividesTerm_asks hname (hx.minus Term.gives_one) (by linarith)
  have habove := dividesTerm_asks hname (hx.plus Term.gives_one) (by linarith)
  exact hbelow.or fun _ => habove

end Running

section Loop

variable {functions : String → Option Behaviour} {tables : Tables} {value : ℝ}

/-- The multiples go from six up to the square root and one and a half, if there is one. -/
theorem multiplesTerms_give
    (hvalue : 0 ≤ value) :
    multiplesTerms.Give functions [("n", number value)] tables
      [number 6, number (√value + 1.5), number 6] := by
  have hroot : (Term.call (.field (.name "math") "sqrt") (.ofList [.name "n"])).Gives functions
      [("n", number value)] tables (number √value) := by
    refine Term.Gives.call rfl rfl (Term.gives_name rfl).single ?_
    show Except.ok _ = _
    rw [Number.squareRoot_exact hvalue]
  exact .more Term.gives_six (.more (hroot.plus Term.gives_oneAndHalf) Term.gives_six.single)

/-- A multiple that is looked at is at least six. -/
theorem one_lt_of_mem_multiples
    {last multiple : ℝ}
    (h : multiple ∈ steps 6 last 6) :
    1 < multiple := by
  obtain ⟨count, hcount, _⟩ := (mem_steps (by norm_num)).mp h
  have hpos : 0 ≤ (count : ℝ) * 6 := by
    positivity
  linarith

/-- What a round of the loop asks. -/
theorem round_asks
    {last multiple : ℝ}
    (h : multiple ∈ steps 6 last 6) :
    neighbourTerm.Asks functions [("x", number multiple), ("n", number value)] tables
      (NeighbourDivides value multiple) :=
  neighbourTerm_asks rfl (one_lt_of_mem_multiples h) rfl

/-- A round in which no number next to the multiple divides changes nothing. -/
theorem round_next
    {last multiple : ℝ}
    (h : multiple ∈ steps 6 last 6)
    (hnone : ¬ NeighbourDivides value multiple) :
    (do
      let flow ← (Body.ofList
        [.branch neighbourTerm (.ofList [.result (.ofList [.bool false])]) .done]).run functions
          [("x", number multiple), ("n", number value)]
      pure (flow.leave [("n", number value)]) : Action Flow).run tables =
      .ok (.next [("n", number value)], tables) :=
  run_bind_ok ((Body.run_guard_of_not (round_asks h) hnone).trans Body.run_done)

/-- The loop returns that the number is not prime if a number next to a multiple divides it. -/
theorem multiplesLoop_back
    (hvalue : 0 ≤ value)
    (hfound : ∃ multiple ∈ steps 6 (√value + 1.5) 6, NeighbourDivides value multiple) :
    (multiplesLoop.run functions [("n", number value)]).run tables =
      .ok (.back [truth false], tables) := by
  rw [multiplesLoop,
    Statement.run_count (multiplesTerms_give hvalue) (counted_steps (by norm_num))]
  refine countUp_back _ (fun multiple h hnone => round_next h hnone) ?_ hfound
  intro multiple h hdivides
  exact run_bind_ok (Body.run_guard_of (round_asks h) hdivides Term.gives_bool.single)

/-- The loop changes nothing if no number next to a multiple divides. -/
theorem multiplesLoop_next
    (hvalue : 0 ≤ value)
    (hnone : ¬ ∃ multiple ∈ steps 6 (√value + 1.5) 6, NeighbourDivides value multiple) :
    (multiplesLoop.run functions [("n", number value)]).run tables =
      .ok (.next [("n", number value)], tables) := by
  rw [multiplesLoop,
    Statement.run_count (multiplesTerms_give hvalue) (counted_steps (by norm_num))]
  exact countUp_next _ fun multiple h =>
    round_next h fun hdivides => hnone ⟨multiple, h, hdivides⟩

section Body

variable (hsmall : ¬ (value = 2 ∨ value = 3))

theorem isPrimeBody_small
    (h : value = 2 ∨ value = 3) :
    (isPrimeBody.run functions [("n", number value)]).run tables =
      .ok (.back [truth true], tables) :=
  Body.run_guard_of (smallPrimeTerm_asks rfl) h Term.gives_bool.single

include hsmall

theorem isPrimeBody_excluded
    (h : IsExcluded value) :
    (isPrimeBody.run functions [("n", number value)]).run tables =
      .ok (.back [truth false], tables) := by
  unfold isPrimeBody
  rw [Body.ofList, Body.run_guard_of_not (smallPrimeTerm_asks rfl) hsmall]
  exact Body.run_guard_of (excludedTerm_asks rfl) h Term.gives_bool.single

variable (hout : ¬ IsExcluded value)
include hout

theorem isPrimeBody_composite
    (h : ∃ multiple ∈ steps 6 (√value + 1.5) 6, NeighbourDivides value multiple) :
    (isPrimeBody.run functions [("n", number value)]).run tables =
      .ok (.back [truth false], tables) := by
  unfold isPrimeBody
  rw [Body.ofList, Body.run_guard_of_not (smallPrimeTerm_asks rfl) hsmall,
    Body.ofList, Body.run_guard_of_not (excludedTerm_asks rfl) hout]
  exact Body.run_more_back (multiplesLoop_back (nonneg_of_not_isExcluded hout) h)

theorem isPrimeBody_prime
    (h : ¬ ∃ multiple ∈ steps 6 (√value + 1.5) 6, NeighbourDivides value multiple) :
    (isPrimeBody.run functions [("n", number value)]).run tables =
      .ok (.back [truth true], tables) := by
  unfold isPrimeBody
  rw [Body.ofList, Body.run_guard_of_not (smallPrimeTerm_asks rfl) hsmall,
    Body.ofList, Body.run_guard_of_not (excludedTerm_asks rfl) hout,
    Body.ofList, Body.run_more_next (multiplesLoop_next (nonneg_of_not_isExcluded hout) h)]
  exact Body.run_more_back (Statement.run_result Term.gives_bool.single)

end Body

/-- The function answers whether the number is a prime number. -/
theorem isPrime_behaviour
    (identifier : String)
    (functions : String → Option Behaviour)
    (tables : Tables)
    (value : ℝ) :
    ∃ answer,
      ((Function.mk identifier ["n"] isPrimeBody).behaviour functions [number value]).run tables =
        .ok ([truth answer], tables) ∧
      (answer = true ↔ ∃ prime : Nat, prime.Prime ∧ (prime : ℝ) = value) := by
  rw [exists_prime_iff]
  by_cases hsmall : value = 2 ∨ value = 3
  · exact ⟨true, Function.behaviour_of_back (isPrimeBody_small hsmall),
      iff_of_true rfl (Or.inl hsmall)⟩
  by_cases hout : IsExcluded value
  · exact ⟨false, Function.behaviour_of_back (isPrimeBody_excluded hsmall hout),
      by simp [hsmall, hout]⟩
  by_cases hfound : ∃ multiple ∈ steps 6 (√value + 1.5) 6, NeighbourDivides value multiple
  · exact ⟨false, Function.behaviour_of_back (isPrimeBody_composite hsmall hout hfound),
      iff_of_false Bool.false_ne_true (not_or.mpr ⟨hsmall, fun h => h.2 hfound⟩)⟩
  · exact ⟨true, Function.behaviour_of_back (isPrimeBody_prime hsmall hout hfound),
      iff_of_true rfl (Or.inr ⟨hout, hfound⟩)⟩

end Loop

/--
The text of the helper defines a function that answers for every exact number, a rational one or
not, whether it is a prime number.
-/
theorem isPrime_decides_primes
    {identifier : String}
    (hproper : Identifier.IsIdentifier identifier.toList)
    (hkeyword : identifier ∉ keywords)
    (indent : Indent) :
    ∃ function,
      Helper.Defines
        ⟨isPrimeName, identifier, isPrime.map (HelperTable.fillLine indent identifier)⟩ function ∧
      ∀ functions tables value, ∃ answer,
        (function.behaviour functions [number value]).run tables =
          .ok ([truth answer], tables) ∧
        (answer = true ↔ ∃ prime : Nat, prime.Prime ∧ (prime : ℝ) = value) := by
  exact ⟨_, isPrime_isReadAs.defines hproper hkeyword indent, isPrime_behaviour identifier⟩

/-- The square of five is not prime; its root is reached by the loop. -/
theorem isPrime_decides_primes_square :
    Identifier.IsIdentifier "math_isPrime".toList ∧ "math_isPrime" ∉ keywords ∧
    ∃ function,
      Helper.Defines
        ⟨isPrimeName, "math_isPrime",
          isPrime.map (HelperTable.fillLine (.spaces 2) "math_isPrime")⟩ function ∧
      (function.behaviour (fun _ => none) [number 25]).run [] = .ok ([truth false], []) := by
  have hproper : Identifier.IsIdentifier "math_isPrime".toList :=
    ⟨'m', "ath_isPrime".toList, by decide, by decide, List.all_eq_true.mp (by decide)⟩
  have hkeyword : "math_isPrime" ∉ keywords := by
    decide
  obtain ⟨function, hdefines, hanswers⟩ := isPrime_decides_primes hproper hkeyword (.spaces 2)
  obtain ⟨answer, hrun, hanswer⟩ := hanswers (fun _ => none) [] 25
  have hcomposite : ¬ ∃ prime : Nat, prime.Prime ∧ (prime : ℝ) = 25 := by
    rintro ⟨prime, hprime, hvalue⟩
    obtain rfl : prime = 25 := by
      exact_mod_cast hvalue
    exact Nat.not_prime_mul (by decide : 5 ≠ 1) (by decide : 5 ≠ 1) hprime
  obtain rfl : answer = false :=
    Bool.eq_false_iff.mpr fun h => hcomposite (hanswer.mp h)
  exact ⟨hproper, hkeyword, function, hdefines, hrun⟩

end MathHelper
end MathBlocks
