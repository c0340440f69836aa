import Mathlib.Tactic.NormNum
import Mathlib.Tactic.Ring
import MathBlocks.Emit.Number
import MathBlocks.Proofs.Decimal.Positional

/-!
# Reading back the shortest decimal

The shortest decimal for a number of the binary format is rounded to the very number. A number of
the format is a multiple of its step. What lies in the interval of such a number is rounded to it
whether it lies above or below; only below a power of two are the steps half as wide.
-/

namespace MathBlocks
namespace Binary64

/-- The step of a number is given by the place of its first binary digit. -/
theorem step_eq
    {units exponent : Nat}
    (hlow : 2 ^ exponent ≤ units)
    (hhigh : units < 2 ^ (exponent + 1)) :
    step units = 2 ^ (exponent - 52) := by
  have hpos : units ≠ 0 := by
    have hpower := Nat.two_pow_pos exponent
    omega
  have hlog : units.log2 = exponent := (Nat.log2_eq_iff hpos).mpr ⟨hlow, hhigh⟩
  simp [step, hlog]

theorem step_pos
    (units : Nat) :
    0 < step units := by
  simp [step]

theorem step_of_lt
    {units : Nat}
    (h : units < 2 ^ 53) :
    step units = 1 := by
  by_cases hzero : units = 0
  · simp [step, hzero]
  · have hlog := (Nat.log2_lt hzero).mpr h
    have hexponent : units.log2 - 52 = 0 := by
      omega
    simp [step, hexponent]

/-- What is nearest is at most half a denominator away, and even if there is another as near. -/
theorem nearest_eq
    {numerator denominator whole : Nat}
    (hpos : 0 < denominator)
    (hlow : 2 * (whole * denominator) ≤ 2 * numerator + denominator)
    (hhigh : 2 * numerator ≤ 2 * (whole * denominator) + denominator)
    (htie :
      2 * (whole * denominator) = 2 * numerator + denominator ∨
        2 * numerator = 2 * (whole * denominator) + denominator →
      whole % 2 = 0) :
    nearest numerator denominator = whole := by
  have hsplit := Nat.div_add_mod numerator denominator
  have hrest := Nat.mod_lt numerator hpos
  unfold nearest
  generalize hq : numerator / denominator = quotient at *
  generalize numerator % denominator = rest at *
  rw [Nat.mul_comm denominator] at hsplit
  -- the quotient is the whole number or the one below it
  have hle : quotient ≤ whole := by
    by_contra hlt
    have hmul := Nat.mul_le_mul_right denominator (Nat.succ_le_of_lt (Nat.lt_of_not_le hlt))
    rw [Nat.succ_mul] at hmul
    omega
  have hge : whole ≤ quotient + 1 := by
    by_contra hlt
    have hmul := Nat.mul_le_mul_right denominator (Nat.succ_le_of_lt (Nat.lt_of_not_le hlt))
    rw [Nat.succ_mul, Nat.succ_mul] at hmul
    omega
  rcases Nat.eq_or_lt_of_le hle with rfl | hlt
  · have hnot : ¬ (denominator < 2 * rest ∨ 2 * rest = denominator ∧ quotient % 2 = 1) := by
      rintro (hmore | ⟨hhalf, hodd⟩)
      · omega
      · have heven := htie (Or.inr (by omega))
        omega
    rw [if_neg (by simpa using hnot)]
  · have hwhole : whole = quotient + 1 := by
      omega
    subst hwhole
    simp only [Nat.add_mul, Nat.one_mul] at hlow hhigh htie
    have hup : denominator < 2 * rest ∨ 2 * rest = denominator ∧ quotient % 2 = 1 := by
      by_cases hhalf : 2 * rest = denominator
      · have heven := htie (Or.inl (by omega))
        omega
      · omega
    rw [if_pos (by simpa using hup)]

/-- Rounding to a grid gives the point of it that is at most half a step away, in ties if even. -/
theorem nearest_mul_eq
    {numerator denominator step units : Nat}
    (hpos : 0 < denominator)
    (hstep : 0 < step)
    (hdvd : step ∣ units)
    (hlow : 2 * (units * denominator) ≤ 2 * numerator + step * denominator)
    (hhigh : 2 * numerator ≤ 2 * (units * denominator) + step * denominator)
    (htie :
      2 * (units * denominator) = 2 * numerator + step * denominator ∨
        2 * numerator = 2 * (units * denominator) + step * denominator →
      units / step % 2 = 0) :
    nearest numerator (denominator * step) * step = units := by
  obtain ⟨whole, rfl⟩ := hdvd
  have hmul : whole * (denominator * step) = step * whole * denominator := by
    ring
  rw [Nat.mul_div_cancel_left whole hstep] at htie
  have hnearest : nearest numerator (denominator * step) = whole := by
    apply nearest_eq (Nat.mul_pos hpos hstep)
    · rw [hmul, Nat.mul_comm denominator]
      exact hlow
    · rw [hmul, Nat.mul_comm denominator]
      exact hhigh
    · rw [hmul, Nat.mul_comm denominator]
      exact htie
  rw [hnearest, Nat.mul_comm]

variable {units : Nat}

theorem two_pow_log2_le
    (hpos : 0 < units) :
    2 ^ units.log2 ≤ units :=
  Nat.log2_self_le (Nat.ne_of_gt hpos)

/-- The step of a number divides all powers of two from the one below the number on. -/
theorem step_dvd_two_pow
    (units : Nat)
    {exponent : Nat}
    (h : units.log2 ≤ exponent) :
    step units ∣ 2 ^ exponent := by
  have hle : units.log2 - 52 ≤ exponent := by
    omega
  simpa [step] using Nat.pow_dvd_pow 2 hle

/-- The next larger number is at most the next power of two. -/
theorem add_step_le
    (hdvd : step units ∣ units) :
    units + step units ≤ 2 ^ (units.log2 + 1) := by
  have hlt : units < 2 ^ (units.log2 + 1) := Nat.lt_log2_self
  have hgap : step units ∣ 2 ^ (units.log2 + 1) - units :=
    Nat.dvd_sub (step_dvd_two_pow units (Nat.le_succ _)) hdvd
  have hle := Nat.le_of_dvd (by omega) hgap
  omega

/-- The next smaller number is at least the last power of two, unless the number is one itself. -/
theorem two_pow_add_step_le
    (hpos : 0 < units)
    (hdvd : step units ∣ units)
    (hne : units ≠ 2 ^ units.log2) :
    2 ^ units.log2 + step units ≤ units := by
  have hle := two_pow_log2_le hpos
  have hgap : step units ∣ units - 2 ^ units.log2 :=
    Nat.dvd_sub hdvd (step_dvd_two_pow units (Nat.le_refl _))
  have hstep := Nat.le_of_dvd (by omega) hgap
  omega

section Interval

variable {numerator denominator : Nat}

/-- From a number up to half a step above it, the steps are those of the number. -/
theorem step_above
    (hpos : 0 < units)
    (hdvd : step units ∣ units)
    (hdenominator : 0 < denominator)
    (habove : units * denominator ≤ numerator)
    (hhigh : 2 * numerator ≤ 2 * (units * denominator) + step units * denominator) :
    step (numerator / denominator) = step units := by
  have hfloor : units ≤ numerator / denominator :=
    (Nat.le_div_iff_mul_le hdenominator).mpr habove
  have hnext := Nat.mul_le_mul_right denominator (add_step_le hdvd)
  have hwidth := Nat.mul_pos (step_pos units) hdenominator
  rw [Nat.add_mul] at hnext
  have hceiling : numerator / denominator < 2 ^ (units.log2 + 1) := by
    rw [Nat.div_lt_iff_lt_mul hdenominator]
    omega
  rw [step_eq (Nat.le_trans (two_pow_log2_le hpos) hfloor) hceiling]
  simp [step]

/-- From a number down to half a step below it, the steps are those of the number. -/
theorem step_below
    (hpos : 0 < units)
    (hdvd : step units ∣ units)
    (hdenominator : 0 < denominator)
    (hbelow : numerator < units * denominator)
    (hlow : 2 * (units * denominator) ≤ 2 * numerator + step units * denominator)
    (hwide : units ≠ 2 ^ units.log2 ∨ units.log2 ≤ 52) :
    step (numerator / denominator) = step units := by
  have hlt : units < 2 ^ (units.log2 + 1) := Nat.lt_log2_self
  have hfloor : numerator / denominator < units :=
    (Nat.div_lt_iff_lt_mul hdenominator).mpr hbelow
  by_cases hsmall : units.log2 ≤ 52
  · have hbound : 2 ^ (units.log2 + 1) ≤ 2 ^ 53 :=
      Nat.pow_le_pow_right (by decide) (by omega)
    rw [step_of_lt (by omega), step_of_lt (by omega)]
  · have hne : units ≠ 2 ^ units.log2 := by
      omega
    have hprevious := Nat.mul_le_mul_right denominator (two_pow_add_step_le hpos hdvd hne)
    rw [Nat.add_mul] at hprevious
    have hpower : 2 ^ units.log2 ≤ numerator / denominator := by
      rw [Nat.le_div_iff_mul_le hdenominator]
      omega
    rw [step_eq hpower (by omega)]
    simp [step]

/-- Below a power of two with a step of two units or more, the steps are half as wide. -/
theorem step_below_two_pow
    {exponent : Nat}
    (hdenominator : 0 < denominator)
    (hbelow : numerator < 2 ^ (exponent + 53) * denominator)
    (hlow : 2 ^ (exponent + 53) * denominator ≤ numerator + 2 ^ exponent * denominator) :
    step (numerator / denominator) = 2 ^ exponent := by
  have hceiling : numerator / denominator < 2 ^ (exponent + 53) :=
    (Nat.div_lt_iff_lt_mul hdenominator).mpr hbelow
  have hhalf : 2 ^ (exponent + 53) = 2 * 2 ^ (exponent + 52) := by
    rw [Nat.pow_succ, Nat.mul_comm]
  have hstep : 2 ^ exponent ≤ 2 ^ (exponent + 52) :=
    Nat.pow_le_pow_right (by decide) (by omega)
  have hwidth := Nat.mul_le_mul_right denominator hstep
  have hfloor : 2 ^ (exponent + 52) ≤ numerator / denominator := by
    rw [Nat.le_div_iff_mul_le hdenominator]
    rw [hhalf, Nat.mul_assoc] at hlow
    omega
  rw [step_eq hfloor hceiling]
  rfl

/--
What lies in the interval of a number is rounded to it. Above the number, and below it if the steps
are as wide there, the number is the nearest point of its own grid; below a power of two it is the
nearest point of the finer grid that is in use there.
-/
theorem nearest_of_inside
    (hpos : 0 < units)
    (hdvd : step units ∣ units)
    (hdenominator : 0 < denominator)
    (hlow : (interval units).1 * denominator ≤ 4 * numerator)
    (hhigh : 4 * numerator ≤ (interval units).2 * denominator)
    (hends :
      (interval units).1 * denominator = 4 * numerator ∨
        4 * numerator = (interval units).2 * denominator →
      takesEnds units = true) :
    nearest numerator (denominator * step (numerator / denominator)) *
      step (numerator / denominator) = units := by
  have hstep := step_pos units
  have hstepLe := Nat.le_of_dvd hpos hdvd
  have heven : takesEnds units = true ↔ units / step units % 2 = 0 := by
    simp [takesEnds]
  simp only [interval, Nat.sub_mul, Nat.add_mul, Nat.mul_assoc] at hlow hhigh hends
  rw [heven] at hends
  by_cases habove : units * denominator ≤ numerator
  · -- above the number
    have hsame := step_above hpos hdvd hdenominator habove (by omega)
    rw [hsame]
    apply nearest_mul_eq hdenominator hstep hdvd
    · omega
    · omega
    · intro htie
      have hwidth := Nat.mul_pos hstep hdenominator
      exact hends (Or.inr (by omega))
  · have hbelow := Nat.lt_of_not_le habove
    by_cases hnarrow : units = 2 ^ units.log2 ∧ 52 < units.log2
    · -- below a power of two, which is an even multiple of the finer step
      obtain ⟨hpower, hlarge⟩ := hnarrow
      obtain ⟨exponent, hexponent⟩ : ∃ exponent, units.log2 = exponent + 53 :=
        ⟨units.log2 - 53, by omega⟩
      have hwide : step units = 2 * 2 ^ exponent := by
        have hsub : exponent + 53 - 52 = exponent + 1 := by
          omega
        simp [step, hexponent, hsub, Nat.pow_succ, Nat.mul_comm]
      have hhalves : halvesBelow units = 2 * 2 ^ exponent := by
        unfold halvesBelow
        rw [if_pos (by simpa [← hpower] using hlarge), hwide]
      rw [hhalves, Nat.mul_assoc] at hlow
      rw [hexponent] at hpower
      have hfine : step (numerator / denominator) = 2 ^ exponent := by
        apply step_below_two_pow hdenominator
        · rwa [← hpower]
        · rw [← hpower]
          omega
      rw [hfine]
      have hsplit : units = 2 ^ exponent * 2 ^ 53 := by
        rw [hpower, Nat.pow_add]
      apply nearest_mul_eq hdenominator (Nat.two_pow_pos exponent) ⟨2 ^ 53, hsplit⟩
      · omega
      · omega
      · intro _
        rw [hsplit, Nat.mul_div_cancel_left _ (Nat.two_pow_pos exponent)]
        decide
    · -- below any other number
      have hhalves : halvesBelow units = 2 * step units := by
        unfold halvesBelow
        rw [if_neg (by simpa using hnarrow)]
      rw [hhalves, Nat.mul_assoc] at hlow hends
      have hsame := step_below hpos hdvd hdenominator hbelow (by omega) (by omega)
      rw [hsame]
      apply nearest_mul_eq hdenominator hstep hdvd
      · omega
      · omega
      · intro htie
        have hwidth := Nat.mul_pos hstep hdenominator
        have hfits := Nat.mul_le_mul_right denominator hstepLe
        exact hends (Or.inl (by omega))

end Interval

/-- What reads back lies in the interval, at an end of it only where the ends are taken. -/
theorem inside_of_readsBack
    {digits : Nat}
    {exponent : Int}
    (h : readsBack units digits exponent = true) :
    (interval units).1 * quarterScale exponent ≤ digits * pointScale exponent ∧
    digits * pointScale exponent ≤ (interval units).2 * quarterScale exponent ∧
    ((interval units).1 * quarterScale exponent = digits * pointScale exponent ∨
        digits * pointScale exponent = (interval units).2 * quarterScale exponent →
      takesEnds units = true) := by
  unfold readsBack at h
  split at h
  · rename_i hends
    simp only [Bool.and_eq_true, decide_eq_true_eq] at h
    exact ⟨h.1, h.2, fun _ => hends⟩
  · simp only [Bool.and_eq_true, decide_eq_true_eq] at h
    refine ⟨Nat.le_of_lt h.1, Nat.le_of_lt h.2, ?_⟩
    rintro (heq | heq)
    · exact absurd heq (Nat.ne_of_lt h.1)
    · exact absurd heq (Nat.ne_of_lt h.2)

theorem readsBack_of_between
    {digits : Nat}
    {exponent : Int}
    (hlow : (interval units).1 * quarterScale exponent < digits * pointScale exponent)
    (hhigh : digits * pointScale exponent < (interval units).2 * quarterScale exponent) :
    readsBack units digits exponent = true := by
  unfold readsBack
  split
  · simp [Nat.le_of_lt hlow, Nat.le_of_lt hhigh]
  · simp [hlow, hhigh]

theorem ofDecimal_of_readsBack
    {digits : Nat}
    {exponent : Int}
    (hpos : 0 < units)
    (hdvd : step units ∣ units)
    (h : readsBack units digits exponent = true) :
    ofDecimal digits exponent = units := by
  obtain ⟨hlow, hhigh, hends⟩ := inside_of_readsBack h
  cases exponent with
  | ofNat zeros =>
      have hpoint : digits * pointScale (.ofNat zeros) =
          4 * (digits * Nat.pow 10 zeros * unitsPerOne) := by
        simp only [pointScale]
        ring
      rw [hpoint] at hlow hhigh hends
      exact nearest_of_inside hpos hdvd Nat.one_pos hlow hhigh hends
  | negSucc places =>
      have hpoint : digits * pointScale (.negSucc places) = 4 * (digits * unitsPerOne) := by
        simp only [pointScale]
        ring
      rw [hpoint] at hlow hhigh hends
      exact nearest_of_inside hpos hdvd (Nat.pow_pos (by decide)) hlow hhigh hends

theorem readsBack_of_gridPoint?
    {digits : Nat}
    {exponent : Int}
    (h : gridPoint? units exponent = some digits) :
    readsBack units digits exponent = true := by
  unfold gridPoint? at h
  simp only at h
  split at h
  · rename_i hbelow habove
    cases h
    split
    · exact hbelow
    · exact habove
  · rename_i hbelow _
    cases h
    exact hbelow
  · rename_i habove
    cases h
    exact habove
  · cases h

/-- The exponent of the units, kept as a variable so that their number is never written out. -/
theorem unitsPerOne_eq :
    ∃ exponent, exponent = 1074 ∧ unitsPerOne = 2 ^ exponent := by
  unfold unitsPerOne
  generalize 1074 = exponent
  exact ⟨exponent, rfl, rfl⟩

theorem unitsPerOne_pos :
    0 < unitsPerOne := by
  obtain ⟨exponent, _, hunits⟩ := unitsPerOne_eq
  rw [hunits]
  exact Nat.two_pow_pos exponent

/-- On a grid with more than two points to a unit, the first point above a number reads back. -/
theorem readsBack_of_fine
    (units : Nat)
    {places : Nat}
    (hfine : 2 * unitsPerOne < Nat.pow 10 (places + 1)) :
    readsBack units (4 * units * Nat.pow 10 (places + 1) / (4 * unitsPerOne) + 1)
      (.negSucc places) = true := by
  have hunits := unitsPerOne_pos
  have hscale : 0 < 4 * unitsPerOne := by
    omega
  have hsplit := Nat.div_add_mod (4 * units * Nat.pow 10 (places + 1)) (4 * unitsPerOne)
  have hrest := Nat.mod_lt (4 * units * Nat.pow 10 (places + 1)) hscale
  have hwidth := Nat.mul_le_mul_right (Nat.pow 10 (places + 1)) (step_pos units)
  rw [Nat.mul_comm (4 * unitsPerOne)] at hsplit
  apply readsBack_of_between
  · simp only [interval, pointScale, quarterScale, Nat.sub_mul, Nat.add_mul, Nat.one_mul]
    omega
  · simp only [interval, pointScale, quarterScale, Nat.add_mul, Nat.one_mul, Nat.mul_assoc 2]
    omega

/-- A comparison of powers of two and ten that stays true when both are multiplied. -/
theorem two_pow_lt_ten_pow
    (n : Nat) :
    2 ^ (93 * n + 52) < 10 ^ (28 * n + 16) := by
  calc
    2 ^ (93 * n + 52) = (2 ^ 93) ^ n * 2 ^ 52 := by
      rw [Nat.pow_add, Nat.pow_mul]
    _ ≤ (10 ^ 28) ^ n * 2 ^ 52 :=
      Nat.mul_le_mul_right _ (Nat.pow_le_pow_left (by norm_num) n)
    _ < (10 ^ 28) ^ n * 10 ^ 16 :=
      Nat.mul_lt_mul_of_pos_left (by norm_num) (Nat.pow_pos (by decide))
    _ = 10 ^ (28 * n + 16) := by
      rw [Nat.pow_add, Nat.pow_mul]

/-- The finest grid that is tried has more than two points to a unit. -/
theorem finest_fine
    {places : Nat}
    (hplaces : places = 323) :
    2 * unitsPerOne < Nat.pow 10 (places + 1) := by
  obtain ⟨exponent, hexponent, hunits⟩ := unitsPerOne_eq
  have hpower := two_pow_lt_ten_pow 11
  have htwos : 93 * 11 + 52 = exponent + 1 := by
    omega
  have htens : 28 * 11 + 16 = places + 1 := by
    omega
  rw [htwos, htens, Nat.pow_succ'] at hpower
  rw [hunits]
  exact hpower

/-- If a point above a number reads back, a point of its grid is taken. -/
theorem gridPoint?_ne_none
    {exponent : Int}
    (h : readsBack units (4 * units * quarterScale exponent / pointScale exponent + 1) exponent =
      true) :
    gridPoint? units exponent ≠ none := by
  unfold gridPoint?
  simp only [h]
  split <;> simp_all

/-- A point of some grid is taken for every number other than zero. -/
theorem findSome?_gridExponents
    (hpos : 0 < units) :
    (gridExponents.findSome? fun k => (gridPoint? units k).map fun d => (d, k)) =
      some (shortest units) := by
  -- the grid of the exponent `-324` is the last that is tried
  obtain ⟨places, hplaces⟩ : ∃ places, places = 323 := ⟨323, rfl⟩
  have hfinest : Int.negSucc places ∈ gridExponents := by
    rw [hplaces]
    exact List.mem_map.mpr ⟨632, List.mem_range.mpr (by decide), rfl⟩
  unfold shortest
  rw [if_neg (Nat.ne_of_gt hpos)]
  cases hfind : gridExponents.findSome? fun k => (gridPoint? units k).map fun d => (d, k) with
  | none =>
      have hnone := List.findSome?_eq_none_iff.mp hfind _ hfinest
      have habove := readsBack_of_fine units (finest_fine hplaces)
      exact absurd (Option.map_eq_none_iff.mp hnone) (gridPoint?_ne_none habove)
  | some decimal =>
      rfl

/-- The shortest decimal of a number other than zero reads back. -/
theorem shortest_readsBack
    (hpos : 0 < units) :
    readsBack units (shortest units).1 (shortest units).2 = true := by
  obtain ⟨exponent, _, hpoint⟩ :=
    List.exists_of_findSome?_eq_some (findSome?_gridExponents hpos)
  obtain ⟨digits, hdigits, htaken⟩ := Option.map_eq_some_iff.mp hpoint
  rw [← htaken]
  exact readsBack_of_gridPoint? hdigits

/-- The shortest decimal of a number of the format is rounded to the number. -/
theorem ofDecimal_shortest
    (hdvd : step units ∣ units) :
    ofDecimal (shortest units).1 (shortest units).2 = units := by
  rcases Nat.eq_zero_or_pos units with rfl | hpos
  · simp [shortest, ofDecimal, round, nearest]
  · exact ofDecimal_of_readsBack hpos hdvd (shortest_readsBack hpos)

/-- A multiple of a power of two with at most 53 binary digits is a number of the format. -/
theorem step_dvd_mul
    {whole exponent : Nat}
    (hle : whole ≤ 2 ^ 53) :
    step (whole * 2 ^ exponent) ∣ whole * 2 ^ exponent := by
  rcases Nat.eq_or_lt_of_le hle with rfl | hlt
  · -- rounding up may lead to the next power of two
    rw [← Nat.pow_add]
    exact step_dvd_two_pow _ (by rw [Nat.log2_two_pow])
  · by_cases hzero : whole * 2 ^ exponent = 0
    · rw [hzero]
      exact Nat.dvd_zero _
    · have hbound : whole * 2 ^ exponent < 2 ^ (53 + exponent) := by
        rw [Nat.pow_add]
        exact Nat.mul_lt_mul_of_pos_right hlt (Nat.two_pow_pos exponent)
      have hlog := (Nat.log2_lt hzero).mpr hbound
      have hdvd : step (whole * 2 ^ exponent) ∣ 2 ^ exponent := by
        have hexponent : (whole * 2 ^ exponent).log2 - 52 ≤ exponent := by
          omega
        simpa [step] using Nat.pow_dvd_pow 2 hexponent
      exact Nat.dvd_mul_left_of_dvd hdvd whole

theorem lt_mul_step
    (units : Nat) :
    units < 2 ^ 53 * step units := by
  have hexponent : units.log2 + 1 ≤ 53 + (units.log2 - 52) := by
    omega
  calc
    units < 2 ^ (units.log2 + 1) := Nat.lt_log2_self
    _ ≤ 2 ^ (53 + (units.log2 - 52)) := Nat.pow_le_pow_right (by decide) hexponent
    _ = 2 ^ 53 * step units := by
      rw [Nat.pow_add]
      rfl

/-- On the grid of its step, what is rounded has at most 53 binary digits, or is the next power. -/
theorem nearest_le
    (numerator denominator : Nat) :
    nearest numerator (denominator * step (numerator / denominator)) ≤ 2 ^ 53 := by
  have hfloor : numerator / (denominator * step (numerator / denominator)) < 2 ^ 53 := by
    rw [← Nat.div_div_eq_div_mul, Nat.div_lt_iff_lt_mul (step_pos _)]
    exact lt_mul_step _
  unfold nearest
  simp only
  split <;> omega

theorem step_round_dvd
    (numerator denominator : Nat) :
    step (round numerator denominator) ∣ round numerator denominator :=
  step_dvd_mul (nearest_le _ _)

theorem step_ofDecimal_dvd
    (digits : Nat)
    (exponent : Int) :
    step (ofDecimal digits exponent) ∣ ofDecimal digits exponent := by
  cases exponent <;> exact step_round_dvd _ _

/-- A decimal and what is read back from its positional notation are rounded to the same number. -/
theorem ofDecimal_readBack
    (digits : Nat)
    (exponent : Int) :
    ofDecimal (Numeral.readBack digits exponent).1 (Numeral.readBack digits exponent).2 =
      ofDecimal digits exponent := by
  cases exponent with
  | ofNat zeros =>
      have hshift : ofDecimal (digits * Nat.pow 10 zeros) 0 =
          round (digits * Nat.pow 10 zeros * 1) 1 := rfl
      rw [Nat.mul_one] at hshift
      exact hshift
  | negSucc places =>
      rfl

/-- A finite number of the format, up to sign. -/
structure Finite where
  units : Nat
  onGrid : step units ∣ units
  inRange : units < limit
  deriving DecidableEq

theorem whole_lt_limit
    {whole : Nat}
    (hlt : whole < 2 ^ 53) :
    whole * unitsPerOne < limit := by
  obtain ⟨exponent, hexponent, hunits⟩ := unitsPerOne_eq
  obtain ⟨last, hlast, hlimit⟩ : ∃ last, last = 2098 ∧ limit = 2 ^ last := by
    unfold limit
    generalize 2098 = last
    exact ⟨last, rfl, rfl⟩
  calc
    whole * unitsPerOne < 2 ^ 53 * 2 ^ exponent := by
      rw [hunits]
      exact Nat.mul_lt_mul_of_pos_right hlt (Nat.two_pow_pos exponent)
    _ = 2 ^ (53 + exponent) := by
      rw [Nat.pow_add]
    _ ≤ limit := by
      rw [hlimit]
      exact Nat.pow_le_pow_right (by decide) (by omega)

theorem step_whole_dvd
    {whole : Nat}
    (hlt : whole < 2 ^ 53) :
    step (whole * unitsPerOne) ∣ whole * unitsPerOne := by
  obtain ⟨exponent, _, hunits⟩ := unitsPerOne_eq
  rw [hunits]
  exact step_dvd_mul (Nat.le_of_lt hlt)

/-- A whole number of up to 53 binary digits. -/
def Finite.whole
    (whole : Nat)
    (hlt : whole < 2 ^ 53) : Finite where
  units := whole * unitsPerOne
  onGrid := step_whole_dvd hlt
  inRange := whole_lt_limit hlt

def Finite.zero : Finite where
  units := 0
  onGrid := Nat.dvd_zero _
  inRange := Nat.lt_of_le_of_lt (Nat.zero_le _) (@whole_lt_limit 0 (by decide))

/-- Numbers of the format are rounded to themselves. -/
theorem ofDecimal_whole
    {whole : Nat}
    (hlt : whole < 2 ^ 53) :
    ofDecimal whole 0 = whole * unitsPerOne := by
  have hround : ofDecimal whole 0 = round (whole * 1) 1 := rfl
  rw [hround, Nat.mul_one]
  unfold round
  simp only [Nat.div_one]
  apply nearest_mul_eq Nat.one_pos (step_pos _) (step_whole_dvd hlt)
  · omega
  · omega
  · have hstep := step_pos (whole * unitsPerOne)
    intro htie
    omega

/-- The number that a decimal is rounded to, unless that is infinity. -/
def Finite.ofDecimal?
    (digits : Nat)
    (exponent : Int) : Option Finite :=
  if h : ofDecimal digits exponent < limit then
    some ⟨ofDecimal digits exponent, step_ofDecimal_dvd digits exponent, h⟩
  else
    none

theorem Finite.ofDecimal?_whole
    {whole : Nat}
    (hlt : whole < 2 ^ 53) :
    Finite.ofDecimal? whole 0 = some (.whole whole hlt) := by
  have hexact := ofDecimal_whole hlt
  unfold Finite.ofDecimal?
  rw [dif_pos (by rw [hexact]; exact whole_lt_limit hlt)]
  simp [Finite.whole, hexact]

end Binary64

/-- The size of the number that the text of a numeral without a sign denotes, in units. -/
def Numeral.units? (text : String) : Option Nat :=
  (Numeral.decimal? text.toList).map fun decimal => Binary64.ofDecimal decimal.1 decimal.2

/-- A number of the format is read back from its shortest decimal in positional notation. -/
theorem Numeral.units?_shortest
    {units : Nat}
    (hdvd : Binary64.step units ∣ units) :
    Numeral.units? (String.ofList
      (positional (Binary64.shortest units).1 (Binary64.shortest units).2)) = some units := by
  unfold Numeral.units?
  rw [String.toList_ofList, Numeral.decimal?_positional, Option.map_some,
    Binary64.ofDecimal_readBack, Binary64.ofDecimal_shortest hdvd]

end MathBlocks
