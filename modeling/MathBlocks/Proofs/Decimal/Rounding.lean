import MathBlocks.Proofs.Decimal.ReadBack

/-!
# What is rounded to a number

The decimals that are rounded to a number of the binary format are exactly those in its interval. A
value is rounded on the grid of the steps around it, which are the steps of the number that comes
out, or half as wide where it comes out as the next power of two. From this, too, follows where
rounding gives zero, and where it gives infinity.
-/

namespace MathBlocks
namespace Binary64

section Nearest

variable {numerator denominator : Nat}

/-- What is nearest is at most half a denominator away, and even where another one is as near. -/
theorem nearest_bounds
    (hpos : 0 < denominator) :
    2 * (nearest numerator denominator * denominator) ≤ 2 * numerator + denominator ∧
    2 * numerator ≤ 2 * (nearest numerator denominator * denominator) + denominator ∧
    (2 * (nearest numerator denominator * denominator) = 2 * numerator + denominator ∨
        2 * numerator = 2 * (nearest numerator denominator * denominator) + denominator →
      nearest numerator denominator % 2 = 0) := by
  have hsplit := Nat.div_add_mod numerator denominator
  have hrest := Nat.mod_lt numerator hpos
  rw [Nat.mul_comm denominator] at hsplit
  unfold nearest
  simp only
  split
  · rename_i hup
    simp only [Bool.or_eq_true, Bool.and_eq_true, decide_eq_true_eq, beq_iff_eq] at hup
    simp only [Nat.succ_mul]
    omega
  · rename_i hdown
    simp only [Bool.or_eq_true, Bool.and_eq_true, decide_eq_true_eq, beq_iff_eq, not_or,
      not_and] at hdown
    omega

/-- What is nearest is no less than the quotient. -/
theorem div_le_nearest
    (numerator denominator : Nat) :
    numerator / denominator ≤ nearest numerator denominator := by
  unfold nearest
  simp only
  split
  · exact Nat.le_succ _
  · exact Nat.le_refl _

/-- On the grid of its step, what is rounded has 53 binary digits if it is large enough. -/
theorem le_nearest
    (hlarge : 2 ^ 52 ≤ numerator / denominator) :
    2 ^ 52 ≤ nearest numerator (denominator * step (numerator / denominator)) := by
  refine Nat.le_trans ?_ (div_le_nearest _ _)
  have hpositive : 0 < numerator / denominator := by
    omega
  have hlog : 52 ≤ (numerator / denominator).log2 :=
    (Nat.le_log2 (Nat.ne_of_gt hpositive)).mpr hlarge
  rw [← Nat.div_div_eq_div_mul, Nat.le_div_iff_mul_le (step_pos _)]
  calc
    2 ^ 52 * step (numerator / denominator) = 2 ^ (numerator / denominator).log2 := by
      rw [step, Nat.pow_eq, ← Nat.pow_add]
      congr 1
      omega
    _ ≤ numerator / denominator := two_pow_log2_le hpositive

/-- The number that comes out has the step it was rounded with, or it is the next power of two. -/
theorem step_nearest
    (hlarge : 2 ^ 52 ≤ numerator / denominator) :
    step (nearest numerator (denominator * step (numerator / denominator)) *
        step (numerator / denominator)) = step (numerator / denominator) ∨
    (nearest numerator (denominator * step (numerator / denominator)) = 2 ^ 53 ∧
      step (2 ^ 53 * step (numerator / denominator)) = 2 * step (numerator / denominator)) := by
  have hfloor := le_nearest hlarge
  have hceiling := nearest_le numerator denominator
  generalize nearest numerator (denominator * step (numerator / denominator)) = whole at *
  obtain ⟨exponent, hstep⟩ : ∃ exponent, step (numerator / denominator) = 2 ^ exponent := ⟨_, rfl⟩
  rw [hstep]
  rcases Nat.lt_or_eq_of_le hceiling with hlt | heq
  · left
    have hlow : 2 ^ (52 + exponent) ≤ whole * 2 ^ exponent := by
      rw [Nat.pow_add]
      exact Nat.mul_le_mul_right _ hfloor
    have hhigh : whole * 2 ^ exponent < 2 ^ (52 + exponent + 1) := by
      rw [Nat.add_right_comm, Nat.pow_add]
      exact Nat.mul_lt_mul_of_pos_right hlt (Nat.two_pow_pos exponent)
    rw [step_eq hlow hhigh, Nat.add_sub_cancel_left]
  · right
    refine ⟨heq, ?_⟩
    have hpower : 2 ^ 53 * 2 ^ exponent = 2 ^ (52 + (exponent + 1)) := by
      rw [← Nat.pow_add]
      congr 1
      omega
    rw [hpower, step_eq (Nat.le_refl _) (Nat.pow_lt_pow_right (by decide) (Nat.lt_succ_self _)),
      Nat.add_sub_cancel_left, Nat.pow_succ, Nat.mul_comm]

/-- Below `2 ^ 52` units, rounding is to whole units, and none comes out that has a wider step. -/
theorem step_nearest_of_lt
    (hsmall : numerator / denominator < 2 ^ 52) :
    step (numerator / denominator) = 1 ∧
    step (nearest numerator denominator) = 1 ∧
    nearest numerator denominator ≤ 2 ^ 52 := by
  have hstep : step (numerator / denominator) = 1 := step_of_lt (by omega)
  have hnearest : nearest numerator denominator ≤ 2 ^ 52 := by
    unfold nearest
    simp only
    split <;> omega
  exact ⟨hstep, step_of_lt (by omega), hnearest⟩

end Nearest

section Inside

variable {units : Nat}

theorem step_le_halvesBelow
    (units : Nat) :
    step units ≤ halvesBelow units := by
  unfold halvesBelow
  split
  · exact Nat.le_refl _
  · omega

variable {numerator denominator : Nat}

/--
What is at most half a step away from a number lies in its interval, at an end of it only if the
number is even, unless it lies below a power of two.
-/
theorem inside_of_bounds
    (hpos : 0 < units)
    (hdvd : step units ∣ units)
    (hdenominator : 0 < denominator)
    (hlow : 2 * (units * denominator) ≤ 2 * numerator + step units * denominator)
    (hhigh : 2 * numerator ≤ 2 * (units * denominator) + step units * denominator)
    (htie :
      2 * (units * denominator) = 2 * numerator + step units * denominator ∨
        2 * numerator = 2 * (units * denominator) + step units * denominator →
      units / step units % 2 = 0)
    (hpower : units = 2 ^ units.log2 → 52 < units.log2 → units * denominator ≤ numerator) :
    (interval units).1 * denominator ≤ 4 * numerator ∧
    4 * numerator ≤ (interval units).2 * denominator ∧
    ((interval units).1 * denominator = 4 * numerator ∨
        4 * numerator = (interval units).2 * denominator →
      takesEnds units = true) := by
  have heven : takesEnds units = true ↔ units / step units % 2 = 0 := by
    simp [takesEnds]
  have hwidth := Nat.mul_pos (step_pos units) hdenominator
  have hfits := Nat.mul_le_mul_right denominator (Nat.le_of_dvd hpos hdvd)
  rw [heven]
  simp only [interval, halvesBelow, Nat.sub_mul, Nat.add_mul, Nat.mul_assoc]
  split
  · rename_i hnarrow
    simp only [Nat.pow_eq, Bool.and_eq_true, decide_eq_true_eq] at hnarrow
    have habove := hpower hnarrow.1 hnarrow.2
    exact ⟨by omega, by omega, fun hends => htie (by omega)⟩
  · simp only [Nat.mul_assoc]
    exact ⟨by omega, by omega, fun hends => htie (by omega)⟩

/-- What is rounded to a number other than zero lies in its interval. -/
theorem inside_of_nearest
    (hpos : 0 < units)
    (hdvd : step units ∣ units)
    (hdenominator : 0 < denominator)
    (hunits : nearest numerator (denominator * step (numerator / denominator)) *
      step (numerator / denominator) = units) :
    (interval units).1 * denominator ≤ 4 * numerator ∧
    4 * numerator ≤ (interval units).2 * denominator ∧
    ((interval units).1 * denominator = 4 * numerator ∨
        4 * numerator = (interval units).2 * denominator →
      takesEnds units = true) := by
  have hgrid := step_pos (numerator / denominator)
  obtain ⟨hlow, hhigh, htie⟩ :=
    @nearest_bounds numerator _ (Nat.mul_pos hdenominator hgrid)
  have hwhole : nearest numerator (denominator * step (numerator / denominator)) =
      units / step (numerator / denominator) := by
    rw [← hunits, Nat.mul_div_cancel _ hgrid]
  have hmul : units / step (numerator / denominator) *
      (denominator * step (numerator / denominator)) = units * denominator := by
    rw [← hwhole, ← hunits]
    ring
  rw [hwhole, hmul, Nat.mul_comm denominator] at hlow hhigh htie
  rcases Nat.lt_or_ge (numerator / denominator) (2 ^ 52) with hsmall | hlarge
  · -- whole units, and none of them above `2 ^ 52`
    obtain ⟨hone, hstep, hle⟩ := step_nearest_of_lt hsmall
    rw [hone, Nat.mul_one, Nat.mul_one] at hunits
    rw [hunits] at hstep hle
    rw [hone, ← hstep] at hlow hhigh htie
    refine inside_of_bounds hpos hdvd hdenominator hlow hhigh htie ?_
    intro _ hlog
    have hpower := (Nat.log2_lt (Nat.ne_of_gt hpos)).mpr (show units < 2 ^ 53 by omega)
    omega
  · rcases step_nearest hlarge with hsame | ⟨hnext, hwide⟩
    · rw [hunits] at hsame
      rw [← hsame] at hlow hhigh htie
      refine inside_of_bounds hpos hdvd hdenominator hlow hhigh htie ?_
      intro hpower hlog
      -- both have their first binary digit at the same place
      have hpositive : 0 < numerator / denominator := by
        omega
      have hplace : 52 ≤ (numerator / denominator).log2 :=
        (Nat.le_log2 (Nat.ne_of_gt hpositive)).mpr hlarge
      have hexponent := Nat.pow_right_injective (Nat.le_refl 2) hsame
      have hlogs : units.log2 = (numerator / denominator).log2 := by
        omega
      rw [← Nat.le_div_iff_mul_le hdenominator, hpower, hlogs]
      exact two_pow_log2_le hpositive
    · -- up to the next power of two, whose lower neighbour is half as far
      rw [hnext] at hunits
      rw [hunits] at hwide
      have hhalves := Nat.mul_le_mul_right denominator (step_le_halvesBelow units)
      have hends : takesEnds units = true := by
        have hdiv : units / step units = 2 ^ 52 := by
          rw [hwide, ← hunits, Nat.mul_div_mul_right _ _ hgrid]
          rfl
        simp [takesEnds, hdiv]
      simp only [interval, Nat.sub_mul, Nat.add_mul, Nat.mul_assoc]
      rw [hwide, Nat.mul_assoc] at hhalves ⊢
      exact ⟨by omega, by omega, fun _ => hends⟩

end Inside

theorem readsBack_of_inside
    {units digits : Nat}
    {exponent : Int}
    (hlow : (interval units).1 * quarterScale exponent ≤ digits * pointScale exponent)
    (hhigh : digits * pointScale exponent ≤ (interval units).2 * quarterScale exponent)
    (hends :
      (interval units).1 * quarterScale exponent = digits * pointScale exponent ∨
          digits * pointScale exponent = (interval units).2 * quarterScale exponent →
        takesEnds units = true) :
    readsBack units digits exponent = true := by
  unfold readsBack
  split
  · simp [hlow, hhigh]
  · rename_i hodd
    have hlow' := Nat.lt_of_le_of_ne hlow fun heq => hodd (hends (Or.inl heq))
    have hhigh' := Nat.lt_of_le_of_ne hhigh fun heq => hodd (hends (Or.inr heq))
    simp [hlow', hhigh']

/-- A decimal is rounded to a number other than zero if and only if it lies in its interval. -/
theorem ofDecimal_eq_iff
    {units : Nat}
    (hpos : 0 < units)
    (hdvd : step units ∣ units)
    (digits : Nat)
    (exponent : Int) :
    ofDecimal digits exponent = units ↔ readsBack units digits exponent = true := by
  constructor
  · intro hunits
    cases exponent with
    | ofNat zeros =>
        have hpoint : digits * pointScale (.ofNat zeros) =
            4 * (digits * Nat.pow 10 zeros * unitsPerOne) := by
          simp only [pointScale]
          ring
        obtain ⟨hlow, hhigh, hends⟩ := inside_of_nearest hpos hdvd Nat.one_pos hunits
        rw [← hpoint] at hlow hhigh hends
        exact readsBack_of_inside hlow hhigh hends
    | negSucc places =>
        have hpoint : digits * pointScale (.negSucc places) = 4 * (digits * unitsPerOne) := by
          simp only [pointScale]
          ring
        obtain ⟨hlow, hhigh, hends⟩ :=
          inside_of_nearest hpos hdvd (Nat.pow_pos (by decide)) hunits
        rw [← hpoint] at hlow hhigh hends
        exact readsBack_of_inside hlow hhigh hends
  · exact ofDecimal_of_readsBack hpos hdvd

section Thresholds

variable {numerator denominator : Nat}

/-- Half of the least number is still rounded to zero, and nothing above it is. -/
theorem round_eq_zero_iff
    (hdenominator : 0 < denominator) :
    round numerator denominator = 0 ↔ 2 * (numerator * unitsPerOne) ≤ denominator := by
  unfold round
  generalize numerator * unitsPerOne = scaled
  simp only
  rcases Nat.lt_or_ge (scaled / denominator) (2 ^ 52) with hsmall | hlarge
  · obtain ⟨hone, _, _⟩ := step_nearest_of_lt hsmall
    rw [hone, Nat.mul_one, Nat.mul_one]
    constructor
    · intro hzero
      have hbounds := @nearest_bounds scaled _ hdenominator
      rw [hzero] at hbounds
      omega
    · intro hle
      exact nearest_eq hdenominator (by omega) (by omega) (fun _ => rfl)
  · have hnearest := le_nearest hlarge
    have hnonzero := Nat.mul_pos (Nat.lt_of_lt_of_le (Nat.two_pow_pos 52) hnearest)
      (step_pos (scaled / denominator))
    have hmul := (Nat.le_div_iff_mul_le hdenominator).mp hlarge
    constructor
    · intro hzero
      omega
    · intro hle
      omega

/-- The first multiple that is too large, as a power of two whose exponent is kept as a variable. -/
theorem limit_eq :
    ∃ exponent, exponent = 2044 ∧ limit = 2 ^ 54 * 2 ^ exponent := by
  unfold limit
  generalize hlast : 2098 = last
  refine ⟨last - 54, by omega, ?_⟩
  rw [Nat.pow_eq, ← Nat.pow_add]
  congr 1
  omega

theorem step_le_of_lt
    {units exponent : Nat}
    (hlt : units < 2 ^ 53 * 2 ^ exponent) :
    step units ≤ 2 ^ exponent := by
  rcases Nat.eq_zero_or_pos units with rfl | hpositive
  · exact Nat.two_pow_pos exponent
  · rw [← Nat.pow_add, ← Nat.log2_lt (Nat.ne_of_gt hpositive)] at hlt
    exact Nat.pow_le_pow_right (by decide) (by omega)

theorem le_step_of_le
    {units exponent : Nat}
    (hle : 2 ^ 52 * 2 ^ exponent ≤ units) :
    2 ^ exponent ≤ step units := by
  rw [← Nat.pow_add] at hle
  have hpositive := Nat.lt_of_lt_of_le (Nat.two_pow_pos _) hle
  rw [← Nat.le_log2 (Nat.ne_of_gt hpositive)] at hle
  exact Nat.pow_le_pow_right (by decide) (by omega)

/-- Where the step is `2 ^ (exponent + 1)`, only the upper end of the grid reaches `limit`. -/
theorem two_pow_le_nearest_iff
    {scaled width : Nat}
    (hwidth : 0 < width)
    (hceiling : nearest scaled width ≤ 2 ^ 53) :
    2 ^ 53 ≤ nearest scaled width ↔ (2 ^ 54 - 1) * width ≤ 2 * scaled := by
  obtain ⟨hlow, hhigh, htie⟩ := @nearest_bounds scaled _ hwidth
  generalize nearest scaled width = whole at *
  constructor
  · intro hle
    have hwhole : whole = 2 ^ 53 := Nat.le_antisymm hceiling hle
    rw [hwhole] at hlow
    omega
  · intro hle
    by_contra hlt
    have hnext := Nat.mul_le_mul_right width (show whole + 1 ≤ 2 ^ 53 by omega)
    rw [Nat.add_mul, Nat.one_mul] at hnext
    -- the middle itself, and the number below it is odd
    have hwhole : whole = 2 ^ 53 - 1 := by
      refine Nat.eq_of_mul_eq_mul_right hwidth ?_
      omega
    have heven := htie (by omega)
    rw [hwhole] at heven
    exact absurd heven (by decide)

/--
The middle between the largest number and the one that would follow it is rounded to infinity, as
the largest number is odd, and nothing below it is.
-/
theorem limit_le_round_iff
    (hdenominator : 0 < denominator)
    {exponent : Nat}
    (hlimit : limit = 2 ^ 54 * 2 ^ exponent) :
    limit ≤ round numerator denominator ↔
      (2 ^ 54 - 1) * 2 ^ exponent * denominator ≤ numerator * unitsPerOne := by
  unfold round
  rw [hlimit]
  clear hlimit
  generalize numerator * unitsPerOne = scaled
  simp only
  have hgrid := step_pos (scaled / denominator)
  have hceiling := nearest_le scaled denominator
  have hmiddle : (2 ^ 54 - 1) * 2 ^ exponent * denominator ≤ scaled ↔
      (2 ^ 54 - 1) * 2 ^ exponent ≤ scaled / denominator :=
    (Nat.le_div_iff_mul_le hdenominator).symm
  have hunit := Nat.two_pow_pos exponent
  rcases Nat.lt_or_ge (scaled / denominator) (2 ^ 53 * 2 ^ exponent) with hsmall | hlarge
  · -- a step too narrow for `limit`
    have hstep := step_le_of_lt hsmall
    have hround := Nat.mul_le_mul hceiling hstep
    rw [hmiddle]
    constructor <;> intro _ <;> omega
  · rcases Nat.lt_or_ge (scaled / denominator) (2 ^ 54 * 2 ^ exponent) with hnext | hbeyond
    · have hstep : step (scaled / denominator) = 2 * 2 ^ exponent := by
        rw [← Nat.pow_add] at hlarge hnext
        rw [step_eq hlarge (by rwa [Nat.add_right_comm]), ← Nat.pow_succ']
        congr 1
        omega
      rw [hstep] at hceiling ⊢
      have hsplit : 2 ^ 54 * 2 ^ exponent = 2 ^ 53 * (2 * 2 ^ exponent) := by
        omega
      rw [hsplit, Nat.mul_le_mul_right_iff (by omega),
        two_pow_le_nearest_iff (Nat.mul_pos hdenominator (by omega)) hceiling]
      have hassoc : (2 ^ 54 - 1) * (denominator * (2 * 2 ^ exponent)) =
          2 * ((2 ^ 54 - 1) * 2 ^ exponent * denominator) := by
        ring
      rw [hassoc, Nat.mul_le_mul_left_iff Nat.two_pos]
    · have hfloor := @le_nearest scaled denominator (by omega)
      have hstep : 2 ^ (exponent + 2) ≤ step (scaled / denominator) := by
        refine le_step_of_le (Nat.le_trans (Nat.le_of_eq ?_) hbeyond)
        rw [Nat.pow_add, Nat.mul_left_comm, Nat.mul_comm, ← Nat.pow_add 2 52 2]
      rw [Nat.pow_add] at hstep
      have hround := Nat.mul_le_mul hfloor hstep
      rw [hmiddle]
      constructor <;> intro _ <;> omega

end Thresholds

end Binary64
end MathBlocks
