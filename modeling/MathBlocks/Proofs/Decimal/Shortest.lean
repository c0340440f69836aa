import MathBlocks.Proofs.Decimal.Exact

/-!
# No shorter decimal

The decimal that is taken for a number lies on the coarsest grid that has a point in the interval
of the number, whatever grid is looked at, so its digits do not end in a zero. A decimal with fewer
digits would lie below a power of ten that is not above the one taken, and that power of ten would
then be a point of a coarser grid in the interval.
-/

namespace MathBlocks
namespace Binary64

variable {units : Nat}

section Grids

variable {digits : Nat} {exponent : Int}

theorem pointScale_pos :
    ∀ exponent : Int, 0 < pointScale exponent
  | .ofNat _ => Nat.mul_pos (Nat.pow_pos (by decide)) (Nat.mul_pos (by decide) unitsPerOne_pos)
  | .negSucc _ => Nat.mul_pos (by decide) unitsPerOne_pos

/-- A point between one that reads back and the number reads back. -/
theorem readsBack_below
    {below : Nat}
    (h : readsBack units digits exponent = true)
    (hle : digits ≤ below)
    (hbelow : below * pointScale exponent ≤ 4 * units * quarterScale exponent) :
    readsBack units below exponent = true := by
  obtain ⟨hlow, _, hends⟩ := inside_of_readsBack h
  have hpoint := Nat.mul_le_mul_right (pointScale exponent) hle
  have hup : 4 * units * quarterScale exponent < (interval units).2 * quarterScale exponent := by
    refine Nat.mul_lt_mul_of_pos_right ?_ (quarterScale_pos exponent)
    have hstep := step_pos units
    simp only [interval]
    omega
  refine readsBack_of_inside (by omega) (by omega) ?_
  rintro (heq | heq)
  · exact hends (Or.inl (by omega))
  · omega

/-- A point between the number and one that reads back reads back. -/
theorem readsBack_above
    {above : Nat}
    (hpos : 0 < units)
    (h : readsBack units digits exponent = true)
    (hle : above ≤ digits)
    (habove : 4 * units * quarterScale exponent ≤ above * pointScale exponent) :
    readsBack units above exponent = true := by
  obtain ⟨_, hhigh, hends⟩ := inside_of_readsBack h
  have hpoint := Nat.mul_le_mul_right (pointScale exponent) hle
  have hdown : (interval units).1 * quarterScale exponent < 4 * units * quarterScale exponent := by
    refine Nat.mul_lt_mul_of_pos_right ?_ (quarterScale_pos exponent)
    have hhalf := Nat.lt_of_lt_of_le (step_pos units) (step_le_halvesBelow units)
    simp only [interval]
    omega
  refine readsBack_of_inside (by omega) (by omega) ?_
  rintro (heq | heq)
  · omega
  · exact hends (Or.inr (by omega))

/-- If any point of a grid reads back, one of the two next to the number does. -/
theorem gridPoint?_of_readsBack
    (hpos : 0 < units)
    (h : readsBack units digits exponent = true) :
    gridPoint? units exponent ≠ none := by
  have hfloor := Nat.div_mul_le_self (4 * units * quarterScale exponent) (pointScale exponent)
  have hceiling := Nat.lt_div_mul_add (a := 4 * units * quarterScale exponent)
    (pointScale_pos exponent)
  rw [← Nat.succ_mul] at hceiling
  unfold gridPoint?
  simp only
  generalize 4 * units * quarterScale exponent / pointScale exponent = below at *
  rcases Nat.lt_or_ge below digits with hlt | hle
  · have hback := readsBack_above hpos h hlt (Nat.le_of_lt hceiling)
    rw [Nat.succ_eq_add_one] at hback
    simp only [hback]
    split <;> simp_all
  · have hback := readsBack_below h hle hfloor
    simp only [hback]
    split <;> simp_all

theorem gridExponents_pairwise :
    gridExponents.Pairwise fun first second => second < first := by
  unfold gridExponents
  rw [List.pairwise_map]
  exact List.pairwise_lt_range.imp fun h => by omega

theorem mem_gridExponents
    (hlow : -324 ≤ exponent)
    (hhigh : exponent ≤ 308) :
    exponent ∈ gridExponents :=
  List.mem_map.mpr ⟨(308 - exponent).toNat, List.mem_range.mpr (by omega), by omega⟩

/-- The grid that is taken is one of those tried, and no coarser one of them has a point. -/
theorem shortest_coarsest
    (hpos : 0 < units) :
    (shortest units).2 ∈ gridExponents ∧
    ∀ exponent ∈ gridExponents,
      gridPoint? units exponent ≠ none → exponent ≤ (shortest units).2 := by
  obtain ⟨coarser, taken, finer, hsplit, hpoint, hnone⟩ :=
    List.findSome?_eq_some_iff.mp (findSome?_gridExponents hpos)
  obtain ⟨digits, _, hshortest⟩ := Option.map_eq_some_iff.mp hpoint
  rw [← hshortest]
  refine ⟨by simp [hsplit], ?_⟩
  intro exponent hmem hsome
  have hpairwise := gridExponents_pairwise
  rw [hsplit] at hmem hpairwise
  obtain ⟨_, hrest, _⟩ := List.pairwise_append.mp hpairwise
  rcases List.mem_append.mp hmem with hcoarser | hmem
  · exact absurd (Option.map_eq_none_iff.mp (hnone exponent hcoarser)) hsome
  · rcases List.mem_cons.mp hmem with rfl | hfiner
    · exact le_refl _
    · exact le_of_lt ((List.pairwise_cons.mp hrest).1 exponent hfiner)

/-- The interval of a number below a power of two ends at the power of two at most. -/
theorem interval_high_le
    {place : Nat}
    (hdvd : step units ∣ units)
    (hlt : units < 2 ^ place) :
    (interval units).2 ≤ 4 * 2 ^ place := by
  have hnext : units + step units ≤ 2 ^ place := by
    rcases Nat.eq_zero_or_pos units with rfl | hpos
    · exact hlt
    · have hlog := (Nat.log2_lt (Nat.ne_of_gt hpos)).mpr hlt
      exact Nat.le_trans (add_step_le hdvd) (Nat.pow_le_pow_right (by decide) hlog)
  simp only [interval]
  omega

/-- What is in the interval of a number other than zero has digits other than zero. -/
theorem digits_pos_of_readsBack
    (hpos : 0 < units)
    (hdvd : step units ∣ units)
    (h : readsBack units digits exponent = true) :
    0 < digits := by
  rcases Nat.eq_zero_or_pos digits with rfl | hdigits
  · have hvalue := ((readsBack_iff_inside 0 exponent).mp h).pos hpos hdvd
    rw [decimalValue_zero] at hvalue
    exact absurd hvalue (lt_irrefl 0)
  · exact hdigits

/-- A comparison of powers of two and ten whose exponents are kept as variables. -/
theorem limit_lt_ten_pow
    {tens : Nat}
    (htens : tens = 309) :
    limit < 10 ^ tens * unitsPerOne := by
  obtain ⟨places, hplaces, hunits⟩ := unitsPerOne_eq
  obtain ⟨first, hfirst, hlimit⟩ := limit_eq
  obtain ⟨twos, htwos⟩ : ∃ twos, 93 * 10 + 52 = twos := ⟨_, rfl⟩
  obtain ⟨zeros, hzeros⟩ : ∃ zeros, 28 * 10 + 16 = zeros := ⟨_, rfl⟩
  have hpower := two_pow_lt_ten_pow 10
  rw [htwos, hzeros] at hpower
  have hfits : 54 + first = twos + (42 + places) := by
    omega
  have hrest : tens = zeros + 13 := by
    omega
  calc
    limit = 2 ^ twos * 2 ^ 42 * 2 ^ places := by
      rw [hlimit, ← Nat.pow_add, hfits, Nat.pow_add, Nat.pow_add, Nat.mul_assoc]
    _ < 10 ^ zeros * 10 ^ 13 * 2 ^ places :=
      Nat.mul_lt_mul_of_pos_right (Nat.mul_lt_mul'' hpower (by norm_num))
        (Nat.two_pow_pos places)
    _ = 10 ^ tens * unitsPerOne := by
      rw [hrest, hunits, Nat.pow_add]

/-- No power of ten from `10 ^ 309` on is in the interval of a finite number. -/
theorem exponent_le_of_readsBack
    (hpos : 0 < units)
    (hdvd : step units ∣ units)
    (hlimit : units < limit)
    (h : readsBack units digits exponent = true) :
    exponent ≤ 308 := by
  by_contra hlarge
  obtain ⟨tens, htens⟩ : ∃ tens, tens = 309 := ⟨309, rfl⟩
  obtain ⟨first, _, hpower⟩ := limit_eq
  rw [← Nat.pow_add] at hpower
  have hdigits : (1 : ℚ) ≤ digits :=
    Nat.one_le_cast.mpr (digits_pos_of_readsBack hpos hdvd h)
  have hvalue : (10 : ℚ) ^ tens ≤ decimalValue digits exponent := by
    calc
      (10 : ℚ) ^ tens = 1 * 10 ^ (tens : Int) := by
        rw [one_mul, zpow_natCast]
      _ ≤ digits * 10 ^ exponent :=
        mul_le_mul hdigits (zpow_le_zpow_right₀ (by norm_num) (by omega))
          (zpow_nonneg (by norm_num) _) (Nat.cast_nonneg _)
  -- the value is beyond the end of the interval
  have hend : ((interval units).2 : ℚ) ≤ 4 * limit := by
    have hle := interval_high_le hdvd (hpower ▸ hlimit)
    rw [← hpower] at hle
    exact_mod_cast hle
  have hbeyond : (limit : ℚ) < 10 ^ tens * unitsPerOne := by
    exact_mod_cast limit_lt_ten_pow htens
  have hhigh := ((readsBack_iff_inside digits exponent).mp h).high
  have hscaled := mul_le_mul_of_nonneg_right hvalue (le_of_lt quarters_pos)
  linarith

/-- No decimal in the interval lies on a coarser grid than the one that is taken. -/
theorem le_shortest_of_readsBack
    (hpos : 0 < units)
    (hdvd : step units ∣ units)
    (hlimit : units < limit)
    (h : readsBack units digits exponent = true) :
    exponent ≤ (shortest units).2 := by
  obtain ⟨htaken, hcoarsest⟩ := shortest_coarsest hpos
  rcases Int.lt_or_le exponent (-324) with hfine | htried
  · obtain ⟨place, hplace, heq⟩ := List.mem_map.mp htaken
    have hbound := List.mem_range.mp hplace
    omega
  · exact hcoarsest exponent
      (mem_gridExponents htried (exponent_le_of_readsBack hpos hdvd hlimit h))
      (gridPoint?_of_readsBack hpos h)

end Grids

/-- The digits that are taken do not end in a zero. -/
theorem not_ten_dvd_shortest
    (hpos : 0 < units)
    (hdvd : step units ∣ units)
    (hlimit : units < limit) :
    ¬ 10 ∣ (shortest units).1 := by
  rintro ⟨tenth, htenth⟩
  have hback := shortest_readsBack hpos
  rw [htenth, Nat.mul_comm, ← Nat.pow_one 10, readsBack_iff_inside, decimalValue_mul_pow,
    ← readsBack_iff_inside] at hback
  have hcoarser := le_shortest_of_readsBack hpos hdvd hlimit hback
  omega

/-- What reads back has as many digits as what is taken, or more. -/
theorem length_shortest_le
    (hpos : 0 < units)
    (hdvd : step units ∣ units)
    (hlimit : units < limit)
    {digits : Nat}
    {exponent : Int}
    (h : readsBack units digits exponent = true) :
    (decimalDigits (shortest units).1).length ≤ (decimalDigits digits).length := by
  by_contra hfewer
  obtain ⟨places, hplaces⟩ : ∃ places, (decimalDigits (shortest units).1).length = places + 1 :=
    ⟨_, (Nat.succ_pred_eq_of_pos Nat.length_toDigits_pos).symm⟩
  have hsome : 0 < (decimalDigits digits).length := Nat.length_toDigits_pos
  have hplacesPos : 0 < places := by
    omega
  have hless : digits < 10 ^ places :=
    (Nat.length_toDigits_le_iff (by decide) hplacesPos).mp (by unfold decimalDigits at *; omega)
  have hmore : 10 ^ places ≤ (shortest units).1 := by
    by_contra hlt
    have hlength := (Nat.length_toDigits_le_iff (by decide) hplacesPos).mpr (Nat.lt_of_not_le hlt)
    unfold decimalDigits at hplaces
    omega
  have hcoarsest := le_shortest_of_readsBack hpos hdvd hlimit h
  -- a power of ten on the grid that is taken lies between the two
  have hlow : decimalValue digits exponent ≤ decimalValue (10 ^ places) (shortest units).2 :=
    mul_le_mul (Nat.cast_le.mpr (Nat.le_of_lt hless)) (zpow_le_zpow_right₀ (by norm_num) hcoarsest)
      (zpow_nonneg (by norm_num) _) (Nat.cast_nonneg _)
  have hhigh : decimalValue (10 ^ places) (shortest units).2 ≤
      decimalValue (shortest units).1 (shortest units).2 :=
    mul_le_mul_of_nonneg_right (Nat.cast_le.mpr hmore) (zpow_nonneg (by norm_num) _)
  have hbetween : readsBack units 1 ((shortest units).2 + places) = true := by
    rw [readsBack_iff_inside, ← decimalValue_mul_pow, Nat.one_mul]
    exact ((readsBack_iff_inside _ _).mp h).between
      ((readsBack_iff_inside _ _).mp (shortest_readsBack hpos)) hlow hhigh
  have hcoarser := le_shortest_of_readsBack hpos hdvd hlimit hbetween
  omega

end Binary64
end MathBlocks
