import Mathlib.Data.List.DropRight
import Mathlib.Data.Nat.Factorization.Basic
import MathBlocks.Proofs.Decimal.Shortest

/-!
# Plain numerals

A plain numeral has all its places and nothing superfluous: no exponent, no plus sign, no zero
before other digits and none after the last place. The shortest decimal of a number is written as
one. Its significant digits, those from the first to the last one other than zero, are the digits
that were taken, so no decimal that is rounded to the number has fewer of them.
-/

namespace MathBlocks

/-- A numeral with all its places and nothing superfluous. -/
structure PlainNumeral where
  negative : Bool
  whole : List Char
  places : List Char
  wholeDigits : ∀ c ∈ whole, c.isDigit = true
  placesDigits : ∀ c ∈ places, c.isDigit = true
  wholeSome : whole ≠ []
  wholeShort : whole.head? = some '0' → whole = ['0']
  placesShort : places.getLast? ≠ some '0'

namespace PlainNumeral

/-- The digits, with a point if there are places. -/
def unsigned (numeral : PlainNumeral) : List Char :=
  match numeral.places with
  | [] => numeral.whole
  | places => numeral.whole ++ '.' :: places

/-- The text of the numeral. -/
def written (numeral : PlainNumeral) : List Char :=
  match numeral.negative with
  | true => '-' :: numeral.unsigned
  | false => numeral.unsigned

theorem unsigned_of_places
    {numeral : PlainNumeral}
    (h : numeral.places ≠ []) :
    numeral.unsigned = numeral.whole ++ '.' :: numeral.places := by
  unfold unsigned
  split
  · rename_i hnone
    exact absurd hnone h
  · rfl

/-- Only the sign is a minus. -/
theorem head?_written_iff
    (numeral : PlainNumeral) :
    numeral.written.head? = some '-' ↔ numeral.negative = true := by
  obtain ⟨c, rest, hwhole⟩ := List.exists_cons_of_ne_nil numeral.wholeSome
  have hc : c.isDigit = true := numeral.wholeDigits c (by simp [hwhole])
  have hunsigned : numeral.unsigned.head? = some c := by
    unfold unsigned
    split <;> simp [hwhole]
  have hne : c ≠ '-' := by
    rintro rfl
    exact absurd hc (by decide)
  unfold written
  cases numeral.negative with
  | true =>
      simp
  | false =>
      simp [hunsigned, hne]

end PlainNumeral

/-- The digits of a text from the first to the last one other than zero. -/
def significantDigits (text : List Char) : List Char :=
  ((text.filter Char.isDigit).dropWhile (· == '0')).rdropWhile (· == '0')

/-- A sign is no significant digit. -/
theorem significantDigits_written
    (numeral : PlainNumeral) :
    significantDigits numeral.written = significantDigits numeral.unsigned := by
  unfold significantDigits PlainNumeral.written
  cases numeral.negative with
  | true =>
      rw [List.filter_cons_of_neg (by decide)]
  | false =>
      rfl

section Digits

variable {digits : Nat}

/-- The digits of a number other than zero start with none. -/
theorem head?_decimalDigits
    (hpos : 0 < digits) :
    (decimalDigits digits).head? ≠ some '0' := by
  unfold decimalDigits
  induction digits using Nat.strong_induction_on with
  | _ digits ih =>
      rcases Nat.lt_or_ge digits 10 with hlt | hge
      · rw [Nat.toDigits_of_lt_base hlt]
        simpa using Nat.ne_of_gt hpos
      · rw [Nat.toDigits_of_base_le (by decide) hge,
          List.head?_append_of_ne_nil _ Nat.toDigits_ne_nil]
        exact ih (digits / 10) (by omega) (by omega)

/-- The digits of a number that is no multiple of ten do not end in a zero. -/
theorem getLast?_decimalDigits
    (hten : ¬ 10 ∣ digits) :
    (decimalDigits digits).getLast? ≠ some '0' := by
  unfold decimalDigits
  rcases Nat.lt_or_ge digits 10 with hlt | hge
  · rw [Nat.toDigits_of_lt_base hlt]
    simp only [List.getLast?_singleton, ne_eq, Option.some.injEq, Nat.digitChar_eq_zero]
    omega
  · rw [Nat.toDigits_of_base_le (by decide) hge]
    simp only [List.getLast?_append, List.getLast?_singleton, Option.some_or, ne_eq,
      Option.some.injEq, Nat.digitChar_eq_zero]
    omega

/-- Multiplying by ten adds a zero at the end. -/
theorem decimalDigits_mul_pow
    (hpos : 0 < digits)
    (zeros : Nat) :
    decimalDigits (digits * 10 ^ zeros) = decimalDigits digits ++ List.replicate zeros '0' := by
  induction zeros with
  | zero =>
      simp
  | succ zeros ih =>
      have hprevious := Nat.mul_pos hpos (Nat.pow_pos (n := zeros) (show 0 < 10 by decide))
      have hshift : digits * 10 ^ (zeros + 1) = 10 * (digits * 10 ^ zeros) + 0 := by
        ring
      unfold decimalDigits at *
      rw [hshift, ← Nat.toDigits_append_toDigits (by decide) hprevious (by decide), ih,
        List.append_assoc, List.replicate_succ']
      rfl

/-- All zeros before something that does not start with one are dropped. -/
theorem dropWhile_zeros
    (zeros : Nat)
    {rest : List Char}
    (hhead : rest.head? ≠ some '0') :
    (List.replicate zeros '0' ++ rest).dropWhile (· == '0') = rest := by
  rw [List.dropWhile_append_of_pos (by simp)]
  cases rest with
  | nil =>
      rfl
  | cons c rest =>
      exact List.dropWhile_cons_of_neg (by simpa using hhead)

/-- Zeros around digits that neither start nor end in one are not significant. -/
theorem significantDigits_eq
    {text significant : List Char}
    (before after : Nat)
    (htext : text.filter Char.isDigit =
      List.replicate before '0' ++ (significant ++ List.replicate after '0'))
    (hsome : significant ≠ [])
    (hhead : significant.head? ≠ some '0')
    (hlast : significant.getLast? ≠ some '0') :
    significantDigits text = significant := by
  have hstart : (significant ++ List.replicate after '0').head? ≠ some '0' := by
    rwa [List.head?_append_of_ne_nil _ hsome]
  unfold significantDigits
  rw [htext, dropWhile_zeros before hstart, List.rdropWhile, List.reverse_append,
    List.reverse_replicate, dropWhile_zeros after (by rwa [List.head?_reverse]),
    List.reverse_reverse]

variable {exponent : Int}

theorem filter_decimalDigits
    (digits : Nat) :
    (decimalDigits digits).filter Char.isDigit = decimalDigits digits :=
  List.filter_eq_self.mpr fun _ hc => Numeral.isDigit_of_mem_decimalDigits hc

/-- The significant digits of a number are those before the zeros at its end. -/
theorem significantDigits_decimalDigits
    (hten : ¬ 10 ∣ digits)
    (zeros : Nat) :
    significantDigits (decimalDigits (digits * 10 ^ zeros)) = decimalDigits digits := by
  have hpos : 0 < digits := Nat.pos_of_ne_zero (by rintro rfl; exact hten (Nat.dvd_zero _))
  refine significantDigits_eq 0 zeros ?_
    (Numeral.decimalDigits_ne_nil digits) (head?_decimalDigits hpos) (getLast?_decimalDigits hten)
  rw [filter_decimalDigits, decimalDigits_mul_pow hpos]
  rfl

/-- Positional notation adds zeros that are not significant. -/
theorem significantDigits_positional
    (hten : ¬ 10 ∣ digits) :
    significantDigits (positional digits exponent) = decimalDigits digits := by
  have hpos : 0 < digits := Nat.pos_of_ne_zero (by rintro rfl; exact hten (Nat.dvd_zero _))
  obtain ⟨before, after, hzeros⟩ : ∃ before after,
      (positional digits exponent).filter Char.isDigit =
        List.replicate before '0' ++ (decimalDigits digits ++ List.replicate after '0') := by
    cases exponent with
    | ofNat zeros =>
        refine ⟨0, zeros, ?_⟩
        simp [positional, filter_decimalDigits]
    | negSucc k =>
        simp only [positional]
        split
        · refine ⟨0, 0, ?_⟩
          rw [List.filter_append, List.filter_cons_of_neg (by decide), ← List.filter_append,
            List.take_append_drop, filter_decimalDigits]
          simp
        · refine ⟨k + 1 - (decimalDigits digits).length + 1, 0, ?_⟩
          rw [List.filter_cons_of_pos (by decide), List.filter_cons_of_neg (by decide),
            List.filter_append, filter_decimalDigits, List.replicate_succ]
          simp
  exact significantDigits_eq before after hzeros (Numeral.decimalDigits_ne_nil digits)
    (head?_decimalDigits hpos) (getLast?_decimalDigits hten)

/-- Digits that neither start nor end in a zero, as a whole number or with places. -/
theorem exists_plain_positional_of_pos
    (hten : ¬ 10 ∣ digits)
    (negative : Bool) :
    ∃ numeral : PlainNumeral,
      numeral.negative = negative ∧
      numeral.unsigned = positional digits exponent := by
  have hpos : 0 < digits := Nat.pos_of_ne_zero (by rintro rfl; exact hten (Nat.dvd_zero _))
  have hdigits := fun c (hc : c ∈ decimalDigits digits) => Numeral.isDigit_of_mem_decimalDigits hc
  have hne := Numeral.decimalDigits_ne_nil digits
  have hhead := head?_decimalDigits hpos
  have hlast := getLast?_decimalDigits hten
  have hzeros (zeros : Nat) : ∀ c ∈ List.replicate zeros '0', c.isDigit = true := by
    intro c hc
    rw [List.eq_of_mem_replicate hc]
    decide
  cases exponent with
  | ofNat zeros =>
      refine ⟨⟨negative, decimalDigits digits ++ List.replicate zeros '0', [], ?_, by simp,
        by simp [hne], ?_, by simp⟩, rfl, rfl⟩
      · intro c hc
        exact (List.mem_append.mp hc).elim (hdigits c) (hzeros zeros c)
      · rw [List.head?_append_of_ne_nil _ hne]
        exact fun h => absurd h hhead
  | negSucc k =>
      simp only [positional]
      split
      · rename_i hlt
        have hdrop :
            (decimalDigits digits).drop ((decimalDigits digits).length - (k + 1)) ≠ [] := by
          simp only [ne_eq, List.drop_eq_nil_iff]
          omega
        refine ⟨⟨negative, _, _, fun c hc => hdigits c (List.mem_of_mem_take hc),
          fun c hc => hdigits c (List.mem_of_mem_drop hc), ?_, ?_, ?_⟩, rfl,
          PlainNumeral.unsigned_of_places hdrop⟩
        · simp only [ne_eq, List.take_eq_nil_iff, hne, or_false]
          omega
        · rw [List.head?_take, if_neg (by omega)]
          exact fun h => absurd h hhead
        · rwa [List.getLast?_drop, if_neg (by omega)]
      · refine ⟨⟨negative, ['0'], List.replicate (k + 1 - (decimalDigits digits).length) '0' ++
            decimalDigits digits, by simp, ?_, by simp, fun _ => rfl, ?_⟩, rfl,
          PlainNumeral.unsigned_of_places (by simp [hne])⟩
        · intro c hc
          exact (List.mem_append.mp hc).elim (hzeros _ c) (hdigits c)
        · rwa [List.getLast?_append_of_ne_nil _ hne]

/-- A decimal whose digits do not end in a zero, and the number zero, are written plainly. -/
theorem exists_plain_positional
    (hten : 10 ∣ digits → digits = 0 ∧ exponent = 0)
    (negative : Bool) :
    ∃ numeral : PlainNumeral,
      numeral.negative = negative ∧
      numeral.unsigned = positional digits exponent := by
  by_cases hdvd : 10 ∣ digits
  · obtain ⟨rfl, rfl⟩ := hten hdvd
    have hwritten : ['0'] = positional 0 0 := by
      decide
    exact ⟨⟨negative, ['0'], [], by simp, by simp, by simp, fun _ => rfl, by simp⟩, rfl,
      hwritten⟩
  · exact exists_plain_positional_of_pos hdvd negative

end Digits

namespace Binary64

variable {units : Nat}

/-- The shortest decimal of a number is written plainly. -/
theorem exists_plain_shortest
    (hdvd : step units ∣ units)
    (hlimit : units < limit)
    (negative : Bool) :
    ∃ numeral : PlainNumeral,
      numeral.negative = negative ∧
      numeral.unsigned = positional (shortest units).1 (shortest units).2 := by
  refine exists_plain_positional ?_ negative
  intro hten
  rcases Nat.eq_zero_or_pos units with rfl | hpos
  · exact ⟨rfl, rfl⟩
  · exact absurd hten (not_ten_dvd_shortest hpos hdvd hlimit)

/-- No decimal that is rounded to a number has fewer significant digits than its shortest one. -/
theorem significantDigits_shortest_le
    (hdvd : step units ∣ units)
    (hlimit : units < limit)
    {digits : Nat}
    {exponent : Int}
    (h : ofDecimal digits exponent = units) :
    (significantDigits (positional (shortest units).1 (shortest units).2)).length ≤
      (significantDigits (decimalDigits digits)).length := by
  rcases Nat.eq_zero_or_pos units with rfl | hpos
  · have hzero : significantDigits (positional (shortest 0).1 (shortest 0).2) = [] := by
      decide
    simp [hzero]
  · rw [ofDecimal_eq_iff hpos hdvd] at h
    have hdigits := digits_pos_of_readsBack hpos hdvd h
    -- without the zeros at its end the decimal still reads back
    obtain ⟨zeros, kept, hten, rfl⟩ :=
      Nat.exists_eq_pow_mul_and_not_dvd (Nat.ne_of_gt hdigits) 10 (by decide)
    rw [Nat.mul_comm] at h ⊢
    rw [readsBack_iff_inside, decimalValue_mul_pow, ← readsBack_iff_inside] at h
    rw [significantDigits_positional (not_ten_dvd_shortest hpos hdvd hlimit),
      significantDigits_decimalDigits hten]
    exact length_shortest_le hpos hdvd hlimit h

end Binary64
end MathBlocks
