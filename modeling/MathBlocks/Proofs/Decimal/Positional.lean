import Mathlib.Data.List.TakeWhile
import MathBlocks.Decimal.Numeral
import MathBlocks.Decimal.Positional

/-!
# Reading positional notation

A number in positional notation is a digit followed by digits and at most one point, and it is
read back as the number that was written.
-/

namespace MathBlocks
namespace Numeral

theorem digitsValue_append
    (first second : List Char) :
    digitsValue (first ++ second) = Nat.ofDigitChars 10 second (digitsValue first) := by
  have hfold : digitsValue (first ++ second) = Nat.ofDigitChars 10 (first ++ second) 0 := rfl
  rw [hfold, Nat.ofDigitChars_append]
  rfl

theorem digitsValue_decimalDigits
    (n : Nat) :
    digitsValue (decimalDigits n) = n :=
  Nat.ofDigitChars_ten_toDigits

theorem isDigit_of_mem_decimalDigits
    {n : Nat}
    {c : Char}
    (hc : c ∈ decimalDigits n) :
    c.isDigit = true :=
  Nat.isDigit_of_mem_toDigits (by decide) (by decide) hc

theorem decimalDigits_ne_nil
    (n : Nat) :
    decimalDigits n ≠ [] :=
  Nat.toDigits_ne_nil

/-- The digits at the start of a text are all of them up to the first other character. -/
theorem span_digits
    {digits rest : List Char}
    (hdigits : ∀ c ∈ digits, c.isDigit = true)
    (hrest : ∀ c ∈ rest.head?, c.isDigit = false) :
    (digits ++ rest).takeWhile Char.isDigit = digits ∧
    (digits ++ rest).dropWhile Char.isDigit = rest := by
  rw [List.takeWhile_append_of_pos hdigits, List.dropWhile_append_of_pos hdigits]
  cases rest with
  | nil =>
      simp
  | cons c rest =>
      have hc : c.isDigit = false := hrest c rfl
      simp [hc]

/-- Digits without a point are a whole number, scaled by what follows them. -/
theorem decimal?_whole_append
    {whole rest : List Char}
    (hwhole : ∀ c ∈ whole, c.isDigit = true)
    (hne : whole ≠ [])
    (hrest : ∀ c ∈ rest.head?, c.isDigit = false ∧ c ≠ '.') :
    decimal? (whole ++ rest) =
      (exponent? rest).map fun exponent => (digitsValue whole, exponent) := by
  obtain ⟨htake, hdrop⟩ := span_digits hwhole fun c hc => (hrest c hc).1
  unfold decimal?
  simp only [htake, hdrop]
  cases rest with
  | nil =>
      simp [hne]
  | cons c rest =>
      have hpoint : c ≠ '.' := (hrest c rfl).2
      simp [hne, hpoint]

/-- Digits around a point are the number with as many places, scaled by what follows them. -/
theorem decimal?_places_append
    {whole places rest : List Char}
    (hwhole : ∀ c ∈ whole, c.isDigit = true)
    (hplaces : ∀ c ∈ places, c.isDigit = true)
    (hne : whole ≠ [] ∨ places ≠ [])
    (hrest : ∀ c ∈ rest.head?, c.isDigit = false) :
    decimal? (whole ++ '.' :: (places ++ rest)) =
      (exponent? rest).map fun (exponent : Int) =>
        (digitsValue (whole ++ places), exponent - places.length) := by
  obtain ⟨htake, hdrop⟩ := @span_digits whole ('.' :: (places ++ rest)) hwhole
    (by rintro c ⟨rfl⟩; decide)
  obtain ⟨htakePlaces, hdropPlaces⟩ := span_digits hplaces hrest
  have hsome : ¬ (whole = [] ∧ places = []) :=
    fun h => hne.elim (fun hwhole => hwhole h.1) (fun hplaces => hplaces h.2)
  unfold decimal?
  simp only [htake, hdrop, htakePlaces, hdropPlaces]
  rw [if_neg (by simpa using hsome)]

/-- Digits by themselves are a whole number. -/
theorem decimal?_whole
    {digits : List Char}
    (hdigits : ∀ c ∈ digits, c.isDigit = true)
    (hne : digits ≠ []) :
    decimal? digits = some (digitsValue digits, 0) := by
  simpa [exponent?] using @decimal?_whole_append digits [] hdigits hne (by simp)

/-- Digits around a point are the number with as many places. -/
theorem decimal?_places
    {whole places : List Char}
    (hwhole : ∀ c ∈ whole, c.isDigit = true)
    (hplaces : ∀ c ∈ places, c.isDigit = true)
    (hne : whole ≠ []) :
    decimal? (whole ++ '.' :: places) =
      some (digitsValue (whole ++ places), -(places.length : Int)) := by
  simpa [exponent?] using
    @decimal?_places_append whole places [] hwhole hplaces (Or.inl hne) (by simp)

/-- The decimal that is read back: zeros at the end are digits, places keep their power of ten. -/
def readBack
    (digits : Nat) :
    Int → Nat × Int
  | .ofNat zeros => (digits * Nat.pow 10 zeros, 0)
  | .negSucc k => (digits, .negSucc k)

/-- Positional notation is read back as the number that was written. -/
theorem decimal?_positional
    (digits : Nat)
    (exponent : Int) :
    decimal? (positional digits exponent) = some (readBack digits exponent) := by
  have hdigits := fun c (hc : c ∈ decimalDigits digits) => isDigit_of_mem_decimalDigits hc
  have hne := decimalDigits_ne_nil digits
  cases exponent with
  | ofNat zeros =>
      have hall : ∀ c ∈ decimalDigits digits ++ List.replicate zeros '0', c.isDigit = true := by
        intro c hc
        rcases List.mem_append.mp hc with hc | hc
        · exact hdigits c hc
        · rw [List.eq_of_mem_replicate hc]
          decide
      simp only [positional]
      rw [decimal?_whole hall (by simp [hne]), digitsValue_append,
        Nat.ofDigitChars_replicate_zero, digitsValue_decimalDigits]
      simp [readBack, Nat.mul_comm]
  | negSucc k =>
      simp only [positional]
      split
      · rename_i hlt
        rw [decimal?_places (fun c hc => hdigits c (List.mem_of_mem_take hc))
          (fun c hc => hdigits c (List.mem_of_mem_drop hc))
          (fun hnil => by simp [hne] at hnil; omega)]
        rw [List.take_append_drop, digitsValue_decimalDigits, List.length_drop]
        simp only [readBack, Option.some.injEq, Prod.mk.injEq, true_and]
        omega
      · rename_i hge
        have hplaces : ∀ c ∈ List.replicate (k + 1 - (decimalDigits digits).length) '0' ++
            decimalDigits digits, c.isDigit = true := by
          intro c hc
          rcases List.mem_append.mp hc with hc | hc
          · rw [List.eq_of_mem_replicate hc]
            decide
          · exact hdigits c hc
        have hzero : ∀ c ∈ ['0'], c.isDigit = true := by
          intro c hc
          rw [List.mem_singleton.mp hc]
          decide
        have hread := decimal?_places hzero hplaces (by decide)
        rw [List.singleton_append] at hread
        rw [hread, digitsValue_append, Nat.ofDigitChars_append]
        have hnothing : digitsValue ['0'] = 0 := by
          decide
        rw [hnothing, Nat.ofDigitChars_replicate_zero, Nat.mul_zero]
        have hvalue : Nat.ofDigitChars 10 (decimalDigits digits) 0 = digits :=
          Nat.ofDigitChars_ten_toDigits
        rw [hvalue]
        simp only [List.length_append, List.length_replicate, readBack, Option.some.injEq,
          Prod.mk.injEq, true_and]
        omega

/-- Positional notation starts with a digit and goes on with digits and points. -/
theorem positional_shape
    (digits : Nat)
    (exponent : Int) :
    ∃ c rest,
      positional digits exponent = c :: rest ∧
      c.isDigit = true ∧
      ∀ d ∈ rest, d.isDigit = true ∨ d = '.' := by
  have hdigits := fun c (hc : c ∈ decimalDigits digits) => isDigit_of_mem_decimalDigits hc
  obtain ⟨c, rest, hlist⟩ := List.exists_cons_of_ne_nil (decimalDigits_ne_nil digits)
  rw [hlist] at hdigits
  cases exponent with
  | ofNat zeros =>
      refine ⟨c, rest ++ List.replicate zeros '0', by simp [positional, hlist], hdigits c (by simp),
        ?_⟩
      intro d hd
      rcases List.mem_append.mp hd with hd | hd
      · exact Or.inl (hdigits d (by simp [hd]))
      · rw [List.eq_of_mem_replicate hd]
        exact Or.inl (by decide)
  | negSucc k =>
      simp only [positional, hlist]
      split
      · rename_i hlt
        obtain ⟨n, hn⟩ : ∃ n, (c :: rest).length - (k + 1) = n + 1 :=
          Nat.exists_eq_succ_of_ne_zero (by omega)
        rw [hn]
        refine ⟨c, rest.take n ++ '.' :: rest.drop n, by simp, hdigits c (by simp), ?_⟩
        intro d hd
        rcases List.mem_append.mp hd with hd | hd
        · exact Or.inl (hdigits d (by simp [List.mem_of_mem_take hd]))
        · rcases List.mem_cons.mp hd with rfl | hd
          · exact Or.inr rfl
          · exact Or.inl (hdigits d (by simp [List.mem_of_mem_drop hd]))
      · refine ⟨'0', _, rfl, by decide, ?_⟩
        intro d hd
        rcases List.mem_cons.mp hd with rfl | hd
        · exact Or.inr rfl
        · rcases List.mem_append.mp hd with hd | hd
          · rw [List.eq_of_mem_replicate hd]
            exact Or.inl (by decide)
          · exact Or.inl (hdigits d hd)

end Numeral
end MathBlocks
