import Mathlib.Data.List.TakeWhile
import MathBlocks.Text.Blank

/-!
# White space around a text

What is left of a text without the white space at its ends is what the white space stands around.
-/

namespace MathBlocks
namespace Text

/-- Whether a text is another one with white space, or nothing, before it and after it. -/
def Padded (core text : List Char) : Prop :=
  ∃ before after,
    (∀ c ∈ before, isBlank c = true) ∧
    (∀ c ∈ after, isBlank c = true) ∧
    text = before ++ (core ++ after)

/-- What is taken away at the ends is white space. -/
theorem padded_trim
    (text : List Char) :
    Padded (trim text) text := by
  refine ⟨text.takeWhile isBlank,
    ((text.dropWhile isBlank).reverse.takeWhile isBlank).reverse,
    fun c hc => List.mem_takeWhile_imp hc,
    fun c hc => List.mem_takeWhile_imp (List.mem_reverse.mp hc), ?_⟩
  rw [trim, ← List.reverse_append, List.takeWhile_append_dropWhile, List.reverse_reverse,
    List.takeWhile_append_dropWhile]

/-- A text without white space is found wherever white space stands around it. -/
theorem Padded.trim_eq
    {core text : List Char}
    (h : Padded core text)
    (hcore : ∀ c ∈ core, isBlank c = false) :
    trim text = core := by
  obtain ⟨before, after, hbefore, hafter, rfl⟩ := h
  unfold trim
  rw [List.dropWhile_append_of_pos hbefore]
  cases core with
  | nil =>
      simp [List.dropWhile_eq_nil_iff.mpr hafter]
  | cons first rest =>
      have hlast : ∀ c ∈ (first :: rest).reverse, ¬ isBlank c = true := by
        intro c hc
        simp [hcore c (List.mem_reverse.mp hc)]
      have hkept : (first :: rest).reverse.dropWhile isBlank = (first :: rest).reverse := by
        cases hreverse : (first :: rest).reverse with
        | nil =>
            rfl
        | cons last others =>
            rw [hreverse] at hlast
            exact List.dropWhile_cons_of_neg (hlast last (by simp))
      rw [List.cons_append, List.dropWhile_cons_of_neg (by simp [hcore first (by simp)]),
        ← List.cons_append, List.reverse_append,
        List.dropWhile_append_of_pos fun c hc => hafter c (List.mem_reverse.mp hc), hkept,
        List.reverse_reverse]

theorem padded_self
    (text : List Char) :
    Padded text text :=
  ⟨[], [], by simp, by simp, by simp⟩

section Characters

variable {c : Char}

theorem toNat_of_isDigit
    (h : c.isDigit = true) :
    48 ≤ c.toNat ∧ c.toNat ≤ 57 := by
  obtain ⟨hlow, hhigh⟩ := Bool.and_eq_true_iff.mp h
  exact ⟨of_decide_eq_true hlow, of_decide_eq_true hhigh⟩

theorem toNat_of_isAlpha
    (h : c.isAlpha = true) :
    65 ≤ c.toNat ∧ c.toNat ≤ 90 ∨ 97 ≤ c.toNat ∧ c.toNat ≤ 122 := by
  rcases Bool.or_eq_true_iff.mp h with hupper | hlower
  · exact Or.inl (of_decide_eq_true hupper)
  · obtain ⟨hlow, hhigh⟩ := Bool.and_eq_true_iff.mp hlower
    exact Or.inr ⟨of_decide_eq_true hlow, of_decide_eq_true hhigh⟩

/-- No digit is white space. -/
theorem isBlank_of_isDigit
    (h : c.isDigit = true) :
    isBlank c = false := by
  have hrange := toNat_of_isDigit h
  simp [isBlank, inRanges, blankRanges]
  omega

/-- No letter of the basic alphabet is white space. -/
theorem isBlank_of_isAlpha
    (h : c.isAlpha = true) :
    isBlank c = false := by
  have hrange := toNat_of_isAlpha h
  simp [isBlank, inRanges, blankRanges]
  omega

end Characters

end Text
end MathBlocks
