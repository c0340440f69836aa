import Mathlib.Data.List.Basic

/-!
# Brackets in a text

A text is read from left to right with the brackets that are open kept on a stack, as the brackets
that close them. `Text.openAfter` fails on a bracket that does not close the innermost open one.
In a text in which all brackets are closed in this way, no beginning closes more brackets of a kind
than it opens, and the whole closes as many.
-/

namespace MathBlocks
namespace Text

/-- The bracket that closes a bracket that opens. -/
def closing? : Char → Option Char
  | '(' => some ')'
  | '\x7b' => some '\x7d'
  | _ => none

/-- Whether `c` is a bracket that closes. -/
def isClosing (c : Char) : Bool :=
  c = ')' || c = '\x7d'

/-- Whether `c` is a bracket. -/
def isBracket (c : Char) : Bool :=
  (closing? c).isSome || isClosing c

/--
The brackets that are still to be closed after a text (innermost first), if these are to be closed
before it; there are none if a bracket of the text closes another one than the innermost.
-/
def openAfter :
    List Char → List Char → Option (List Char)
  | stack, [] => some stack
  | stack, c :: rest =>
      match closing? c with
      | some closing => openAfter (closing :: stack) rest
      | none =>
          if isClosing c then
            match stack with
            | [] => none
            | closing :: stack => if c = closing then openAfter stack rest else none
          else
            openAfter stack rest

theorem eq_of_isBracket
    {c : Char}
    (h : isBracket c = true) :
    c = '(' ∨ c = ')' ∨ c = '\x7b' ∨ c = '\x7d' := by
  unfold isBracket closing? isClosing at h
  split at h
  · exact Or.inl rfl
  · exact Or.inr (Or.inr (Or.inl rfl))
  · simp at h
    rcases h with rfl | rfl
    · exact Or.inr (Or.inl rfl)
    · exact Or.inr (Or.inr (Or.inr rfl))

theorem closing?_eq_some
    {opening closing : Char}
    (h : closing? opening = some closing) :
    closing? closing = none ∧ isClosing closing = true := by
  unfold closing? at h
  split at h <;> cases h <;> decide

theorem closing?_injective
    {first second closing : Char}
    (hfirst : closing? first = some closing)
    (hsecond : closing? second = some closing) :
    first = second := by
  unfold closing? at hfirst
  split at hfirst <;> cases hfirst <;> unfold closing? at hsecond <;> split at hsecond <;>
    first | rfl | cases hsecond

/-- Whether all brackets of a text are opened and closed in it, the inner ones first. -/
def Balanced (text : List Char) : Prop :=
  openAfter [] text = some []

instance (text : List Char) : Decidable (Balanced text) :=
  inferInstanceAs (Decidable (openAfter [] text = some []))

theorem openAfter_append
    (stack first rest : List Char) :
    openAfter stack (first ++ rest) =
      (openAfter stack first).bind fun left => openAfter left rest := by
  induction first generalizing stack with
  | nil =>
      rfl
  | cons c first ih =>
      simp only [List.cons_append, openAfter]
      cases closing? c with
      | some closing =>
          exact ih (closing :: stack)
      | none =>
          cases isClosing c with
          | false =>
              exact ih stack
          | true =>
              cases stack with
              | nil =>
                  rfl
              | cons closing stack =>
                  by_cases h : c = closing
                  · simpa [h] using ih stack
                  · simp [h]

/-- Brackets that are open already are no matter for those of a text. -/
theorem openAfter_below
    {stack text left : List Char}
    (h : openAfter stack text = some left)
    (below : List Char) :
    openAfter (stack ++ below) text = some (left ++ below) := by
  induction text generalizing stack with
  | nil =>
      obtain rfl : stack = left := Option.some.inj h
      rfl
  | cons c rest ih =>
      simp only [openAfter] at h ⊢
      cases hclosing : closing? c with
      | some closing =>
          rw [hclosing] at h
          exact ih h
      | none =>
          rw [hclosing] at h
          cases hcloses : isClosing c with
          | false =>
              simp only [hcloses] at h
              exact ih h
          | true =>
              cases stack with
              | nil =>
                  simp [hcloses] at h
              | cons closing stack =>
                  by_cases hc : c = closing
                  · simp only [hcloses, if_true, if_pos hc] at h
                    simp only [if_true, List.cons_append, if_pos hc]
                    exact ih h
                  · simp [hcloses, hc] at h

theorem Balanced.openAfter_eq
    {text : List Char}
    (h : Balanced text)
    (stack : List Char) :
    openAfter stack text = some stack :=
  openAfter_below h stack

theorem balanced_nil :
    Balanced [] :=
  rfl

theorem Balanced.append
    {first rest : List Char}
    (hfirst : Balanced first)
    (hrest : Balanced rest) :
    Balanced (first ++ rest) := by
  unfold Balanced
  rw [openAfter_append, hfirst.openAfter_eq]
  exact hrest

/-- Brackets of a kind around a text. -/
theorem Balanced.enclose
    {text : List Char}
    (h : Balanced text)
    {opening closing : Char}
    (hpair : closing? opening = some closing) :
    Balanced (opening :: text ++ [closing]) := by
  obtain ⟨hopens, hcloses⟩ := closing?_eq_some hpair
  have hinner : openAfter [closing] (text ++ [closing]) = some [] := by
    rw [openAfter_append, h.openAfter_eq]
    simp [openAfter, hopens, hcloses]
  show openAfter [] (opening :: (text ++ [closing])) = some []
  rw [openAfter, hpair]
  exact hinner

/-- Only the brackets of a text matter. -/
theorem openAfter_filter
    (stack text : List Char) :
    openAfter stack (text.filter isBracket) = openAfter stack text := by
  induction text generalizing stack with
  | nil =>
      rfl
  | cons c rest ih =>
      cases hc : isBracket c with
      | false =>
          have hnone : closing? c = none ∧ isClosing c = false := by
            simpa [isBracket] using hc
          rw [List.filter_cons_of_neg (by simp [hc]), ih]
          simp [openAfter, hnone.1, hnone.2]
      | true =>
          rw [List.filter_cons_of_pos hc]
          simp only [openAfter]
          cases closing? c with
          | some closing =>
              exact ih (closing :: stack)
          | none =>
              cases isClosing c with
              | false =>
                  exact ih stack
              | true =>
                  cases stack with
                  | nil =>
                      rfl
                  | cons closing stack =>
                      simp only [if_true, ih stack]

theorem balanced_filter
    {text : List Char} :
    Balanced (text.filter isBracket) ↔ Balanced text := by
  unfold Balanced
  rw [openAfter_filter]

/-- A text without brackets in front of another one is no matter. -/
theorem balanced_append_of_filter
    {first rest : List Char}
    (hfirst : first.filter isBracket = []) :
    Balanced (first ++ rest) ↔ Balanced rest := by
  rw [← balanced_filter, List.filter_append, hfirst, List.nil_append, balanced_filter]

/-- Every bracket that is read opens a bracket of its kind or closes one. -/
theorem count_openAfter
    {opening closing : Char}
    (hpair : closing? opening = some closing)
    {stack text left : List Char}
    (h : openAfter stack text = some left) :
    left.count closing + text.count closing = stack.count closing + text.count opening := by
  obtain ⟨hopens, hcloses⟩ := closing?_eq_some hpair
  induction text generalizing stack with
  | nil =>
      obtain rfl : stack = left := Option.some.inj h
      rfl
  | cons c rest ih =>
      simp only [openAfter] at h
      simp only [List.count_cons, beq_iff_eq]
      cases hcloser : closing? c with
      | some closer =>
          rw [hcloser] at h
          have hrest := ih h
          have hkind : c = opening ↔ closer = closing := by
            constructor
            · rintro rfl
              exact Option.some.inj (hcloser.symm.trans hpair)
            · rintro rfl
              exact closing?_injective hcloser hpair
          have hother : c ≠ closing := by
            rintro rfl
            simp [hopens] at hcloser
          simp only [List.count_cons, beq_iff_eq] at hrest
          simp only [hkind, if_neg hother]
          omega
      | none =>
          rw [hcloser] at h
          have hother : c ≠ opening := by
            rintro rfl
            simp [hpair] at hcloser
          simp only [if_neg hother]
          cases hcloses' : isClosing c with
          | false =>
              simp only [hcloses'] at h
              have hplain : c ≠ closing := by
                rintro rfl
                simp [hcloses] at hcloses'
              have hrest := ih h
              simp only [if_neg hplain]
              omega
          | true =>
              cases stack with
              | nil =>
                  simp [hcloses'] at h
              | cons innermost stack =>
                  by_cases hc : c = innermost
                  · simp only [hcloses', if_true, if_pos hc] at h
                    have hrest := ih h
                    simp only [List.count_cons, beq_iff_eq, hc]
                    omega
                  · simp [hcloses', hc] at h

/-- No beginning of a balanced text closes more brackets of a kind than it opens. -/
theorem Balanced.count_le
    {opening closing : Char}
    (hpair : closing? opening = some closing)
    {before after : List Char}
    (h : Balanced (before ++ after)) :
    before.count closing ≤ before.count opening := by
  unfold Balanced at h
  rw [openAfter_append] at h
  obtain ⟨left, hleft, _⟩ := Option.bind_eq_some_iff.mp h
  have hcount := count_openAfter hpair hleft
  simp only [List.count_nil] at hcount
  omega

theorem Balanced.count_eq
    {opening closing : Char}
    (hpair : closing? opening = some closing)
    {text : List Char}
    (h : Balanced text) :
    text.count closing = text.count opening := by
  have hcount := count_openAfter hpair h
  simpa using hcount

/-- Whether all brackets of a kind that a text opens are closed in it, and no others. -/
def Matched
    (opening closing : Char)
    (text : List Char) : Prop :=
  text.count closing = text.count opening ∧
  ∀ before, before <+: text → before.count closing ≤ before.count opening

theorem Balanced.matched
    {opening closing : Char}
    (hpair : closing? opening = some closing)
    {text : List Char}
    (h : Balanced text) :
    Matched opening closing text := by
  refine ⟨h.count_eq hpair, ?_⟩
  rintro before ⟨after, rfl⟩
  exact h.count_le hpair

end Text
end MathBlocks
