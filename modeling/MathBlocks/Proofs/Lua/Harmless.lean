import MathBlocks.Proofs.Lua.Surface
import MathBlocks.Proofs.Text.Printable

/-!
# Lines that stay what they are

A line is harmless if it is printable, begins no comment and closes all brackets that it opens. A
complete expression is harmless behind anything that has neither brackets nor minus signs, as long
as all of it is printable.
-/

namespace MathBlocks

open Lua

namespace Text

/-- Whether a text stays within its line and its expression, wherever it is put. -/
structure Harmless (line : String) : Prop where
  printable : Printable line
  not_comment : ¬ commentOpener <:+: line.toList
  balanced : Balanced line.toList

/-- Whether a text has neither brackets nor minus signs. -/
def Inert (text : String) : Prop :=
  ∀ c ∈ text.toList, c ≠ '-' ∧ isBracket c = false

instance (text : String) : Decidable (Inert text) :=
  decidable_of_iff ((text.toList.all fun c => c != '-' && !isBracket c) = true)
    (by simp [Inert])

theorem inert_append
    (first second : String) :
    Inert (first ++ second) ↔ Inert first ∧ Inert second :=
  over_append first second

/-- What begins a comment behind such a text begins it without the text. -/
theorem Inert.not_comment
    {front : String}
    (hfront : Inert front)
    {code : String}
    (hcode : ¬ commentOpener <:+: code.toList) :
    ¬ commentOpener <:+: (front ++ code).toList := by
  rw [String.toList_append]
  have hinert : ∀ c ∈ front.toList, c ≠ '-' := fun c hc => (hfront c hc).1
  generalize front.toList = chars at hinert
  induction chars with
  | nil =>
      exact hcode
  | cons c rest ih =>
      rw [List.cons_append, List.infix_cons_iff, not_or]
      refine ⟨?_, ih fun d hd => hinert d (List.mem_cons_of_mem _ hd)⟩
      rintro ⟨behind, hopener⟩
      exact hinert c List.mem_cons_self (List.cons.inj hopener).1.symm

theorem Inert.balanced
    {front : String}
    (hfront : Inert front)
    {code : String}
    (hcode : Balanced code.toList) :
    Balanced (front ++ code).toList := by
  rw [String.toList_append, balanced_append_of_filter]
  · exact hcode
  · rw [List.filter_eq_nil_iff]
    intro c hc
    simp [(hfront c hc).2]

/-- A complete expression behind such a text. -/
theorem Inert.harmless
    {front : String}
    (hfront : Inert front)
    {code : String}
    {tree : Expr}
    (hcode : Parses code tree)
    (hprintable : Printable (front ++ code)) :
    Harmless (front ++ code) :=
  ⟨hprintable, hfront.not_comment hcode.not_commentOpener, hfront.balanced hcode.balanced⟩

end Text

theorem Identifier.IsIdentifier.inert
    {text : String}
    (h : Identifier.IsIdentifier text.toList) :
    Text.Inert text := by
  obtain ⟨first, rest, hlist, _, hparts⟩ := h
  intro c hc
  rw [hlist] at hc
  have hpart := hparts c hc
  refine ⟨?_, isBracket_of_isPart hpart⟩
  rintro rfl
  exact absurd hpart (by decide)

end MathBlocks
