import MathBlocks.Names.Identifier
import MathBlocks.Text.Lines
import MathBlocks.Text.Substitution

/-!
# Texts over a class of characters

A text is over a class of characters if all that is in it is in the class. Putting texts together,
repeating them and replacing words by others never leaves a class. The class that matters most is
that of the printable characters of the ASCII table.
-/

namespace MathBlocks
namespace Text

/-- Whether `c` is a printable character of the ASCII table, the space included. -/
def isPrintable (c : Char) : Bool :=
  decide (0x20 ≤ c.toNat) && decide (c.toNat ≤ 0x7e)

/-- Whether all characters of a text are in a class. -/
def Over
    (fit : Char → Prop)
    (text : String) : Prop :=
  ∀ c ∈ text.toList, fit c

variable {fit : Char → Prop}

@[simp] theorem over_append
    (first second : String) :
    Over fit (first ++ second) ↔ Over fit first ∧ Over fit second := by
  simp only [Over, String.toList_append, List.mem_append]
  exact ⟨fun h => ⟨fun c hc => h c (Or.inl hc), fun c hc => h c (Or.inr hc)⟩,
    fun h c hc => hc.elim (h.1 c) (h.2 c)⟩

/-- Whether a text is made of printable characters of the ASCII table. -/
def Printable (text : String) : Prop :=
  Over (fun c => isPrintable c = true) text

instance (text : String) : Decidable (Printable text) :=
  decidable_of_iff (text.toList.all isPrintable = true) List.all_eq_true

/-- A printable text is one over every class that has the printable characters. -/
theorem over_of_printable
    (hfit : ∀ c, isPrintable c = true → fit c)
    {text : String}
    (htext : Printable text) :
    Over fit text :=
  fun c hc => hfit c (htext c hc)

/-- A text that is given by its characters is looked at without being decoded. -/
theorem printable_ofList
    {chars : List Char}
    (h : chars.all isPrintable = true) :
    Printable (String.ofList chars) := by
  intro c hc
  rw [String.toList_ofList] at hc
  exact List.all_eq_true.mp h c hc

theorem Printable.append
    {first second : String}
    (hfirst : Printable first)
    (hsecond : Printable second) :
    Printable (first ++ second) :=
  (over_append first second).mpr ⟨hfirst, hsecond⟩

/-- Whether a line is printable behind any number of spaces and tabs. -/
def PrintableBehindMargin (line : String) : Prop :=
  ∃ margin body,
    line = margin ++ body ∧
    Over (fun c => c = ' ' ∨ c = '\t') margin ∧
    Printable body

theorem over_repeated
    {text : String}
    (h : Over fit text)
    (count : Nat) :
    Over fit (repeated count text) := by
  induction count with
  | zero =>
      exact fun _ hc => nomatch hc
  | succ count ih =>
      rw [repeated_succ, over_append]
      exact ⟨h, ih⟩

theorem over_replaceFrom
    {word new : List Char}
    (hnew : ∀ c ∈ new, fit c)
    {text : List Char}
    (htext : ∀ c ∈ text, fit c)
    (passed : Nat) :
    ∀ c ∈ replaceFrom word new passed text, fit c := by
  induction text generalizing passed with
  | nil =>
      exact fun _ hc => nomatch hc
  | cons d rest ih =>
      have hrest := ih fun c hc => htext c (List.mem_cons_of_mem _ hc)
      cases passed with
      | succ passed =>
          exact hrest passed
      | zero =>
          intro c hc
          unfold replaceFrom at hc
          split at hc
          · rcases List.mem_append.mp hc with hc | hc
            · exact hnew c hc
            · exact hrest _ c hc
          · rcases List.mem_cons.mp hc with rfl | hc
            · exact htext c List.mem_cons_self
            · exact hrest _ c hc

/-- What is put in and what it is put into are over the same class. -/
theorem over_replaceWord
    (word : String)
    {new text : String}
    (hnew : Over fit new)
    (htext : Over fit text) :
    Over fit (replaceWord word new text) := by
  unfold Over replaceWord
  rw [String.toList_ofList]
  exact over_replaceFrom hnew htext 0

theorem Printable.not_lineFeed
    {text : String}
    (h : Printable text) :
    '\n' ∉ text.toList :=
  fun hmem => absurd (h _ hmem) (by decide)

theorem PrintableBehindMargin.not_lineFeed
    {line : String}
    (h : PrintableBehindMargin line) :
    '\n' ∉ line.toList := by
  obtain ⟨margin, body, rfl, hmargin, hbody⟩ := h
  rw [String.toList_append, List.mem_append, not_or]
  exact ⟨fun hmem => absurd (hmargin _ hmem) (by decide), hbody.not_lineFeed⟩

end Text

namespace Identifier

theorem isPrintable_of_isPart
    {c : Char}
    (hc : isPart c = true) :
    Text.isPrintable c = true := by
  change (((decide ('A'.val ≤ c.val ∧ c.val ≤ 'Z'.val) ||
    (decide ('a'.val ≤ c.val) && decide (c.val ≤ 'z'.val))) ||
    (decide ('0'.val ≤ c.val) && decide (c.val ≤ '9'.val))) || decide (c = '_')) = true at hc
  simp only [Bool.or_eq_true, Bool.and_eq_true, decide_eq_true_eq, UInt32.le_iff_toNat_le] at hc
  change (((65 ≤ c.toNat ∧ c.toNat ≤ 90) ∨ (97 ≤ c.toNat ∧ c.toNat ≤ 122)) ∨
    (48 ≤ c.toNat ∧ c.toNat ≤ 57)) ∨ c = '_' at hc
  simp only [Text.isPrintable, Bool.and_eq_true, decide_eq_true_eq]
  rcases hc with ((hupper | hlower) | hdigit) | rfl
  · omega
  · omega
  · omega
  · decide

theorem IsIdentifier.printable
    {text : String}
    (h : IsIdentifier text.toList) :
    Text.Printable text := by
  obtain ⟨first, rest, hlist, _, hparts⟩ := h
  intro c hc
  rw [hlist] at hc
  exact isPrintable_of_isPart (hparts c hc)

end Identifier
end MathBlocks
