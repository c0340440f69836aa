/-!
# Identifiers

Turns any text into an identifier of the target language: ASCII letters, digits and underscores,
not starting with a digit.
-/

namespace MathBlocks
namespace Identifier

/-- Whether `c` may stand in an identifier. -/
def isPart (c : Char) : Bool :=
  c.isAlphanum || c = '_'

/-- `c`, or an underscore in its place. -/
def part (c : Char) : Char :=
  if isPart c then c else '_'

/--
The characters of the identifier nearest to a text. No text at all becomes `unnamed`, and a digit
in front gets `my_` before it.
-/
def spell (text : List Char) : List Char :=
  match text.map part with
  | [] => ['u', 'n', 'n', 'a', 'm', 'e', 'd']
  | c :: rest => if c.isDigit then 'm' :: 'y' :: '_' :: c :: rest else c :: rest

/-- The identifier nearest to a text. -/
def ofText (text : String) : String :=
  String.ofList (spell text.toList)

/-- Whether a text is an identifier. -/
def IsIdentifier (text : List Char) : Prop :=
  ∃ c rest, text = c :: rest ∧ c.isDigit = false ∧ ∀ d ∈ c :: rest, isPart d = true

/-- What may not stand in an identifier stands in none. -/
theorem IsIdentifier.not_mem
    {text : List Char}
    (h : IsIdentifier text)
    {c : Char}
    (hc : isPart c = false) :
    c ∉ text := by
  obtain ⟨first, rest, rfl, _, hparts⟩ := h
  intro hmem
  rw [hparts c hmem] at hc
  cases hc

/-- What replaces a character may stand in an identifier. -/
theorem isPart_part (c : Char) :
    isPart (part c) = true := by
  unfold part
  split
  · assumption
  · decide

/-- Every text is turned into an identifier. -/
theorem isIdentifier_spell (text : List Char) :
    IsIdentifier (spell text) := by
  have parts : ∀ d ∈ text.map part, isPart d = true := by
    intro d hd
    obtain ⟨c, _, rfl⟩ := List.mem_map.mp hd
    exact isPart_part c
  unfold spell
  split
  · exact ⟨'u', _, rfl, by decide, List.all_eq_true.mp (by decide)⟩
  · rename_i c rest h
    rw [h] at parts
    split
    · refine ⟨'m', _, rfl, by decide, ?_⟩
      intro d hd
      simp only [List.mem_cons] at hd
      rcases hd with rfl | rfl | rfl | hd
      · decide
      · decide
      · decide
      · exact parts d (List.mem_cons.mpr hd)
    · rename_i notDigit
      exact ⟨c, rest, rfl, by simpa using notDigit, parts⟩

end Identifier
end MathBlocks
