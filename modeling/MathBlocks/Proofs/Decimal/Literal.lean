import MathBlocks.Proofs.Decimal.Exact
import MathBlocks.Proofs.Text.Padding

/-!
# Literals

The grammar of the texts that denote a number: a sign or none, and then either digits with at most
one point among them and an exponent or none, or a word for infinity in any letter case. Exactly
these texts are read as a number or as infinity. The digits of an exponent are read only until it
has reached `Numeral.exponentBound`, so a longer exponent is read as a smaller one; that makes a
difference to the number only for mantissas of tens of thousands of digits.
-/

namespace MathBlocks

/-- The sign before a number, if there is one. -/
inductive Sign where
  | absent
  | plus
  | minus
  deriving DecidableEq

namespace Sign

/-- The text of a sign. -/
def written : Sign → List Char
  | .absent => []
  | .plus => ['+']
  | .minus => ['-']

/-- Whether the sign is a minus. -/
def isMinus : Sign → Bool
  | .minus => true
  | _ => false

/-- What a number is multiplied with for its sign. -/
def factor : Sign → Int
  | .minus => -1
  | _ => 1

theorem factor_eq
    (sign : Sign) :
    sign.factor = if sign.isMinus = true then -1 else 1 := by
  cases sign <;> rfl

end Sign

/-- The exponent of a literal: a letter, a sign or none, and digits. -/
structure ExponentPart where
  letter : Char
  sign : Sign
  digits : List Char
  isLetter : letter = 'e' ∨ letter = 'E'
  digitsOnly : ∀ c ∈ digits, c.isDigit = true
  digitsSome : digits ≠ []

/-- The text of an exponent. -/
def ExponentPart.written (part : ExponentPart) : List Char :=
  part.letter :: (part.sign.written ++ part.digits)

/-- A decimal literal: digits with at most one point among them, signed and scaled or not. -/
structure DecimalLiteral where
  sign : Sign
  whole : List Char
  places? : Option (List Char)
  exponent? : Option ExponentPart
  wholeDigits : ∀ c ∈ whole, c.isDigit = true
  placesDigits : ∀ places ∈ places?, ∀ c ∈ places, c.isDigit = true
  digitsSome : whole ≠ [] ∨ places?.getD [] ≠ []

namespace DecimalLiteral

/-- The point and the digits after it, if there is a point. -/
def point (literal : DecimalLiteral) : List Char :=
  match literal.places? with
  | none => []
  | some places => '.' :: places

/-- The text of the literal after its sign. -/
def unsigned (literal : DecimalLiteral) : List Char :=
  literal.whole ++ (literal.point ++ (literal.exponent?.map ExponentPart.written).getD [])

/-- The text of the literal. -/
def written (literal : DecimalLiteral) : List Char :=
  literal.sign.written ++ literal.unsigned

/-- A literal without its sign starts with a digit or a point. -/
theorem head?_unsigned
    (literal : DecimalLiteral) :
    ∀ c ∈ literal.unsigned.head?, c.isDigit = true ∨ c = '.' := by
  have hsome := literal.digitsSome
  have hdigits := literal.wholeDigits
  unfold unsigned point
  cases hwhole : literal.whole with
  | cons first rest =>
      rintro c ⟨rfl⟩
      exact Or.inl (hdigits first (by simp [hwhole]))
  | nil =>
      cases hplaces : literal.places? with
      | none =>
          simp [hwhole, hplaces] at hsome
      | some places =>
          rintro c ⟨rfl⟩
          exact Or.inr rfl

/-- The digits before the exponent. -/
def mantissa (literal : DecimalLiteral) : List Char :=
  literal.whole ++ literal.places?.getD []

/-- The power of ten that the mantissa is multiplied with, by what the digits of an exponent say. -/
def exponentBy
    (size : List Char → Nat)
    (literal : DecimalLiteral) : Int :=
  match literal.exponent? with
  | none => 0
  | some part => part.sign.factor * size part.digits

/-- The power of ten that the mantissa without its point is multiplied with. -/
def scaleBy
    (size : List Char → Nat)
    (literal : DecimalLiteral) : Int :=
  literal.exponentBy size - (literal.places?.getD []).length

/-- The number without its sign, by what the digits of an exponent say. -/
def magnitudeBy
    (size : List Char → Nat)
    (literal : DecimalLiteral) : ℚ :=
  decimalValue (Numeral.digitsValue literal.mantissa) (literal.scaleBy size)

/-- The units of the number that a literal is read as, without its sign. -/
def units (literal : DecimalLiteral) : Nat :=
  Binary64.ofDecimal (Numeral.digitsValue literal.mantissa)
    (literal.scaleBy Numeral.exponentValue)

/-- The exact value of the literal. -/
def value (literal : DecimalLiteral) : ℚ :=
  literal.sign.factor * literal.magnitudeBy Numeral.digitsValue

/-- The value of the literal with no more of its exponent than is read. -/
def readValue (literal : DecimalLiteral) : ℚ :=
  literal.sign.factor * literal.magnitudeBy Numeral.exponentValue

end DecimalLiteral

/-- A word for infinity, in any letter case, signed or not. -/
structure InfinityLiteral where
  sign : Sign
  word : List Char
  isWord : word.map Char.toLower = "inf".toList ∨ word.map Char.toLower = "infinity".toList

/-- A letter is no digit. -/
theorem not_isDigit_of_isAlpha
    {c : Char}
    (h : c.isAlpha = true) :
    c.isDigit = false := by
  have hletter := Text.toNat_of_isAlpha h
  refine Bool.eq_false_iff.mpr fun hdigit => ?_
  have hrange := Text.toNat_of_isDigit hdigit
  omega

/-- What becomes a letter in lower case is one. -/
theorem isAlpha_of_toLower
    {c : Char}
    (h : c.toLower.isAlpha = true) :
    c.isAlpha = true := by
  by_cases hupper : c.isUpper = true
  · exact Bool.or_eq_true_iff.mpr (Or.inl hupper)
  · have hsame : c.toLower = c := by
      unfold Char.toLower
      exact dif_neg fun hrange => hupper (decide_eq_true hrange)
    rwa [hsame] at h

/-- The words are made of letters. -/
theorem InfinityLiteral.letters
    (literal : InfinityLiteral) :
    ∀ c ∈ literal.word, c.isAlpha = true := by
  intro c hc
  have hlower := List.mem_map_of_mem (f := Char.toLower) hc
  apply isAlpha_of_toLower
  rcases literal.isWord with hword | hword
  · rw [hword] at hlower
    exact (by simp : ∀ d ∈ "inf".toList, d.isAlpha = true) _ hlower
  · rw [hword] at hlower
    exact (by simp : ∀ d ∈ "infinity".toList, d.isAlpha = true) _ hlower

theorem InfinityLiteral.word_ne_nil
    (literal : InfinityLiteral) :
    literal.word ≠ [] := by
  intro hnil
  have hword := literal.isWord
  rw [hnil] at hword
  exact absurd hword (by decide)

/-- The text of a word for infinity with its sign. -/
def InfinityLiteral.written (literal : InfinityLiteral) : List Char :=
  literal.sign.written ++ literal.word

namespace Numeral

/-- A sign is split off, unless what follows starts with another one. -/
theorem splitSign_written
    (sign : Sign)
    (rest : List Char)
    (hplus : rest.head? ≠ some '+')
    (hminus : rest.head? ≠ some '-') :
    splitSign (sign.written ++ rest) = (sign.isMinus, rest) := by
  cases sign with
  | absent =>
      cases rest with
      | nil =>
          rfl
      | cons c rest =>
          simp only [List.head?_cons, ne_eq, Option.some.injEq] at hplus hminus
          simp only [Sign.written, List.nil_append, Sign.isMinus]
          unfold splitSign
          split
          · rename_i heq
            exact absurd (List.cons.inj heq).1 hminus
          · rename_i heq
            exact absurd (List.cons.inj heq).1 hplus
          · rfl
  | plus =>
      rfl
  | minus =>
      rfl

/-- What is split off is the sign that the text starts with. -/
theorem exists_sign
    (text : List Char) :
    ∃ (sign : Sign) (rest : List Char),
      splitSign text = (sign.isMinus, rest) ∧
      text = sign.written ++ rest := by
  unfold splitSign
  split
  · exact ⟨.minus, _, rfl, rfl⟩
  · exact ⟨.plus, _, rfl, rfl⟩
  · exact ⟨.absent, _, rfl, rfl⟩

/-- Digits start with no sign. -/
theorem head?_ne_of_digits
    {digits : List Char}
    (hdigits : ∀ c ∈ digits, c.isDigit = true)
    {sign : Char}
    (hsign : sign.isDigit = false) :
    digits.head? ≠ some sign := by
  intro h
  have hdigit := hdigits sign (List.mem_of_mem_head? h)
  rw [hsign] at hdigit
  cases hdigit

theorem exponent?_written
    (part : ExponentPart) :
    exponent? part.written = some (part.sign.factor * exponentValue part.digits) := by
  have hsplit := splitSign_written part.sign part.digits
    (head?_ne_of_digits part.digitsOnly (by decide))
    (head?_ne_of_digits part.digitsOnly (by decide))
  have hall : part.digits.all Char.isDigit = true :=
    List.all_eq_true.mpr part.digitsOnly
  unfold ExponentPart.written exponent?
  simp only [hsplit]
  rw [if_pos (by simp [part.isLetter, part.digitsSome, hall])]
  rw [Sign.factor_eq]
  split <;> simp

/-- What is read as an exponent is one, or it is nothing at all. -/
theorem exists_exponent
    {text : List Char}
    (h : exponent? text ≠ none) :
    ∃ part? : Option ExponentPart, (part?.map ExponentPart.written).getD [] = text := by
  cases text with
  | nil =>
      exact ⟨none, rfl⟩
  | cons letter rest =>
      obtain ⟨sign, digits, hsplit, rfl⟩ := exists_sign rest
      unfold exponent? at h
      simp only [hsplit] at h
      split at h
      · rename_i hread
        simp only [Bool.and_eq_true, Bool.or_eq_true, decide_eq_true_eq, Bool.not_eq_eq_eq_not,
          Bool.not_true, List.isEmpty_eq_false_iff, List.all_eq_true] at hread
        obtain ⟨⟨hletter, hsome⟩, hdigits⟩ := hread
        exact ⟨some ⟨letter, sign, digits, hletter, hdigits, hsome⟩, rfl⟩
      · exact absurd rfl h

variable (literal : DecimalLiteral)

/-- After the point and its digits no further digit follows. -/
theorem head?_exponent
    (part? : Option ExponentPart) :
    ∀ c ∈ ((part?.map ExponentPart.written).getD []).head?, c.isDigit = false ∧ c ≠ '.' := by
  intro c hc
  cases part? with
  | none =>
      cases hc
  | some part =>
      obtain rfl : part.letter = c := Option.some.inj hc
      rcases part.isLetter with hletter | hletter <;> rw [hletter] <;> decide

/-- A literal without its sign is read with no more of its exponent than counts. -/
theorem decimal?_unsigned :
    decimal? literal.unsigned =
      some (digitsValue literal.mantissa, literal.scaleBy exponentValue) := by
  have hexponent : exponent? ((literal.exponent?.map ExponentPart.written).getD []) =
      some (literal.exponentBy exponentValue) := by
    unfold DecimalLiteral.exponentBy
    cases literal.exponent? with
    | none =>
        rfl
    | some part =>
        exact exponent?_written part
  have hrest := head?_exponent literal.exponent?
  have hsome := literal.digitsSome
  have hdigits := literal.placesDigits
  unfold DecimalLiteral.unsigned DecimalLiteral.mantissa DecimalLiteral.point
    DecimalLiteral.scaleBy
  cases hplaces : literal.places? with
  | none =>
      have hwhole : literal.whole ≠ [] := by
        simpa [hplaces] using hsome
      rw [List.nil_append, decimal?_whole_append literal.wholeDigits hwhole hrest, hexponent]
      simp
  | some places =>
      rw [hplaces] at hsome
      rw [List.cons_append, decimal?_places_append literal.wholeDigits (hdigits places hplaces)
        hsome fun c hc => (hrest c hc).1, hexponent]
      simp

/-- What is read as a number without a sign is a literal, with any sign before it. -/
theorem exists_unsigned
    {text : List Char}
    (h : decimal? text ≠ none)
    (sign : Sign) :
    ∃ literal : DecimalLiteral, literal.sign = sign ∧ literal.unsigned = text := by
  have hdigits (digits : List Char) : ∀ c ∈ digits.takeWhile Char.isDigit, c.isDigit = true :=
    fun c hc => List.mem_takeWhile_imp hc
  have hsplit (digits : List Char) :
      digits.takeWhile Char.isDigit ++ digits.dropWhile Char.isDigit = digits :=
    List.takeWhile_append_dropWhile
  have hwhole := hsplit text
  unfold decimal? at h
  simp only at h
  generalize htake : text.takeWhile Char.isDigit = whole at *
  have hwholeDigits : ∀ c ∈ whole, c.isDigit = true := by
    rw [← htake]
    exact hdigits text
  split at h
  · rename_i tail hpoint
    split at h
    · exact absurd rfl h
    · rename_i hsome
      obtain ⟨part?, hpart⟩ := exists_exponent (fun hnone => h (by rw [hnone]; rfl))
      refine ⟨⟨sign, whole, some (tail.takeWhile Char.isDigit), part?, hwholeDigits, ?_, ?_⟩,
        rfl, ?_⟩
      · rintro places ⟨rfl⟩
        exact hdigits tail
      · simpa [Classical.or_iff_not_imp_left] using hsome
      · rw [hpoint] at hwhole
        simp [DecimalLiteral.unsigned, DecimalLiteral.point, hpart, hsplit, hwhole]
  · split at h
    · exact absurd rfl h
    · rename_i hsome
      obtain ⟨part?, hpart⟩ := exists_exponent (fun hnone => h (by rw [hnone]; rfl))
      refine ⟨⟨sign, whole, none, part?, hwholeDigits, by simp, ?_⟩, rfl, ?_⟩
      · simpa using hsome
      · simp [DecimalLiteral.unsigned, DecimalLiteral.point, hpart, hwhole]

/-- A literal is read with no more of its exponent than counts. -/
theorem ofChars?_written :
    ofChars? literal.written =
      some (.finite literal.sign.isMinus (digitsValue literal.mantissa)
        (literal.scaleBy exponentValue)) := by
  have hhead := literal.head?_unsigned
  have hsplit := splitSign_written literal.sign literal.unsigned
    (fun h => absurd (hhead '+' h) (by decide)) (fun h => absurd (hhead '-' h) (by decide))
  unfold ofChars? DecimalLiteral.written
  simp [hsplit, decimal?_unsigned]

/-- A word for infinity is read as such. -/
theorem ofChars?_infinity
    (literal : InfinityLiteral) :
    ofChars? literal.written = some (.infinite literal.sign.isMinus) := by
  have hletters := literal.letters
  obtain ⟨c, rest, hword⟩ := List.exists_cons_of_ne_nil literal.word_ne_nil
  have hc : c.isAlpha = true := hletters c (by simp [hword])
  have hdigit := not_isDigit_of_isAlpha hc
  have hne (other : Char) (hother : other.isAlpha = false) : c ≠ other := by
    rintro rfl
    rw [hother] at hc
    cases hc
  have hsplit := splitSign_written literal.sign literal.word
    (by simpa [hword] using hne '+' (by decide)) (by simpa [hword] using hne '-' (by decide))
  have hpoint := hne '.' (by decide)
  have hdecimal : decimal? literal.word = none := by
    unfold decimal?
    simp [hword, hdigit, hpoint]
  have hread : word? literal.sign.isMinus literal.word = some (.infinite literal.sign.isMinus) := by
    unfold word?
    simp only
    rw [if_pos (by simpa using literal.isWord)]
  unfold ofChars? InfinityLiteral.written
  simp [hsplit, hdecimal, hread]

/-- What is read as a number is a literal. -/
theorem exists_literal
    {text : List Char}
    {negative : Bool}
    {digits : Nat}
    {exponent : Int}
    (h : ofChars? text = some (.finite negative digits exponent)) :
    ∃ literal : DecimalLiteral, literal.written = text := by
  obtain ⟨sign, rest, hsplit, rfl⟩ := exists_sign text
  unfold ofChars? at h
  simp only [hsplit] at h
  split at h
  · rename_i hread
    obtain ⟨literal, rfl, rfl⟩ := exists_unsigned (by rw [hread]; exact Option.some_ne_none _) sign
    exact ⟨literal, rfl⟩
  · unfold word? at h
    simp only at h
    split at h
    · cases h
    · split at h <;> cases h

/-- What is read as infinity is a word for it. -/
theorem exists_infinity
    {text : List Char}
    {negative : Bool}
    (h : ofChars? text = some (.infinite negative)) :
    ∃ literal : InfinityLiteral, literal.written = text := by
  obtain ⟨sign, rest, hsplit, rfl⟩ := exists_sign text
  unfold ofChars? at h
  simp only [hsplit] at h
  split at h
  · cases h
  · unfold word? at h
    simp only at h
    split at h
    · rename_i hword
      exact ⟨⟨sign, rest, by simpa using hword⟩, rfl⟩
    · split at h <;> cases h

end Numeral
end MathBlocks
