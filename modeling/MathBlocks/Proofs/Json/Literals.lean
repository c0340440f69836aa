import Mathlib.Data.List.Basic
import MathBlocks.Json.Token

/-!
# The ways to write strings and numbers

Each character of a string literal may be written as itself or as an escape, of which there are
several, and a number may have a fraction and a power of ten. What stands between the quotes is a
list of parts, and the parts name a text, or none where half of a surrogate pair stands alone. A
scan reads all of these ways.
-/

namespace MathBlocks
namespace Json

/-- The letters behind a backslash, with the characters that they stand for. -/
def shortEscapes : List (Char × Char) :=
  [('\x22', '\x22'), ('\\', '\\'), ('/', '/'), ('b', '\x08'), ('f', '\x0c'), ('n', '\n'),
   ('r', '\r'), ('t', '\t')]

/-- Whether characters are the four hexadecimal digits of a number, in either letter case. -/
def IsHex
    (value : Nat)
    (digits : List Char) : Prop :=
  digits.length = 4 ∧
  ∃ values,
    digits.mapM hexValue? = some values ∧
    values.foldl (fun value digit => 16 * value + digit) 0 = value

/-- The ways to write a part of a string literal. -/
inductive PieceSpelling : Piece → List Char → Prop
  | plain
      {c : Char}
      (hquote : c ≠ '\x22')
      (hbackslash : c ≠ '\\')
      (hcontrol : 0x20 ≤ c.toNat) :
      PieceSpelling (.char c) [c]
  | short
      {letter c : Char}
      (hletter : (letter, c) ∈ shortEscapes) :
      PieceSpelling (.char c) ['\\', letter]
  | unicode
      {value : Nat}
      {digits : List Char}
      (hdigits : IsHex value digits) :
      PieceSpelling (.unit value) ('\\' :: 'u' :: digits)

/-- What may stand between the quotes of a string literal: its parts, one after the other. -/
inductive BodySpelling : List Piece → List Char → Prop
  | nil :
      BodySpelling [] []
  | cons
      {piece : Piece}
      {pieces : List Piece}
      {written rest : List Char}
      (hpiece : PieceSpelling piece written)
      (hrest : BodySpelling pieces rest) :
      BodySpelling (piece :: pieces) (written ++ rest)

/--
The parts that name a text, character by character. An escape names a character by its number, and
two of them name one that four digits are not enough for, as the halves of a surrogate pair.
-/
inductive PiecesName : List Piece → List Char → Prop
  | nil :
      PiecesName [] []
  | char
      {pieces : List Piece}
      {text : List Char}
      (c : Char)
      (hrest : PiecesName pieces text) :
      PiecesName (.char c :: pieces) (c :: text)
  | unit
      {pieces : List Piece}
      {text : List Char}
      (c : Char)
      (hrest : PiecesName pieces text) :
      PiecesName (.unit c.toNat :: pieces) (c :: text)
  | pair
      {pieces : List Piece}
      {text : List Char}
      {high low : Nat}
      {c : Char}
      (hhigh : 0xd800 ≤ high ∧ high < 0xdc00)
      (hlow : 0xdc00 ≤ low ∧ low < 0xe000)
      (hc : c.toNat = 0x10000 + (high - 0xd800) * 0x400 + (low - 0xdc00))
      (hrest : PiecesName pieces text) :
      PiecesName (.unit high :: .unit low :: pieces) (c :: text)

/-- Whether characters are digits, and one at least. -/
def AreDigits (digits : List Char) : Prop :=
  digits ≠ [] ∧ ∀ c ∈ digits, c.isDigit = true

/-- The ways to write the power of ten of a number, or none. -/
def ExponentSpelling (exponent : List Char) : Prop :=
  exponent = [] ∨
    ∃ mark sign digits,
      exponent = mark :: (sign ++ digits) ∧
      (mark = 'e' ∨ mark = 'E') ∧
      (sign = [] ∨ sign = ['+'] ∨ sign = ['-']) ∧
      AreDigits digits

/-- Whether characters spell a number: a whole part, and perhaps a sign, a fraction and a power. -/
def NumberSpelling (text : List Char) : Prop :=
  ∃ sign whole fraction exponent,
    text = sign ++ (whole ++ (fraction ++ exponent)) ∧
    (sign = [] ∨ sign = ['-']) ∧
    (AreDigits whole ∧ (whole.head? = some '0' → whole = ['0'])) ∧
    (fraction = [] ∨ ∃ digits, fraction = '.' :: digits ∧ AreDigits digits) ∧
    ExponentSpelling exponent

section Strings

theorem hexValue?_lt
    {c : Char}
    {digit : Nat}
    (h : hexValue? c = some digit) :
    digit < 16 := by
  unfold hexValue? at h
  split at h
  · rename_i hdigit
    have hle := (Char.isDigit_iff_toNat.mp hdigit).2
    have hnine : '9'.toNat = 57 := rfl
    cases h
    omega
  split at h
  · rename_i _ hlower
    simp only [Bool.and_eq_true, decide_eq_true_eq] at hlower
    have hle : c.toNat ≤ 'f'.toNat := hlower.2
    have hf : 'f'.toNat = 102 := rfl
    cases h
    omega
  split at h
  · rename_i _ _ hupper
    simp only [Bool.and_eq_true, decide_eq_true_eq] at hupper
    have hle : c.toNat ≤ 'F'.toNat := hupper.2
    have hf : 'F'.toNat = 70 := rfl
    cases h
    omega
  · cases h

/-- Four digits with their values, and the number that they are digits of. -/
theorem IsHex.exists_digits
    {value : Nat}
    {digits : List Char}
    (h : IsHex value digits) :
    ∃ a b c d first second third fourth,
      digits = [a, b, c, d] ∧
      hexValue? a = some first ∧
      hexValue? b = some second ∧
      hexValue? c = some third ∧
      hexValue? d = some fourth ∧
      value = 16 * (16 * (16 * first + second) + third) + fourth := by
  obtain ⟨hlength, values, hvalues, rfl⟩ := h
  obtain ⟨a, b, c, d, rfl⟩ := List.length_eq_four.mp hlength
  simp only [List.mapM_cons, List.mapM_nil, Option.bind_eq_bind, Option.bind_eq_some_iff] at hvalues
  obtain ⟨first, hfirst, _, ⟨second, hsecond, _, ⟨third, hthird, _, ⟨fourth, hfourth, _, hnil, hd⟩,
    hc⟩, hb⟩, ha⟩ := hvalues
  cases hnil
  cases hd
  cases hc
  cases hb
  cases ha
  exact ⟨a, b, c, d, first, second, third, fourth, rfl, hfirst, hsecond, hthird, hfourth, by simp⟩

/-- A scan reads a number from its four digits. -/
theorem IsHex.scan
    {value : Nat}
    {digits : List Char}
    (h : IsHex value digits)
    (done : List Token)
    (read : List Piece)
    (rest : List Char) :
    Json.scan done (.string read) ('\\' :: 'u' :: (digits ++ rest)) =
      Json.scan done (.string (.unit value :: read)) rest := by
  obtain ⟨a, b, c, d, first, second, third, fourth, rfl, ha, hb, hc, hd, rfl⟩ := h.exists_digits
  simp [Json.scan, scanStep, ha, hb, hc, hd]

/-- The number of four digits is below `2 ^ 16`. -/
theorem IsHex.lt
    {value : Nat}
    {digits : List Char}
    (h : IsHex value digits) :
    value < 0x10000 := by
  obtain ⟨a, b, c, d, first, second, third, fourth, rfl, ha, hb, hc, hd, rfl⟩ := h.exists_digits
  have hfirst := hexValue?_lt ha
  have hsecond := hexValue?_lt hb
  have hthird := hexValue?_lt hc
  have hfourth := hexValue?_lt hd
  omega

theorem PieceSpelling.scan
    {piece : Piece}
    {written : List Char}
    (h : PieceSpelling piece written)
    (done : List Token)
    (read : List Piece)
    (rest : List Char) :
    Json.scan done (.string read) (written ++ rest) =
      Json.scan done (.string (piece :: read)) rest := by
  cases h with
  | @plain c hquote hbackslash hcontrol =>
      have hlow : ¬ c.toNat < 0x20 := Nat.not_lt.mpr hcontrol
      simp [Json.scan, scanStep, hquote, hbackslash, hlow]
  | @short letter c hletter =>
      have hescapes : ∀ escape ∈ shortEscapes,
          escapedChar? escape.1 = some escape.2 ∧ escape.1 ≠ 'u' := by
        decide
      obtain ⟨hescape, hu⟩ := hescapes _ hletter
      simp [Json.scan, scanStep, hescape, hu]
  | unicode hdigits =>
      exact hdigits.scan done read rest

/-- A scan reads the parts of a string literal one after the other. -/
theorem BodySpelling.scan
    {pieces : List Piece}
    {body : List Char}
    (h : BodySpelling pieces body)
    (done : List Token)
    (read : List Piece)
    (rest : List Char) :
    Json.scan done (.string read) (body ++ rest) =
      Json.scan done (.string (pieces.reverse ++ read)) rest := by
  induction h generalizing read with
  | nil =>
      rfl
  | cons hpiece _ ih =>
      rw [List.append_assoc, hpiece.scan, ih]
      simp

/-- No character is half of a surrogate pair. -/
theorem not_surrogate (c : Char) :
    isHighSurrogate c.toNat = false ∧ isLowSurrogate c.toNat = false := by
  have hvalid : c.toNat < 0xd800 ∨ (0xdfff < c.toNat ∧ c.toNat < 0x110000) := c.valid
  simp only [isHighSurrogate, isLowSurrogate, Bool.and_eq_false_iff, decide_eq_false_iff_not]
  omega

/-- A number that a character can have is that of its character. -/
theorem toNat_ofNat
    {value : Nat}
    (h : value.isValidChar) :
    (Char.ofNat value).toNat = value := by
  rw [Char.ofNat, dif_pos h]
  rfl

/-- An escape that is no half of a pair names the character of its number. -/
theorem piecesName_unit_iff
    {value : Nat}
    (hlt : value < 0x10000)
    (hsurrogate : ¬ (isHighSurrogate value || isLowSurrogate value) = true)
    {pieces : List Piece}
    {text : List Char} :
    PiecesName (.unit value :: pieces) text ↔
      ∃ rest, text = Char.ofNat value :: rest ∧ PiecesName pieces rest := by
  simp only [isHighSurrogate, isLowSurrogate, Bool.or_eq_true, Bool.and_eq_true,
    decide_eq_true_eq] at hsurrogate
  constructor
  · intro h
    cases h with
    | unit c hrest =>
        exact ⟨_, by rw [Char.ofNat_toNat], hrest⟩
    | pair hhigh hlow hc hrest =>
        exact absurd (Or.inl hhigh) hsurrogate
  · rintro ⟨rest, rfl, hrest⟩
    have hvalid : value.isValidChar := by
      unfold Nat.isValidChar
      omega
    have hunit := PiecesName.unit (Char.ofNat value) hrest
    rwa [toNat_ofNat hvalid] at hunit

/-- Two escapes that are the halves of a pair name the character of the pair. -/
theorem piecesName_pair_iff
    {high low : Nat}
    (hpair : (isHighSurrogate high && isLowSurrogate low) = true)
    {pieces : List Piece}
    {text : List Char} :
    PiecesName (.unit high :: .unit low :: pieces) text ↔
      ∃ rest, text = pairChar high low :: rest ∧ PiecesName pieces rest := by
  simp only [isHighSurrogate, isLowSurrogate, Bool.and_eq_true, decide_eq_true_eq] at hpair
  obtain ⟨hhigh, hlow⟩ := hpair
  constructor
  · intro h
    cases h with
    | unit c hrest =>
        have hvalid : c.toNat < 0xd800 ∨ (0xdfff < c.toNat ∧ c.toNat < 0x110000) := c.valid
        omega
    | pair _ _ hc hrest =>
        refine ⟨_, ?_, hrest⟩
        rw [pairChar, ← hc, Char.ofNat_toNat]
  · rintro ⟨rest, rfl, hrest⟩
    refine .pair hhigh hlow ?_ hrest
    have hvalid : (0x10000 + (high - 0xd800) * 0x400 + (low - 0xdc00)).isValidChar := by
      unfold Nat.isValidChar
      omega
    rw [pairChar, toNat_ofNat hvalid]

/-- Half of a pair by itself is part of no text. -/
theorem not_piecesName_half
    {value : Nat}
    (hsurrogate : (isHighSurrogate value || isLowSurrogate value) = true)
    {pieces : List Piece}
    (hpair : ∀ low rest, pieces = .unit low :: rest →
      ¬ (isHighSurrogate value && isLowSurrogate low) = true)
    (text : List Char) :
    ¬ PiecesName (.unit value :: pieces) text := by
  intro h
  cases h with
  | unit c hrest =>
      obtain ⟨hhigh, hlow⟩ := not_surrogate c
      rw [hhigh, hlow] at hsurrogate
      cases hsurrogate
  | pair hhigh hlow hc hrest =>
      refine hpair _ _ rfl ?_
      simp only [isHighSurrogate, isLowSurrogate, Bool.and_eq_true, decide_eq_true_eq]
      exact ⟨hhigh, hlow⟩

/-- Parts are put together to the text that they name, and to none if they name none. -/
theorem joinPieces_eq_some_iff
    {pieces : List Piece}
    (read result : List Char)
    (hbound : ∀ value, .unit value ∈ pieces → value < 0x10000) :
    joinPieces read pieces = some result ↔
      ∃ text, result = read.reverse ++ text ∧ PiecesName pieces text := by
  -- one character more in front of what the others name
  have hcons : ∀ {c : Char} {rest whole : List Piece} (read : List Char),
      (∀ text, PiecesName whole text ↔ ∃ others, text = c :: others ∧ PiecesName rest others) →
      ((∃ text, result = (c :: read).reverse ++ text ∧ PiecesName rest text) ↔
        ∃ text, result = read.reverse ++ text ∧ PiecesName whole text) := by
    intro c rest whole read hwhole
    simp only [hwhole]
    constructor
    · rintro ⟨text, rfl, hrest⟩
      exact ⟨c :: text, by simp, text, rfl, hrest⟩
    · rintro ⟨_, rfl, text, rfl, hrest⟩
      exact ⟨text, by simp, hrest⟩
  fun_induction joinPieces read pieces with
  | case1 read =>
      constructor
      · intro h
        exact ⟨[], by simpa using h.symm, .nil⟩
      · rintro ⟨text, rfl, htext⟩
        cases htext
        simp
  | case2 read c rest ih =>
      refine (ih fun value hmem => hbound value (List.mem_cons_of_mem _ hmem)).trans
        (hcons read fun text => ⟨?_, ?_⟩)
      · intro h
        cases h with
        | char _ hrest =>
            exact ⟨_, rfl, hrest⟩
      · rintro ⟨others, rfl, hrest⟩
        exact .char c hrest
  | case3 read high low rest hpair ih =>
      have hrest := ih fun value hmem =>
        hbound value (List.mem_cons_of_mem _ (List.mem_cons_of_mem _ hmem))
      exact hrest.trans (hcons read fun text => piecesName_pair_iff hpair)
  | case4 read high low rest hpair hsurrogate =>
      have hnone : ∀ text, ¬ PiecesName (.unit high :: .unit low :: rest) text := by
        refine not_piecesName_half hsurrogate ?_
        intro other behind heq
        cases heq
        exact hpair
      simp [hnone]
  | case5 read high low rest hpair hsurrogate ih =>
      have hrest := ih fun value hmem => hbound value (List.mem_cons_of_mem _ hmem)
      have hlt := hbound high List.mem_cons_self
      exact hrest.trans (hcons read fun text => piecesName_unit_iff hlt hsurrogate)
  | case6 read value rest hne hsurrogate =>
      have hnone : ∀ text, ¬ PiecesName (.unit value :: rest) text :=
        not_piecesName_half hsurrogate fun other behind heq => absurd heq (hne other behind)
      simp [hnone]
  | case7 read value rest hne hsurrogate ih =>
      have hrest := ih fun value hmem => hbound value (List.mem_cons_of_mem _ hmem)
      have hlt := hbound value List.mem_cons_self
      exact hrest.trans (hcons read fun text => piecesName_unit_iff hlt hsurrogate)

/-- The numbers in a string literal are those of four digits each. -/
theorem BodySpelling.lt
    {pieces : List Piece}
    {body : List Char}
    (h : BodySpelling pieces body)
    {value : Nat}
    (hmem : .unit value ∈ pieces) :
    value < 0x10000 := by
  induction h with
  | nil =>
      cases hmem
  | cons hpiece _ ih =>
      rcases List.mem_cons.mp hmem with rfl | hmem
      · cases hpiece with
        | unicode hdigits =>
            exact hdigits.lt
      · exact ih hmem

/-- A string literal whose parts name a text is the token of that text. -/
theorem stringToken_of_names
    {pieces : List Piece}
    {body : List Char}
    (hbody : BodySpelling pieces body)
    {text : String}
    (htext : PiecesName pieces text.toList) :
    stringToken pieces.reverse = .string (some text) := by
  have hjoin : joinPieces [] pieces = some text.toList :=
    (joinPieces_eq_some_iff [] _ fun _ => hbody.lt).mpr ⟨text.toList, rfl, htext⟩
  simp [stringToken, hjoin]

/-- A string literal whose parts name no text is a token without one. -/
theorem stringToken_of_names_none
    {pieces : List Piece}
    {body : List Char}
    (hbody : BodySpelling pieces body)
    (hnone : ∀ text, ¬ PiecesName pieces text) :
    stringToken pieces.reverse = .string none := by
  have hjoin : joinPieces [] pieces = none := by
    refine Option.eq_none_iff_forall_ne_some.mpr fun text htext => ?_
    obtain ⟨named, _, hnamed⟩ := (joinPieces_eq_some_iff [] _ fun _ => hbody.lt).mp htext
    exact hnone named hnamed
  simp [stringToken, hjoin]

/-- A scan reads a string literal up to its closing quote. -/
theorem BodySpelling.scan_literal
    {pieces : List Piece}
    {body : List Char}
    (h : BodySpelling pieces body)
    (done : List Token)
    (rest : List Char) :
    Json.scan done .gap ('\x22' :: (body ++ ['\x22']) ++ rest) =
      Json.scan (stringToken pieces.reverse :: done) .gap rest := by
  have hopening : Json.scan done .gap ('\x22' :: (body ++ ['\x22']) ++ rest) =
      Json.scan done (.string []) (body ++ '\x22' :: rest) := by
    rw [List.cons_append, List.append_assoc]
    rfl
  rw [hopening, h.scan, List.append_nil]
  rfl

end Strings

section Numbers

theorem takeWhile_digits
    {digits rest : List Char}
    (hdigits : ∀ c ∈ digits, c.isDigit = true)
    (hrest : ∀ c ∈ rest.head?, c.isDigit = false) :
    (digits ++ rest).takeWhile Char.isDigit = digits ∧
    (digits ++ rest).dropWhile Char.isDigit = rest := by
  have htake : rest.takeWhile Char.isDigit = [] := by
    cases rest with
    | nil =>
        rfl
    | cons c others =>
        simp [hrest c rfl]
  have hdrop := List.takeWhile_append_dropWhile (p := Char.isDigit) (l := rest)
  rw [htake, List.nil_append] at hdrop
  rw [List.takeWhile_append_of_pos hdigits, List.dropWhile_append_of_pos hdigits, htake, hdrop,
    List.append_nil]
  exact ⟨rfl, rfl⟩

theorem isSignedDigits_of_digits
    {sign digits : List Char}
    (hsign : sign = [] ∨ sign = ['+'] ∨ sign = ['-'])
    (hdigits : AreDigits digits) :
    isSignedDigits (sign ++ digits) = true := by
  obtain ⟨hne, hall⟩ := hdigits
  have hdigit : (!digits.isEmpty && digits.all Char.isDigit) = true := by
    simpa [List.all_eq_true] using ⟨hne, hall⟩
  rcases hsign with rfl | rfl | rfl
  · obtain ⟨first, rest, rfl⟩ := List.exists_cons_of_ne_nil hne
    have hfirst := hall first List.mem_cons_self
    rw [List.nil_append]
    unfold isSignedDigits
    split
    · rename_i heq
      cases heq
      exact absurd hfirst (by decide)
    · rename_i heq
      cases heq
      exact absurd hfirst (by decide)
    · exact hdigit
  · exact hdigit
  · exact hdigit

theorem ExponentSpelling.isExponent
    {exponent : List Char}
    (h : ExponentSpelling exponent) :
    Json.isExponent exponent = true := by
  rcases h with rfl | ⟨mark, sign, digits, rfl, hmark, hsign, hdigits⟩
  · rfl
  · simp [Json.isExponent, isSignedDigits_of_digits hsign hdigits, hmark]

/-- No digit and no point begins an exponent. -/
theorem ExponentSpelling.head
    {exponent : List Char}
    (h : ExponentSpelling exponent) :
    ∀ c ∈ exponent.head?, c.isDigit = false ∧ c ≠ '.' := by
  rcases h with rfl | ⟨mark, sign, digits, rfl, hmark, _⟩
  · simp
  · rintro c hc
    obtain rfl : mark = c := by simpa using hc
    rcases hmark with rfl | rfl <;> decide

theorem isNumberTail_of_spelling
    {fraction exponent : List Char}
    (hfraction : fraction = [] ∨ ∃ digits, fraction = '.' :: digits ∧ AreDigits digits)
    (hexponent : ExponentSpelling exponent) :
    isNumberTail (fraction ++ exponent) = true ∧
    ∀ c ∈ (fraction ++ exponent).head?, c.isDigit = false := by
  have hhead := hexponent.head
  rcases hfraction with rfl | ⟨digits, rfl, hne, hdigits⟩
  · refine ⟨?_, fun c hc => (hhead c hc).1⟩
    rw [List.nil_append]
    unfold isNumberTail
    split
    · exact absurd rfl (hhead '.' rfl).2
    · exact hexponent.isExponent
  · obtain ⟨htake, hdrop⟩ := takeWhile_digits hdigits fun c hc => (hhead c hc).1
    refine ⟨?_, ?_⟩
    · show (!((digits ++ exponent).takeWhile Char.isDigit).isEmpty &&
        Json.isExponent ((digits ++ exponent).dropWhile Char.isDigit)) = true
      rw [htake, hdrop, hexponent.isExponent]
      simpa using hne
    · rintro c hc
      obtain rfl : '.' = c := by simpa using hc
      decide

/-- The characters that spell a number are one. -/
theorem NumberSpelling.isNumber
    {text : List Char}
    (h : NumberSpelling text) :
    Json.isNumber text = true := by
  obtain ⟨sign, whole, fraction, exponent, rfl, hsign, ⟨⟨hne, hdigits⟩, hzero⟩, hfraction,
    hexponent⟩ := h
  obtain ⟨htail, hhead⟩ := isNumberTail_of_spelling hfraction hexponent
  obtain ⟨htake, hdrop⟩ := takeWhile_digits hdigits hhead
  obtain ⟨first, rest, rfl⟩ := List.exists_cons_of_ne_nil hne
  have hfirst := hdigits first List.mem_cons_self
  have hunsigned : isUnsignedNumber (first :: rest ++ (fraction ++ exponent)) = true := by
    rw [isUnsignedNumber, htake, hdrop, htail, Bool.and_true]
    by_cases h0 : first = '0'
    · have hwhole := hzero (by rw [h0]; rfl)
      obtain ⟨_, rfl⟩ := List.cons.inj hwhole
      simp [isWholePart]
    · simp [isWholePart, h0]
  rcases hsign with rfl | rfl
  · rw [List.nil_append]
    unfold Json.isNumber
    split
    · rename_i heq
      obtain ⟨rfl, _⟩ := List.cons.inj heq
      exact absurd hfirst (by decide)
    · exact hunsigned
  · exact hunsigned

/-- A number is made of its own characters, and begins with a digit or a minus sign. -/
theorem NumberSpelling.chars
    {text : List Char}
    (h : NumberSpelling text) :
    (∀ c ∈ text, isNumberChar c = true) ∧
    ∃ first rest, text = first :: rest ∧ (first.isDigit || first = '-') = true := by
  obtain ⟨sign, whole, fraction, exponent, rfl, hsign, ⟨⟨hne, hdigits⟩, _⟩, hfraction,
    hexponent⟩ := h
  have hdigit : ∀ c : Char, c.isDigit = true → isNumberChar c = true := by
    intro c hc
    simp [isNumberChar, hc]
  constructor
  · intro c hc
    simp only [List.mem_append] at hc
    rcases hc with hc | hc | hc | hc
    · rcases hsign with rfl | rfl
      · cases hc
      · obtain rfl : c = '-' := by simpa using hc
        decide
    · exact hdigit c (hdigits c hc)
    · rcases hfraction with rfl | ⟨digits, rfl, _, hall⟩
      · cases hc
      · rcases List.mem_cons.mp hc with rfl | hc
        · decide
        · exact hdigit c (hall c hc)
    · rcases hexponent with rfl | ⟨mark, sign, digits, rfl, hmark, hsign, _, hall⟩
      · cases hc
      · simp only [List.mem_cons, List.mem_append] at hc
        rcases hc with rfl | hc | hc
        · rcases hmark with rfl | rfl <;> decide
        · rcases hsign with rfl | rfl | rfl
          · cases hc
          · obtain rfl : c = '+' := by simpa using hc
            decide
          · obtain rfl : c = '-' := by simpa using hc
            decide
        · exact hdigit c (hall c hc)
  · obtain ⟨first, rest, rfl⟩ := List.exists_cons_of_ne_nil hne
    rcases hsign with rfl | rfl
    · exact ⟨first, _, rfl, by simp [hdigits first List.mem_cons_self]⟩
    · exact ⟨'-', _, rfl, by decide⟩

end Numbers

end Json
end MathBlocks
