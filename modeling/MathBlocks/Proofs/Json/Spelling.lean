import Mathlib.Data.List.Forall2
import MathBlocks.Json.Printer
import MathBlocks.Proofs.Json.Layout

/-!
# The ways to write a value

A value is a sequence of tokens, and a text is one of the ways to write it if it is one of the ways
to write them. A value is cut into its tokens from all of these texts, since in the sequence a mark
stands between any two words and numbers. The layout over several lines is one of the ways.
-/

namespace MathBlocks
namespace Json

mutual

/-- The tokens of a value. -/
def tokens : Json → List Token
  | .null => [.null]
  | .bool value => [.bool value]
  | .number literal => [.number literal]
  | .string text => [.string text]
  | .array items => .openArray :: [.comma].intercalate (itemTokens items) ++ [.closeArray]
  | .object members =>
      .openObject :: [.comma].intercalate (memberTokens members) ++ [.closeObject]
termination_by structural value => value

/-- The tokens of each item of an array. -/
def itemTokens : List Json → List (List Token)
  | [] => []
  | item :: rest => item.tokens :: itemTokens rest
termination_by structural items => items

/-- The tokens of each member of an object. -/
def memberTokens : List (Option String × Json) → List (List Token)
  | [] => []
  | (name, value) :: rest => (.string name :: .colon :: value.tokens) :: memberTokens rest
termination_by structural members => members

end

/-- Whether a text is one of the ways to write a value. -/
def WrittenAs
    (value : Json)
    (text : String) : Prop :=
  Lays value.tokens text.toList

/-- Lists of tokens with commas between them: a comma stands before each but the first. -/
theorem intercalate_comma
    (first : List Token)
    (rest : List (List Token)) :
    [.comma].intercalate (first :: rest) = first ++ rest.flatMap (.comma :: ·) := by
  induction rest generalizing first with
  | nil =>
      simp
  | cons next rest ih =>
      rw [List.intercalate_cons_cons, ih]
      simp

mutual

/-- Among the tokens of a value, with a mark behind them or nothing, one of two is a mark. -/
theorem isChain_tokens :
    (value : Json) →
    {rest : List Token} →
    MarkedOff rest →
    (value.tokens ++ rest).IsChain Token.Apart
  | .null, _, hrest => hrest.cons .null
  | .bool value, _, hrest => hrest.cons (.bool value)
  | .number literal, _, hrest => hrest.cons (.number literal)
  | .string text, _, hrest => hrest.cons (.string text)
  | .array [], _, hrest => (MarkedOff.mark rfl (hrest.cons .closeArray)).2
  | .array (item :: items), rest, hrest => by
      simp only [tokens, itemTokens, intercalate_comma, List.cons_append, List.append_assoc,
        List.nil_append]
      have hclosing : MarkedOff (.closeArray :: rest) := .mark rfl hrest.2
      exact (MarkedOff.mark rfl (isChain_tokens item (markedOff_items items hclosing))).2
  | .object [], _, hrest => (MarkedOff.mark rfl (hrest.cons .closeObject)).2
  | .object ((name, value) :: members), rest, hrest => by
      simp only [tokens, memberTokens, intercalate_comma, List.cons_append, List.append_assoc,
        List.nil_append]
      have hclosing : MarkedOff (.closeObject :: rest) := .mark rfl hrest.2
      have hvalue := isChain_tokens value (markedOff_members members hclosing)
      have hcolon : MarkedOff (.colon :: _) := .mark rfl hvalue
      exact (MarkedOff.mark rfl (hcolon.cons (.string name))).2

/-- The further items of an array begin with a comma, each of them. -/
theorem markedOff_items :
    (items : List Json) →
    {rest : List Token} →
    MarkedOff rest →
    MarkedOff ((itemTokens items).flatMap (.comma :: ·) ++ rest)
  | [], _, hrest => hrest
  | item :: items, rest, hrest => by
      rw [itemTokens, List.flatMap_cons, List.cons_append, List.cons_append, List.append_assoc]
      exact .mark rfl (isChain_tokens item (markedOff_items items hrest))

/-- The further members of an object begin with a comma, each of them. -/
theorem markedOff_members :
    (members : List (Option String × Json)) →
    {rest : List Token} →
    MarkedOff rest →
    MarkedOff ((memberTokens members).flatMap (.comma :: ·) ++ rest)
  | [], _, hrest => hrest
  | (name, value) :: members, rest, hrest => by
      simp only [memberTokens, List.flatMap_cons, List.cons_append, List.append_assoc]
      have hvalue := isChain_tokens value (markedOff_members members hrest)
      have hcolon : MarkedOff (.colon :: _) := .mark rfl hvalue
      exact .mark rfl (hcolon.cons (.string name))

end

/-- A value is cut into its tokens from any way to write it. -/
theorem ofChars?_of_writtenAs
    {value : Json}
    {text : String}
    (h : value.WrittenAs text) :
    Token.ofChars? text.toList = some value.tokens := by
  have hchain := isChain_tokens value MarkedOff.nil
  rw [List.append_nil] at hchain
  exact Lays.scan h hchain []

mutual

/-- Whether a value is made of texts, arrays and objects whose members have names. -/
def IsTextual : Json → Prop
  | .string text => text.isSome = true
  | .array items => AreTextual items
  | .object members => HaveTextual members
  | _ => False
termination_by structural value => value

/-- Whether all items of an array are made of texts, arrays and objects. -/
def AreTextual : List Json → Prop
  | [] => True
  | item :: rest => item.IsTextual ∧ AreTextual rest
termination_by structural items => items

/-- Whether all members of an object have names and are made of texts, arrays and objects. -/
def HaveTextual : List (Option String × Json) → Prop
  | [] => True
  | (name, value) :: rest => name.isSome = true ∧ value.IsTextual ∧ HaveTextual rest
termination_by structural members => members

end

section Printing

/-- The part of a string literal that a character is read as from the way it is written. -/
def writtenPiece (c : Char) : Piece :=
  if c.toNat < 0x20 ∧ c ≠ '\x08' ∧ c ≠ '\x0c' ∧ c ≠ '\n' ∧ c ≠ '\r' ∧ c ≠ '\t' then
    .unit c.toNat
  else
    .char c

theorem hexValue?_hexDigit
    {n : Nat}
    (h : n < 16) :
    hexValue? (hexDigit n) = some n := by
  have hall : ∀ n < 16, hexValue? (hexDigit n) = some n := by
    decide
  exact hall n h

/-- A character is written as a part of a string literal. -/
theorem pieceSpelling_escapeChar
    (c : Char) :
    PieceSpelling (writtenPiece c) (escapeChar c) := by
  unfold escapeChar
  split
  · subst_vars
    exact .short (by decide)
  split
  · subst_vars
    exact .short (by decide)
  split
  · subst_vars
    exact .short (by decide)
  split
  · subst_vars
    exact .short (by decide)
  split
  · subst_vars
    exact .short (by decide)
  split
  · subst_vars
    exact .short (by decide)
  split
  · subst_vars
    exact .short (by decide)
  split
  · rename_i hcontrol
    have hhigh := hexValue?_hexDigit (by omega : c.toNat / 16 < 16)
    have hlow := hexValue?_hexDigit (by omega : c.toNat % 16 < 16)
    have hzero : hexValue? '0' = some 0 := by
      decide
    have hvalue : 16 * (c.toNat / 16) + c.toNat % 16 = c.toNat := by
      omega
    have hdigits : IsHex c.toNat ['0', '0', hexDigit (c.toNat / 16), hexDigit (c.toNat % 16)] :=
      ⟨rfl, [0, 0, c.toNat / 16, c.toNat % 16], by simp [hhigh, hlow, hzero], by simpa using hvalue⟩
    have hpiece : writtenPiece c = .unit c.toNat := by
      simp [writtenPiece, *]
    rw [hpiece]
    exact .unicode hdigits
  · rename_i hcontrol
    have hpiece : writtenPiece c = .char c := by
      simp [writtenPiece, *]
    rw [hpiece]
    exact .plain ‹_› ‹_› (Nat.le_of_not_lt hcontrol)

/-- The string literal of a text is a way to write it. -/
theorem spelledAs_literal
    (text : String) :
    (Token.string (some text)).SpelledAs (literal (some text)).toList := by
  have hbody : ∀ chars : List Char,
      BodySpelling (chars.map writtenPiece) (chars.flatMap escapeChar) := by
    intro chars
    induction chars with
    | nil =>
        exact .nil
    | cons c chars ih =>
        exact .cons (pieceSpelling_escapeChar c) ih
  have hnames : ∀ chars : List Char, PiecesName (chars.map writtenPiece) chars := by
    intro chars
    induction chars with
    | nil =>
        exact .nil
    | cons c chars ih =>
        rw [List.map_cons, writtenPiece]
        split
        · exact .unit c ih
        · exact .char c ih
  have hliteral : (literal (some text)).toList =
      '\x22' :: (text.toList.flatMap escapeChar ++ ['\x22']) := by
    simp [literal]
  rw [hliteral]
  exact .text (hbody text.toList) (hnames text.toList)

/-- A text in front of another one. -/
theorem Lays.append_text
    {first rest : String}
    {tokens others : List Token}
    (hfirst : Lays tokens first.toList)
    (hrest : Lays others rest.toList) :
    Lays (tokens ++ others) (first ++ rest).toList := by
  rw [String.toList_append]
  exact hfirst.append hrest

/-- Parts with something that is written as a comma between them. -/
theorem Lays.intercalate
    {separator : String}
    (hseparator : Lays [.comma] separator.toList)
    {parts : List String}
    {tokens : List (List Token)}
    (h : List.Forall₂ (fun part expected => Lays expected part.toList) parts tokens) :
    Lays ([.comma].intercalate tokens) (separator.intercalate parts).toList := by
  induction h with
  | nil =>
      exact .empty
  | @cons part expected parts tokens hpart hrest ih =>
      cases hrest with
      | nil =>
          simpa using hpart
      | cons hnext hrest =>
          rw [String.intercalate_cons_cons, List.intercalate_cons_cons]
          exact (hpart.append_text hseparator).append_text ih

/-- A line end and an indentation are blanks. -/
theorem lays_lineStart
    (level : Nat) :
    Lays [] (lineStart level).toList := by
  refine .nil fun c hc => ?_
  rw [lineStart, String.toList_append, Text.toList_repeated] at hc
  rcases List.mem_append.mp hc with hc | hc
  · obtain rfl : c = '\n' := by simpa using hc
    decide
  · obtain ⟨_, rfl⟩ : ¬ level = 0 ∧ c = ' ' := by simpa using hc
    decide

/-- Parts on lines of their own between two brackets. -/
theorem Lays.bracketed
    {opening closing : String}
    {first last : Token}
    (hopening : Lays [first] opening.toList)
    (hclosing : Lays [last] closing.toList)
    (level : Nat)
    {parts : List String}
    {tokens : List (List Token)}
    (h : List.Forall₂ (fun part expected => Lays expected part.toList) parts tokens) :
    Lays (first :: [.comma].intercalate tokens ++ [last])
      (bracketed opening closing level parts).toList := by
  unfold Json.bracketed
  cases h with
  | nil =>
      exact hopening.append_text hclosing
  | cons hpart hrest =>
      have hcomma : Lays [.comma] ",".toList := .mark .comma ',' (by decide) .empty
      have hseparator := hcomma.append_text (lays_lineStart (level + 1))
      have hparts := intercalate hseparator (.cons hpart hrest)
      have hwhole := (((hopening.append_text (lays_lineStart (level + 1))).append_text
        hparts).append_text (lays_lineStart level)).append_text hclosing
      rwa [List.append_nil, List.append_nil] at hwhole

/-- A colon, with a blank behind it. -/
theorem lays_colon :
    Lays [.colon] ": ".toList :=
  .mark .colon ':' (by decide) (.nil (List.forall_mem_singleton.mpr (by decide)))

mutual

/-- A value over several lines is a way to write it. -/
theorem lays_prettyAt :
    (value : Json) →
    value.IsTextual →
    (level : Nat) →
    Lays value.tokens (value.prettyAt level).toList
  | .string (some text), _, _ => .token (spelledAs_literal text)
  | .array items, h, level =>
      .bracketed (.mark .openArray '[' (by decide) .empty)
        (.mark .closeArray ']' (by decide) .empty) level (lays_prettyItems items h (level + 1))
  | .object members, h, level =>
      .bracketed (.mark .openObject '\x7b' (by decide) .empty)
        (.mark .closeObject '\x7d' (by decide) .empty) level
        (lays_prettyMembers members h (level + 1))

theorem lays_prettyItems :
    (items : List Json) →
    AreTextual items →
    (level : Nat) →
    List.Forall₂ (fun part expected => Lays expected part.toList) (prettyItems level items)
      (itemTokens items)
  | [], _, _ => .nil
  | item :: rest, h, level =>
      .cons (lays_prettyAt item h.1 level) (lays_prettyItems rest h.2 level)

theorem lays_prettyMembers :
    (members : List (Option String × Json)) →
    HaveTextual members →
    (level : Nat) →
    List.Forall₂ (fun part expected => Lays expected part.toList) (prettyMembers level members)
      (memberTokens members)
  | [], _, _ => .nil
  | (some name, value) :: rest, h, level =>
      .cons (((Lays.token (spelledAs_literal name)).append_text lays_colon).append_text
          (lays_prettyAt value h.2.1 level))
        (lays_prettyMembers rest h.2.2 level)

end

/-- A value that is made of texts, arrays and objects is written as its text over several lines. -/
theorem writtenAs_pretty
    {value : Json}
    (h : value.IsTextual) :
    value.WrittenAs value.pretty :=
  lays_prettyAt value h 0

/-- A line feed behind a way to write a value makes another way. -/
theorem WrittenAs.lineFeed
    {value : Json}
    {text : String}
    (h : value.WrittenAs text) :
    value.WrittenAs (text ++ "\n") := by
  have hfeed : Lays [] "\n".toList := .nil (List.forall_mem_singleton.mpr (by decide))
  have hboth := Lays.append_text h hfeed
  rwa [List.append_nil] at hboth

/-- The tokens of the text of a value. -/
theorem ofChars?_pretty
    {value : Json}
    (h : value.IsTextual) :
    Token.ofChars? value.pretty.toList = some value.tokens :=
  ofChars?_of_writtenAs (writtenAs_pretty h)

end Printing

/-- Items that are all made of texts, arrays and objects. -/
theorem areTextual_map
    {α : Type}
    {items : List α}
    {make : α → Json}
    (h : ∀ item ∈ items, (make item).IsTextual) :
    AreTextual (items.map make) := by
  induction items with
  | nil =>
      trivial
  | cons item rest ih =>
      exact ⟨h item List.mem_cons_self,
        ih fun other hother => h other (List.mem_cons_of_mem _ hother)⟩

theorem textual_ofTexts
    (texts : List String) :
    (ofTexts texts).IsTextual :=
  areTextual_map fun _ _ => rfl

end Json
end MathBlocks
