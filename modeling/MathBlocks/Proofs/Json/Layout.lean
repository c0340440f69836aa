import Mathlib.Data.Bool.AllAny
import Mathlib.Data.List.Chain
import MathBlocks.Proofs.Json.Literals

/-!
# Any layout of tokens is cut into them

Tokens may stand with white space between them or without. `Json.Lays` lists the ways to write
tokens one after the other, and a scan cuts each of them into these tokens if of two side by side
one is always a mark: no word and no number goes on with a mark, and a mark goes on with nothing.
-/

namespace MathBlocks
namespace Json

/-- What may stand between tokens. -/
def blanks : List Char :=
  [' ', '\t', '\n', '\r']

/-- The tokens of a single character that stands for nothing else. -/
def marks : List (Token × Char) :=
  [(.openObject, '\x7b'), (.closeObject, '\x7d'), (.openArray, '['), (.closeArray, ']'),
   (.colon, ':'), (.comma, ',')]

/-- The ways to write a token. -/
inductive Token.SpelledAs : Token → List Char → Prop
  | mark
      {token : Token}
      {c : Char}
      (hmark : (token, c) ∈ marks) :
      SpelledAs token [c]
  | null :
      SpelledAs .null ['n', 'u', 'l', 'l']
  | true :
      SpelledAs (.bool true) ['t', 'r', 'u', 'e']
  | false :
      SpelledAs (.bool false) ['f', 'a', 'l', 's', 'e']
  | number
      {literal : String}
      (hnumber : NumberSpelling literal.toList) :
      SpelledAs (.number literal) literal.toList
  | text
      {text : String}
      {pieces : List Piece}
      {body : List Char}
      (hbody : BodySpelling pieces body)
      (htext : PiecesName pieces text.toList) :
      SpelledAs (.string (some text)) ('\x22' :: (body ++ ['\x22']))
  /-- A literal that names half of a surrogate pair has no text. -/
  | textless
      {pieces : List Piece}
      {body : List Char}
      (hbody : BodySpelling pieces body)
      (hnone : ∀ text, ¬ PiecesName pieces text) :
      SpelledAs (.string none) ('\x22' :: (body ++ ['\x22']))

/-- The ways to write tokens one after the other, with blanks between them or none. -/
inductive Lays : List Token → List Char → Prop
  | nil
      {gap : List Char}
      (hgap : ∀ c ∈ gap, c ∈ blanks) :
      Lays [] gap
  | cons
      {token : Token}
      {tokens : List Token}
      {gap written rest : List Char}
      (hgap : ∀ c ∈ gap, c ∈ blanks)
      (htoken : token.SpelledAs written)
      (hrest : Lays tokens rest) :
      Lays (token :: tokens) (gap ++ (written ++ rest))

/-- Blanks in front make no difference. -/
theorem Lays.blank_append
    {gap text : List Char}
    {tokens : List Token}
    (hgap : ∀ c ∈ gap, c ∈ blanks)
    (h : Lays tokens text) :
    Lays tokens (gap ++ text) := by
  cases h with
  | nil hblank =>
      exact .nil (List.forall_mem_append.mpr ⟨hgap, hblank⟩)
  | cons hblank htoken hrest =>
      rw [← List.append_assoc]
      exact .cons (List.forall_mem_append.mpr ⟨hgap, hblank⟩) htoken hrest

theorem Lays.append
    {text behind : List Char}
    {tokens others : List Token}
    (h : Lays tokens text)
    (hothers : Lays others behind) :
    Lays (tokens ++ others) (text ++ behind) := by
  induction h with
  | nil hgap =>
      exact hothers.blank_append hgap
  | cons hgap htoken _ ih =>
      rw [List.append_assoc, List.append_assoc]
      exact .cons hgap htoken ih

theorem Lays.empty :
    Lays [] [] :=
  .nil (List.forall_mem_nil _)

/-- A token with nothing around it. -/
theorem Lays.token
    {token : Token}
    {written : List Char}
    (h : token.SpelledAs written) :
    Lays [token] written := by
  have hlays := Lays.cons (List.forall_mem_nil _) h .empty
  rwa [List.nil_append, List.append_nil] at hlays

/-- A mark in front of other tokens. -/
theorem Lays.mark
    (token : Token)
    (c : Char)
    (h : (token, c) ∈ marks)
    {tokens : List Token}
    {text : List Char}
    (hrest : Lays tokens text) :
    Lays (token :: tokens) (c :: text) :=
  (Lays.token (.mark h)).append hrest

/-- Whether a token is a single character that stands for nothing else. -/
def Token.isMark : Token → Bool
  | .openObject | .closeObject | .openArray | .closeArray | .colon | .comma => true
  | _ => false

/-- Whether of two tokens one is a mark, so that no blank is needed to tell them apart. -/
def Token.Apart (token next : Token) : Prop :=
  token.isMark = true ∨ next.isMark = true

/-- Whether nothing follows that a word or a number goes on with. -/
def Stops (rest : List Char) : Prop :=
  ∀ c ∈ rest.head?, c ∈ blanks ∨ c ∈ marks.map Prod.snd

/-- What ends words and numbers is no part of them, and a scan between tokens goes on behind it. -/
theorem stops_step
    {c : Char}
    (h : c ∈ blanks ∨ c ∈ marks.map Prod.snd) :
    c.isLower = false ∧ isNumberChar c = false ∧ (ScanStep.gap c).isSome = true := by
  have hall : ∀ c ∈ blanks ++ marks.map Prod.snd,
      c.isLower = false ∧ isNumberChar c = false ∧ (ScanStep.gap c).isSome = true :=
    List.all_iff_forall_prop.mp (by decide)
  exact hall c (List.mem_append.mpr h)

/-- A scan in a word or a number ends its token where nothing follows that it goes on with. -/
theorem scan_of_stops
    {state : ScanState}
    {token : Token}
    (hend : scanEnd state = some [token])
    (hstep : ∀ c, c.isLower = false → isNumberChar c = false →
      scanStep state c = ScanStep.after (some token) c)
    {rest : List Char}
    (hrest : Stops rest)
    (done : List Token) :
    scan done state rest = scan (token :: done) .gap rest := by
  cases rest with
  | nil =>
      rw [scan, hend]
      rfl
  | cons c rest =>
      obtain ⟨hlower, hnumber, hgap⟩ := stops_step (hrest c rfl)
      obtain ⟨⟨tokens, next⟩, hnext⟩ := Option.isSome_iff_exists.mp hgap
      have hafter : scanStep state c = some (token :: tokens, next) := by
        rw [hstep c hlower hnumber]
        simp [ScanStep.after, hnext]
      have hstart : scanStep .gap c = some (tokens, next) := hnext
      simp [scan, hafter, hstart]

theorem scan_word
    {read : List Char}
    {token : Token}
    (htoken : wordToken? read = some token)
    {rest : List Char}
    (hrest : Stops rest)
    (done : List Token) :
    scan done (.word read) rest = scan (token :: done) .gap rest := by
  refine scan_of_stops ?_ ?_ hrest done
  · simp [scanEnd, htoken]
  · intro c hlower _
    simp [scanStep, hlower, htoken]

/-- What a number begins with is no blank, mark, quote or letter. -/
theorem gap_of_number
    {c : Char}
    (h : (c.isDigit || c = '-') = true) :
    ScanStep.gap c = some ([], .number [c]) := by
  have hne : ∀ d : Char, (d.isDigit || d = '-') = false → c ≠ d := by
    rintro d hd rfl
    rw [h] at hd
    cases hd
  have hother : ∀ d ∈ '\x22' :: (blanks ++ marks.map Prod.snd), (d.isDigit || d = '-') = false :=
    List.all_iff_forall_prop.mp (by decide)
  have hspecial : ∀ d ∈ '\x22' :: (blanks ++ marks.map Prod.snd), c ≠ d :=
    fun d hd => hne d (hother d hd)
  simp only [blanks, marks, List.map_cons, List.map_nil, List.cons_append, List.nil_append,
    List.forall_mem_cons] at hspecial
  simp [ScanStep.gap, hspecial, h]

theorem scan_number
    {literal : String}
    (hnumber : NumberSpelling literal.toList)
    {rest : List Char}
    (hrest : Stops rest)
    (done : List Token) :
    scan done .gap (literal.toList ++ rest) = scan (.number literal :: done) .gap rest := by
  obtain ⟨hchars, first, others, hlist, hfirst⟩ := hnumber.chars
  have hall : isNumber literal.toList = true := hnumber.isNumber
  -- all characters but the first one are read on
  have hread : ∀ (chars read : List Char), (∀ c ∈ chars, isNumberChar c = true) →
      scan done (.number read) (chars ++ rest) =
        scan done (.number (chars.reverse ++ read)) rest := by
    intro chars
    induction chars with
    | nil =>
        exact fun _ _ => rfl
    | cons c chars ih =>
        intro read hchars
        obtain ⟨hc, hchars⟩ := List.forall_mem_cons.mp hchars
        have hstep : scan done (.number read) (c :: chars ++ rest) =
            scan done (.number (c :: read)) (chars ++ rest) := by
          simp [scan, scanStep, hc]
        rw [hstep, ih _ hchars]
        simp
  rw [hlist] at hchars hall ⊢
  have hopening : scan done .gap (first :: others ++ rest) =
      scan done (.number [first]) (others ++ rest) := by
    simp [scan, scanStep, gap_of_number hfirst]
  have htoken : numberToken? (others.reverse ++ [first]) = some (.number literal) := by
    have hreverse : (others.reverse ++ [first]).reverse = literal.toList := by
      simp [hlist]
    rw [numberToken?, hreverse, hlist, if_pos hall, ← hlist, String.ofList_toList]
  rw [hopening, hread others [first] (List.forall_mem_cons.mp hchars).2]
  refine scan_of_stops ?_ ?_ hrest done
  · simp [scanEnd, htoken]
  · intro c _ hnumber
    simp [scanStep, hnumber, htoken]

/-- A scan between tokens passes over blanks. -/
theorem scan_blanks
    {gap : List Char}
    (h : ∀ c ∈ gap, c ∈ blanks)
    (done : List Token)
    (rest : List Char) :
    scan done .gap (gap ++ rest) = scan done .gap rest := by
  have hstep : ∀ c ∈ blanks, scanStep .gap c = some ([], .gap) :=
    List.all_iff_forall_prop.mp (by decide)
  induction gap with
  | nil =>
      rfl
  | cons c gap ih =>
      obtain ⟨hc, hgap⟩ := List.forall_mem_cons.mp h
      simp [scan, hstep c hc, ih hgap]

/-- A scan reads a token from any of its spellings, if the token ends there. -/
theorem Token.SpelledAs.scan
    {token : Token}
    {written : List Char}
    (h : token.SpelledAs written)
    {rest : List Char}
    (hrest : token.isMark = Bool.true ∨ Stops rest)
    (done : List Token) :
    Json.scan done .gap (written ++ rest) = Json.scan (token :: done) .gap rest := by
  cases h with
  | @mark token c hmark =>
      have hstep : ∀ mark ∈ marks, scanStep .gap mark.2 = some ([mark.1], .gap) := by
        decide
      simp [Json.scan, hstep _ hmark]
  | null =>
      have hword : wordToken? ['l', 'l', 'u', 'n'] = some .null := rfl
      exact scan_word hword (hrest.resolve_left (by decide)) done
  | true =>
      have hword : wordToken? ['e', 'u', 'r', 't'] = some (.bool Bool.true) := rfl
      exact scan_word hword (hrest.resolve_left (by decide)) done
  | false =>
      have hword : wordToken? ['e', 's', 'l', 'a', 'f'] = some (.bool Bool.false) := rfl
      exact scan_word hword (hrest.resolve_left (by decide)) done
  | number hnumber =>
      exact scan_number hnumber (hrest.resolve_left (by simp [isMark])) done
  | text hbody htext =>
      rw [hbody.scan_literal, stringToken_of_names hbody htext]
  | textless hbody hnone =>
      rw [hbody.scan_literal, stringToken_of_names_none hbody hnone]

/-- Tokens that begin with a mark, or none, are written with something in front that stops. -/
theorem Lays.stops
    {tokens : List Token}
    {text : List Char}
    (h : Lays tokens text)
    (hmark : ∀ token ∈ tokens.head?, token.isMark = true) :
    Stops text := by
  cases h with
  | nil hgap =>
      exact fun c hc => Or.inl (hgap c (List.mem_of_mem_head? hc))
  | @cons token tokens gap written rest hgap htoken hrest =>
      intro c hc
      cases gap with
      | nil =>
          have hfirst := hmark token rfl
          cases htoken with
          | mark hmark =>
              obtain rfl : _ = c := Option.some.inj hc
              exact Or.inr (List.mem_map_of_mem hmark)
          | _ =>
              cases hfirst
      | cons first gap =>
          obtain rfl : first = c := Option.some.inj hc
          exact Or.inl (hgap first List.mem_cons_self)

/-- Tokens of which no two side by side are words or numbers are read from any layout. -/
theorem Lays.scan
    {tokens : List Token}
    {text : List Char}
    (h : Lays tokens text)
    (happart : tokens.IsChain Token.Apart)
    (done : List Token) :
    Json.scan done .gap text = some (done.reverse ++ tokens) := by
  induction h generalizing done with
  | nil hgap =>
      have hscan := scan_blanks hgap done []
      rw [List.append_nil] at hscan
      rw [hscan]
      simp [Json.scan, scanEnd]
  | @cons token tokens gap written rest hgap htoken hrest ih =>
      obtain ⟨hnext, htokens⟩ := List.isChain_cons.mp happart
      have hstops : token.isMark = true ∨ Stops rest := by
        by_cases hmark : token.isMark = true
        · exact Or.inl hmark
        · exact Or.inr (hrest.stops fun next hmem => (hnext next hmem).resolve_left hmark)
      rw [scan_blanks hgap, htoken.scan hstops, ih htokens]
      simp

/-- Whether of two tokens side by side one is always a mark, and the first one of all is. -/
def MarkedOff (tokens : List Token) : Prop :=
  (∀ token ∈ tokens.head?, token.isMark = true) ∧ tokens.IsChain Token.Apart

theorem MarkedOff.nil : MarkedOff [] :=
  ⟨by simp, List.isChain_nil⟩

/-- A mark stands beside anything. -/
theorem MarkedOff.mark
    {token : Token}
    {tokens : List Token}
    (htoken : token.isMark = true)
    (htokens : tokens.IsChain Token.Apart) :
    MarkedOff (token :: tokens) :=
  ⟨fun _ hfirst => Option.some.inj hfirst ▸ htoken,
    List.isChain_cons.mpr ⟨fun _ _ => Or.inl htoken, htokens⟩⟩

/-- A token stands in front of a mark. -/
theorem MarkedOff.cons
    {tokens : List Token}
    (h : MarkedOff tokens)
    (token : Token) :
    (token :: tokens).IsChain Token.Apart :=
  List.isChain_cons.mpr ⟨fun next hnext => Or.inr (h.1 next hnext), h.2⟩

end Json
end MathBlocks
