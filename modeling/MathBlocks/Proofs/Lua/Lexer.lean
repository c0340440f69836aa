import MathBlocks.Decimal.Numeral
import MathBlocks.Names.Identifier

/-!
# The words of Lua expressions

Cuts the text of a Lua expression into tokens: names and keywords, numerals, operators and
brackets. As in the language, a token is the longest that can be read, a point before a digit
begins a numeral, and two minus signs begin a comment, which no expression here has.

The lexer looks at one character after the other and keeps what may still grow in a `Pending`.
The laws say when the tokens of a text are those of its parts.
-/

namespace MathBlocks
namespace Lua

/-- The operators with two operands; the minus sign also stands before a single one. -/
inductive Operator where
  | power
  | times
  | over
  | modulo
  | plus
  | minus
  | equal
  | unequal
  | less
  | lessEqual
  | greater
  | greaterEqual
  deriving DecidableEq, Repr

/-- The tokens of expressions. -/
inductive Token where
  /-- A name or a keyword. -/
  | word (text : String)
  | numeral (text : String)
  | operator (operator : Operator)
  | dot
  | comma
  | openParen
  | closeParen
  | openBrace
  | closeBrace
  deriving DecidableEq, Repr

/-- What has been read of a token that may still go on, last character first. -/
inductive Pending where
  | nothing
  | word (text : List Char)
  | numeral (text : List Char)
  /-- A sign that makes another token together with the character after it. -/
  | sign (c : Char)
  deriving DecidableEq, Repr

/-- The token of a character that is one whatever follows it. -/
def mark? : Char → Option Token
  | '+' => some (.operator .plus)
  | '*' => some (.operator .times)
  | '/' => some (.operator .over)
  | '%' => some (.operator .modulo)
  | '^' => some (.operator .power)
  | '(' => some .openParen
  | ')' => some .closeParen
  | '\x7b' => some .openBrace
  | '\x7d' => some .closeBrace
  | ',' => some .comma
  | _ => none

/-- The characters whose token depends on the character after them. -/
def signs : List Char :=
  ['-', '=', '~', '<', '>', '.']

/-- The token of such a character by itself. -/
def sign? : Char → Option Token
  | '-' => some (.operator .minus)
  | '<' => some (.operator .less)
  | '>' => some (.operator .greater)
  | '.' => some .dot
  | _ => none

/-- The token of two such characters together. -/
def pair? : Char → Char → Option Token
  | '=', '=' => some (.operator .equal)
  | '~', '=' => some (.operator .unequal)
  | '<', '=' => some (.operator .lessEqual)
  | '>', '=' => some (.operator .greaterEqual)
  | _, _ => none

/-- The first character of a token, or white space: what it completes and what it leaves open. -/
def begin? (c : Char) : Option (List Token × Pending) :=
  if c.isWhitespace then some ([], .nothing)
  else if c.isDigit then some ([], .numeral [c])
  else if Identifier.isPart c then some ([], .word [c])
  else if c ∈ signs then some ([], .sign c)
  else (mark? c).map fun token => ([token], .nothing)

namespace Pending

/-- Whether a character goes on with what is pending. -/
def grows : Pending → Char → Bool
  | .nothing, _ => false
  | .word _, c => Identifier.isPart c
  | .numeral _, c => Identifier.isPart c || c = '.'
  | .sign '.', c => c.isDigit || c = '.'
  | .sign '-', c => c = '-'
  | .sign d, c => (pair? d c).isSome

/-- What is pending together with a character that goes on with it. -/
def grow : Pending → Char → Option (List Token × Pending)
  | .nothing, _ => none
  | .word text, c => some ([], .word (c :: text))
  | .numeral text, c => some ([], .numeral (c :: text))
  | .sign '.', c => if c.isDigit then some ([], .numeral [c, '.']) else none
  | .sign '-', _ => none
  | .sign d, c => (pair? d c).map fun token => ([token], .nothing)

/-- The tokens of what is pending when it does not go on. -/
def finish : Pending → Option (List Token)
  | .nothing => some []
  | .word text => some [.word (String.ofList text.reverse)]
  | .numeral text =>
      if (Numeral.decimal? text.reverse).isSome then
        some [.numeral (String.ofList text.reverse)]
      else
        none
  | .sign c => (sign? c).map fun token => [token]

/-- Reads one more character. -/
def step
    (pending : Pending)
    (c : Char) : Option (List Token × Pending) :=
  if pending.grows c then
    pending.grow c
  else
    pending.finish.bind fun done =>
      (begin? c).map fun next => (done ++ next.1, next.2)

end Pending

/-- The tokens of a text behind what is pending. -/
def lexFrom :
    Pending → List Char → Option (List Token)
  | pending, [] => pending.finish
  | pending, c :: rest =>
      (pending.step c).bind fun next =>
        (lexFrom next.2 rest).map fun tokens => next.1 ++ tokens

/-- The tokens of a text. -/
def lex (text : String) : Option (List Token) :=
  lexFrom .nothing text.toList

/-- The tokens that a text completes and what it leaves open. -/
def scan :
    Pending → List Char → Option (List Token × Pending)
  | pending, [] => some ([], pending)
  | pending, c :: rest =>
      (pending.step c).bind fun next =>
        (scan next.2 rest).map fun last => (next.1 ++ last.1, last.2)

/-- A text is read as a first part of it and then as the rest behind what that leaves open. -/
theorem lexFrom_append
    (pending : Pending)
    (first rest : List Char) :
    lexFrom pending (first ++ rest) =
      (scan pending first).bind fun out =>
        (lexFrom out.2 rest).map fun tokens => out.1 ++ tokens := by
  induction first generalizing pending with
  | nil =>
      simp [scan]
  | cons c first ih =>
      simp only [List.cons_append, lexFrom, scan]
      cases pending.step c with
      | none =>
          rfl
      | some next =>
          simp only [Option.bind_some, ih]
          cases scan next.2 first with
          | none =>
              rfl
          | some out =>
              simp [Function.comp_def]

/-- A first part that leaves nothing open is read by itself. -/
theorem lex_append_of_scan
    {first rest : String}
    {tokens others : List Token}
    (hfirst : scan .nothing first.toList = some (tokens, .nothing))
    (hrest : lex rest = some others) :
    lex (first ++ rest) = some (tokens ++ others) := by
  have hlex : lexFrom .nothing rest.toList = some others := hrest
  simp [lex, String.toList_append, lexFrom_append, hfirst, hlex]

/-- The characters that go on with nothing that is pending. -/
def stops : List Char :=
  [' ', ',', '(', ')']

/-- Nothing pending goes on with such a character. -/
theorem grows_stop
    (pending : Pending)
    {c : Char}
    (hc : c ∈ stops) :
    pending.grows c = false := by
  have hcases : c = ' ' ∨ c = ',' ∨ c = '(' ∨ c = ')' := by
    simpa [stops] using hc
  cases pending with
  | nothing =>
      rfl
  | word text =>
      rcases hcases with rfl | rfl | rfl | rfl <;> rfl
  | numeral text =>
      rcases hcases with rfl | rfl | rfl | rfl <;> rfl
  | sign d =>
      by_cases hdot : d = '.'
      · rw [hdot]
        rcases hcases with rfl | rfl | rfl | rfl <;> rfl
      by_cases hminus : d = '-'
      · rw [hminus]
        rcases hcases with rfl | rfl | rfl | rfl <;> rfl
      rcases hcases with rfl | rfl | rfl | rfl <;> simp [Pending.grows, pair?]

/-- A part that ends before such a character is read by itself. -/
theorem lexFrom_append_stop
    {pending : Pending}
    {first rest : List Char}
    {c : Char}
    {tokens others : List Token}
    (hc : c ∈ stops)
    (hfirst : lexFrom pending first = some tokens)
    (hrest : lexFrom .nothing (c :: rest) = some others) :
    lexFrom pending (first ++ c :: rest) = some (tokens ++ others) := by
  induction first generalizing pending tokens with
  | nil =>
      have hfinish : pending.finish = some tokens := hfirst
      simp only [lexFrom, Pending.step, Pending.grows, Pending.finish] at hrest
      simp only [List.nil_append, lexFrom, Pending.step, grows_stop pending hc, hfinish]
      cases hbegin : begin? c with
      | none =>
          simp [hbegin] at hrest
      | some next =>
          simp [hbegin] at hrest ⊢
          obtain ⟨last, hlast, rfl⟩ := hrest
          exact ⟨last, hlast, rfl⟩
  | cons d first ih =>
      simp only [List.cons_append, lexFrom] at hfirst ⊢
      cases hstep : pending.step d with
      | none =>
          simp [hstep] at hfirst
      | some next =>
          simp only [hstep, Option.bind_some, Option.map_eq_some_iff] at hfirst ⊢
          obtain ⟨last, hlast, rfl⟩ := hfirst
          exact ⟨last ++ others, ih hlast, by simp⟩

theorem lex_append_stop
    {first rest : String}
    {c : Char}
    {tokens others : List Token}
    (hc : c ∈ stops)
    (hhead : rest.toList.head? = some c)
    (hfirst : lex first = some tokens)
    (hrest : lex rest = some others) :
    lex (first ++ rest) = some (tokens ++ others) := by
  obtain ⟨tail, htail⟩ : ∃ tail, rest.toList = c :: tail := by
    cases hlist : rest.toList with
    | nil =>
        simp [hlist] at hhead
    | cons d tail =>
        simp only [hlist, List.head?_cons, Option.some.injEq] at hhead
        exact ⟨tail, by rw [hhead]⟩
  unfold lex at hfirst hrest ⊢
  rw [String.toList_append]
  rw [htail] at hrest ⊢
  exact lexFrom_append_stop hc hfirst hrest

/-- A minus sign is a token of its own before anything but another one. -/
theorem lex_minus
    {code : String}
    {tokens : List Token}
    (hhead : code.toList.head? ≠ some '-')
    (hcode : lex code = some tokens) :
    lex ("-" ++ code) = some (.operator .minus :: tokens) := by
  have hscan : scan .nothing "-".toList = some ([], .sign '-') := by
    decide
  unfold lex at hcode ⊢
  rw [String.toList_append, lexFrom_append, hscan]
  cases hlist : code.toList with
  | nil =>
      rw [hlist] at hcode
      have hnone : some [] = some tokens := hcode
      simpa [lexFrom, Pending.finish, sign?] using hnone
  | cons c rest =>
      have hc : c ≠ '-' := by
        simpa [hlist] using hhead
      rw [hlist] at hcode
      simp only [lexFrom, Pending.step, Pending.grows, Pending.finish] at hcode
      simp only [Option.bind_some, lexFrom, Pending.step, Pending.grows, hc,
        Pending.finish, sign?]
      cases hbegin : begin? c with
      | none =>
          simp [hbegin] at hcode
      | some next =>
          simp [hbegin] at hcode ⊢
          obtain ⟨last, hlast, rfl⟩ := hcode
          exact ⟨last, hlast, rfl⟩

theorem isPart_of_isDigit
    {c : Char}
    (hc : c.isDigit = true) :
    Identifier.isPart c = true := by
  simp [Identifier.isPart, Char.isAlphanum, hc]

theorem isWhitespace_of_isPart
    {c : Char}
    (hc : Identifier.isPart c = true) :
    c.isWhitespace = false := by
  cases hwhite : c.isWhitespace with
  | false =>
      rfl
  | true =>
      have hcases : c = ' ' ∨ c = '\t' ∨ c = '\r' ∨ c = '\n' := by
        simpa [Char.isWhitespace, or_assoc] using hwhite
      rcases hcases with rfl | rfl | rfl | rfl <;> exact absurd hc (by decide)

/-- A run of characters of identifiers goes on with a word. -/
theorem lexFrom_word
    (text rest : List Char)
    (hrest : ∀ c ∈ rest, Identifier.isPart c = true) :
    lexFrom (.word text) rest = some [.word (String.ofList (text.reverse ++ rest))] := by
  induction rest generalizing text with
  | nil =>
      simp [lexFrom, Pending.finish]
  | cons c rest ih =>
      have hc : Identifier.isPart c = true := hrest c (by simp)
      have htail := ih (c :: text) (fun d hd => hrest d (by simp [hd]))
      simp [lexFrom, Pending.step, Pending.grows, Pending.grow, hc, htail]

/-- An identifier is one token. -/
theorem lex_identifier
    {text : String}
    (htext : Identifier.IsIdentifier text.toList) :
    lex text = some [.word text] := by
  obtain ⟨c, rest, hlist, hdigit, hparts⟩ := htext
  have hc : Identifier.isPart c = true := hparts c (by simp)
  have hblank := isWhitespace_of_isPart hc
  have hrun := lexFrom_word [c] rest (fun d hd => hparts d (by simp [hd]))
  have htext : String.ofList (c :: rest) = text := by
    rw [← hlist, String.ofList_toList]
  unfold lex
  rw [hlist]
  simp [lexFrom, Pending.step, Pending.grows, Pending.finish, begin?, hblank, hdigit, hc, hrun,
    htext]

/-- A run of digits and points goes on with a numeral. -/
theorem lexFrom_numeral
    (text rest : List Char)
    (hrest : ∀ c ∈ rest, c.isDigit = true ∨ c = '.')
    (hvalid : (Numeral.decimal? (text.reverse ++ rest)).isSome = true) :
    lexFrom (.numeral text) rest = some [.numeral (String.ofList (text.reverse ++ rest))] := by
  induction rest generalizing text with
  | nil =>
      simp_all [lexFrom, Pending.finish]
  | cons c rest ih =>
      have hgrows : (Identifier.isPart c || c = '.') = true := by
        rcases hrest c (by simp) with hc | rfl
        · simp [isPart_of_isDigit hc]
        · decide
      have htail := ih (c :: text) (fun d hd => hrest d (by simp [hd])) (by simpa using hvalid)
      simp only [lexFrom, Pending.step, Pending.grows, Pending.grow, hgrows]
      simp [htail]

/-- A digit with digits and points after it is one token, if it is a decimal. -/
theorem lex_numeral
    {c : Char}
    {rest : List Char}
    (hc : c.isDigit = true)
    (hrest : ∀ d ∈ rest, d.isDigit = true ∨ d = '.')
    (hvalid : (Numeral.decimal? (c :: rest)).isSome = true) :
    lex (String.ofList (c :: rest)) = some [.numeral (String.ofList (c :: rest))] := by
  have hblank := isWhitespace_of_isPart (isPart_of_isDigit hc)
  have hrun := lexFrom_numeral [c] rest hrest (by simpa using hvalid)
  unfold lex
  rw [String.toList_ofList]
  simp [lexFrom, Pending.step, Pending.grows, Pending.finish, begin?, hblank, hc, hrun]

end Lua
end MathBlocks
