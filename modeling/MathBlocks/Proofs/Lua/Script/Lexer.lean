import MathBlocks.Proofs.Lua.Grammar

/-!
# The words of Lua functions

Cuts the text of a function into tokens. To the tokens of expressions come keywords, strings on one
line, the signs for assignments and lengths, and the brackets of table entries. A comment goes up to
the end of its line; long comments and strings with escapes are not read. Every line is read by
itself, and blanks in front of it make no difference.
-/

namespace MathBlocks
namespace Lua
namespace Script

/-- The tokens of functions. -/
inductive Token where
  | keyword (word : String)
  | name (text : String)
  | numeral (text : String)
  | string (text : String)
  | operator (operator : Operator)
  | length
  | assign
  | dot
  | comma
  | openParen
  | closeParen
  | openBrace
  | closeBrace
  | openBracket
  | closeBracket
  deriving DecidableEq, Repr

/-- The token of a word. -/
def wordToken (text : String) : Token :=
  if text ∈ keywords then .keyword text else .name text

/-- What has been read of a token or a comment that may still go on, last character first. -/
inductive Pending where
  | nothing
  | word (text : List Char)
  | numeral (text : List Char)
  /-- A sign that may make something else together with the character after it. -/
  | sign (c : Char)
  | string (quote : Char) (text : List Char)
  /-- A comment; a bracket right at its start would make it a long one. -/
  | comment (atStart : Bool)
  deriving DecidableEq, Repr

/-- The token of a character that is one whatever follows it. -/
def mark? : Char → Option Token
  | '+' => some (.operator .plus)
  | '*' => some (.operator .times)
  | '/' => some (.operator .over)
  | '%' => some (.operator .modulo)
  | '^' => some (.operator .power)
  | '#' => some .length
  | '(' => some .openParen
  | ')' => some .closeParen
  | '\x7b' => some .openBrace
  | '\x7d' => some .closeBrace
  | '[' => some .openBracket
  | ']' => some .closeBracket
  | ',' => some .comma
  | _ => none

/-- The token of a sign by itself. -/
def sign? : Char → Option Token
  | '-' => some (.operator .minus)
  | '<' => some (.operator .less)
  | '>' => some (.operator .greater)
  | '=' => some .assign
  | '.' => some .dot
  | _ => none

/-- The token of two signs together. -/
def pair? : Char → Char → Option Token
  | '=', '=' => some (.operator .equal)
  | '~', '=' => some (.operator .unequal)
  | '<', '=' => some (.operator .lessEqual)
  | '>', '=' => some (.operator .greaterEqual)
  | _, _ => none

/-- The first character of a token, or white space: what it completes and what it leaves open. -/
def begin? (c : Char) : Option (List Token × Pending) :=
  if c.isWhitespace then some ([], .nothing)
  else if c.isDigit then some ([], .numeral [c])
  else if Identifier.isPart c then some ([], .word [c])
  else if c = '"' || c = '\'' then some ([], .string c [])
  else if c ∈ signs then some ([], .sign c)
  else (mark? c).map fun token => ([token], .nothing)

namespace Pending

/-- Whether a character goes on with what is pending. -/
def grows : Pending → Char → Bool
  | .nothing, _ => false
  | .word _, c => Identifier.isPart c
  | .numeral _, c => Identifier.isPart c || c = '.'
  | .sign '.', c => c.isDigit || c = '.'
  | .sign '-', c => c = '-'
  | .sign d, c => (pair? d c).isSome
  | .string _ _, c => c ≠ '\n'
  | .comment _, c => c ≠ '\n'

/-- What is pending together with a character that goes on with it. -/
def grow : Pending → Char → Option (List Token × Pending)
  | .nothing, _ => none
  | .word text, c => some ([], .word (c :: text))
  | .numeral text, c => some ([], .numeral (c :: text))
  | .sign '.', c => if c.isDigit then some ([], .numeral [c, '.']) else none
  | .sign '-', _ => some ([], .comment true)
  | .sign d, c => (pair? d c).map fun token => ([token], .nothing)
  | .string quote text, c =>
      if c = quote then some ([.string (String.ofList text.reverse)], .nothing)
      else if c = '\\' then none
      else some ([], .string quote (c :: text))
  | .comment atStart, c => if atStart && c = '[' then none else some ([], .comment false)

/-- The tokens of what is pending when it does not go on. -/
def finish : Pending → Option (List Token)
  | .nothing => some []
  | .word text => some [wordToken (String.ofList text.reverse)]
  | .numeral text =>
      if (Numeral.decimal? text.reverse).isSome then
        some [.numeral (String.ofList text.reverse)]
      else
        none
  | .sign c => (sign? c).map fun token => [token]
  | .string _ _ => none
  | .comment _ => some []

/-- Reads one more character. -/
def step
    (pending : Pending)
    (c : Char) : Option (List Token × Pending) :=
  if pending.grows c then
    pending.grow c
  else
    pending.finish.bind fun done =>
      (begin? c).map fun next => (done ++ next.1, next.2)

/-- A line feed ends what is pending, and a string on one line must have ended before it. -/
theorem step_lineFeed
    (pending : Pending) :
    pending.step '\n' = pending.finish.map fun done => (done, .nothing) := by
  have hgrows : pending.grows '\n' = false := by
    cases pending with
    | sign d =>
        unfold grows
        split <;> simp_all [pair?]
    | _ =>
        rfl
  have hbegin : begin? '\n' = some ([], .nothing) := by
    decide
  unfold step
  rw [hgrows, hbegin]
  cases pending.finish <;> simp

end Pending

/-- The tokens of a text behind what is pending. -/
def lexFrom :
    Pending → List Char → Option (List Token)
  | pending, [] => pending.finish
  | pending, c :: rest =>
      (pending.step c).bind fun next =>
        (lexFrom next.2 rest).map fun tokens => next.1 ++ tokens

/-- The tokens of a text. -/
def lex (text : String) : Option (List Token) :=
  lexFrom .nothing text.toList

/-- A line is read by itself. -/
theorem lexFrom_lineFeed
    (pending : Pending)
    (line rest : List Char) :
    lexFrom pending (line ++ '\n' :: rest) =
      (lexFrom pending line).bind fun first =>
        (lexFrom .nothing rest).map fun tokens => first ++ tokens := by
  induction line generalizing pending with
  | nil =>
      rw [List.nil_append, lexFrom, lexFrom, pending.step_lineFeed]
      cases pending.finish <;> rfl
  | cons c line ih =>
      rw [List.cons_append, lexFrom, lexFrom]
      cases pending.step c with
      | none =>
          rfl
      | some next =>
          simp only [Option.bind_some, ih]
          cases lexFrom next.2 line with
          | none =>
              rfl
          | some tokens =>
              simp [Function.comp_def]

/-- The tokens of a text are those of its lines. -/
theorem lex_lines
    {lines : List String}
    (h : lines ≠ []) :
    lex ("\n".intercalate lines) = (lines.mapM lex).map List.flatten := by
  induction lines with
  | nil =>
      exact absurd rfl h
  | cons line rest ih =>
      cases rest with
      | nil =>
          rw [String.intercalate_singleton]
          cases hline : lex line <;> simp [hline]
      | cons next rest =>
          have hfeed : (line ++ "\n" ++ "\n".intercalate (next :: rest)).toList =
              line.toList ++ '\n' :: ("\n".intercalate (next :: rest)).toList := by
            simp
          have hrest := ih (List.cons_ne_nil _ _)
          unfold lex at hrest ⊢
          rw [String.intercalate_cons_cons, hfeed, lexFrom_lineFeed, hrest]
          rw [List.mapM_cons (a := line)]
          cases lexFrom .nothing line.toList <;>
            cases (next :: rest).mapM (fun text => lexFrom .nothing text.toList) <;> simp

/-- The tokens that a text completes and what it leaves open. -/
def scan :
    Pending → List Char → Option (List Token × Pending)
  | pending, [] => some ([], pending)
  | pending, c :: rest =>
      (pending.step c).bind fun next =>
        (scan next.2 rest).map fun last => (next.1 ++ last.1, last.2)

/-- A text is read as a first part of it and then as the rest behind what that leaves open. -/
theorem lexFrom_append
    (pending : Pending)
    (first rest : List Char) :
    lexFrom pending (first ++ rest) =
      (scan pending first).bind fun out =>
        (lexFrom out.2 rest).map fun tokens => out.1 ++ tokens := by
  induction first generalizing pending with
  | nil =>
      simp [scan]
  | cons c first ih =>
      simp only [List.cons_append, lexFrom, scan]
      cases pending.step c with
      | none =>
          rfl
      | some next =>
          simp only [Option.bind_some, ih]
          cases scan next.2 first with
          | none =>
              rfl
          | some out =>
              simp [Function.comp_def]

/-- What is read where nothing is pending does not depend on blanks in front of it. -/
theorem lexFrom_blanks
    {blanks : List Char}
    (h : ∀ c ∈ blanks, c = ' ' ∨ c = '\t')
    (rest : List Char) :
    lexFrom .nothing (blanks ++ rest) = lexFrom .nothing rest := by
  induction blanks with
  | nil =>
      rfl
  | cons c blanks ih =>
      have hstep : Pending.nothing.step c = some ([], .nothing) := by
        rcases h c List.mem_cons_self with rfl | rfl <;> decide
      have hrest := ih fun d hd => h d (List.mem_cons_of_mem _ hd)
      rw [List.cons_append, lexFrom, hstep, Option.bind_some, hrest]
      cases lexFrom .nothing rest <;> rfl

/-- A word goes on as long as characters of words follow, and then it is a token. -/
theorem lexFrom_word
    (text word rest : List Char)
    (hword : ∀ c ∈ word, Identifier.isPart c = true)
    (hrest : ∀ c ∈ rest.head?, Identifier.isPart c = false) :
    lexFrom (.word text) (word ++ rest) =
      (lexFrom .nothing rest).map fun tokens =>
        wordToken (String.ofList (text.reverse ++ word)) :: tokens := by
  induction word generalizing text with
  | nil =>
      rw [List.nil_append, List.append_nil]
      cases rest with
      | nil =>
          rfl
      | cons c rest =>
          have hc := hrest c rfl
          simp only [lexFrom, Pending.step, Pending.grows, Pending.finish, hc]
          cases begin? c with
          | none =>
              rfl
          | some next =>
              simp [Function.comp_def]
  | cons c word ih =>
      have hc := hword c List.mem_cons_self
      have hgo := ih (c :: text) fun d hd => hword d (List.mem_cons_of_mem _ hd)
      rw [List.cons_append, lexFrom]
      simp only [Pending.step, Pending.grows, Pending.grow, hc, if_true, Option.bind_some, hgo]
      simp [Function.comp_def]

/-- A name is one token, if what follows does not go on with it. -/
theorem lexFrom_name
    {name : String}
    (hproper : Identifier.IsIdentifier name.toList)
    (hkeyword : name ∉ keywords)
    {rest : List Char}
    (hrest : ∀ c ∈ rest.head?, Identifier.isPart c = false) :
    lexFrom .nothing (name.toList ++ rest) =
      (lexFrom .nothing rest).map fun tokens => .name name :: tokens := by
  obtain ⟨c, word, hlist, hdigit, hparts⟩ := hproper
  have hc := hparts c List.mem_cons_self
  have hstep : Pending.nothing.step c = some ([], .word [c]) := by
    simp [Pending.step, Pending.grows, Pending.finish, begin?, isWhitespace_of_isPart hc, hdigit,
      hc]
  have hword := lexFrom_word [c] word rest
    (fun d hd => hparts d (List.mem_cons_of_mem _ hd)) hrest
  have htoken : wordToken (String.ofList ([c].reverse ++ word)) = .name name := by
    have hname : String.ofList ([c].reverse ++ word) = name := by
      rw [← String.toList_inj, hlist]
      simp
    rw [hname, wordToken, if_neg hkeyword]
  rw [hlist, List.cons_append, lexFrom, hstep, Option.bind_some, hword, htoken]
  cases lexFrom .nothing rest <;> rfl

/-- A name between two parts of a text, the first of which leaves nothing open. -/
theorem lex_around_name
    {first name last : String}
    {tokens others : List Token}
    (hproper : Identifier.IsIdentifier name.toList)
    (hkeyword : name ∉ keywords)
    (hfirst : scan .nothing first.toList = some (tokens, .nothing))
    (hend : ∀ c ∈ last.toList.head?, Identifier.isPart c = false)
    (hlast : lex last = some others) :
    lex (first ++ name ++ last) = some (tokens ++ .name name :: others) := by
  unfold lex at hlast ⊢
  rw [String.toList_append, String.toList_append, List.append_assoc, lexFrom_append, hfirst,
    Option.bind_some, lexFrom_name hproper hkeyword hend, hlast]
  rfl

end Script
end Lua
end MathBlocks
