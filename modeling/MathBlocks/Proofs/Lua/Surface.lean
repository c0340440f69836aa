import MathBlocks.Proofs.Lua.Grammar
import MathBlocks.Proofs.Text.Brackets

/-!
# What expressions look like from outside

The lexer passes every bracket on as a token and refuses two minus signs in a row, which would
begin a comment. The grammar closes all brackets that it opens. So a text that is one complete
expression is balanced, and holds no beginning of a comment.
-/

namespace MathBlocks
namespace Lua

/-- The two characters that a comment begins with. -/
def commentOpener : List Char :=
  ['-', '-']

/-- The bracket that a token is. -/
def Token.bracket? : Token → Option Char
  | .openParen => some '('
  | .closeParen => some ')'
  | .openBrace => some '\x7b'
  | .closeBrace => some '\x7d'
  | _ => none

/-- The brackets among tokens. -/
def brackets (tokens : List Token) : List Char :=
  tokens.filterMap Token.bracket?

@[simp] theorem brackets_nil :
    brackets [] = [] :=
  rfl

@[simp] theorem brackets_cons
    (token : Token)
    (tokens : List Token) :
    brackets (token :: tokens) = token.bracket?.toList ++ brackets tokens := by
  unfold brackets
  rw [List.filterMap_cons]
  cases token.bracket? <;> rfl

@[simp] theorem brackets_append
    (first rest : List Token) :
    brackets (first ++ rest) = brackets first ++ brackets rest :=
  List.filterMap_append

theorem isBracket_of_isPart
    {c : Char}
    (hc : Identifier.isPart c = true) :
    Text.isBracket c = false := by
  cases hbracket : Text.isBracket c with
  | false =>
      rfl
  | true =>
      have hcases := Text.eq_of_isBracket hbracket
      rcases hcases with rfl | rfl | rfl | rfl <;> exact absurd hc (by decide)

theorem brackets_sign?
    {c : Char}
    {token : Token}
    (h : sign? c = some token) :
    brackets [token] = [] := by
  unfold sign? at h
  split at h <;> cases h <;> rfl

theorem brackets_pair?
    {c d : Char}
    {token : Token}
    (h : pair? c d = some token) :
    brackets [token] = [] ∧ Text.isBracket d = false := by
  unfold pair? at h
  split at h <;> cases h <;> decide

theorem brackets_mark?
    {c : Char}
    {token : Token}
    (h : mark? c = some token) :
    brackets [token] = [c].filter Text.isBracket := by
  unfold mark? at h
  split at h <;> cases h <;> decide

/-- What is pending is no bracket. -/
theorem brackets_finish
    {pending : Pending}
    {tokens : List Token}
    (h : pending.finish = some tokens) :
    brackets tokens = [] := by
  cases pending with
  | nothing =>
      cases h
      rfl
  | word text =>
      cases h
      rfl
  | numeral text =>
      simp only [Pending.finish] at h
      split at h
      · cases h
        rfl
      · cases h
  | sign c =>
      obtain ⟨token, hsign, rfl⟩ := Option.map_eq_some_iff.mp h
      exact brackets_sign? hsign

theorem filter_isBracket_of_isPart
    {c : Char}
    (hc : Identifier.isPart c = true) :
    [c].filter Text.isBracket = [] := by
  simp [isBracket_of_isPart hc]

/-- A bracket does not go on with what is pending. -/
theorem brackets_grow
    {pending : Pending}
    {c : Char}
    {next : List Token × Pending}
    (hgrows : pending.grows c = true)
    (h : pending.grow c = some next) :
    brackets next.1 = [c].filter Text.isBracket := by
  have hdigit : c.isDigit = true → [c].filter Text.isBracket = [] :=
    fun hc => filter_isBracket_of_isPart (isPart_of_isDigit hc)
  cases pending with
  | nothing =>
      cases hgrows
  | word text =>
      cases h
      exact (filter_isBracket_of_isPart hgrows).symm
  | numeral text =>
      cases h
      have hcases : Identifier.isPart c = true ∨ c = '.' := by
        simpa [Pending.grows] using hgrows
      rcases hcases with hc | rfl
      · exact (filter_isBracket_of_isPart hc).symm
      · rfl
  | sign d =>
      by_cases hdot : d = '.'
      · rw [hdot, Pending.grow] at h
        split at h
        · cases h
          exact (hdigit ‹_›).symm
        · cases h
      by_cases hminus : d = '-'
      · rw [hminus] at h
        cases h
      · have hgrow : (Pending.sign d).grow c =
            (pair? d c).map fun token => ([token], .nothing) := by
          simp only [Pending.grow]
        rw [hgrow] at h
        obtain ⟨token, hpair, rfl⟩ := Option.map_eq_some_iff.mp h
        obtain ⟨htoken, hc⟩ := brackets_pair? hpair
        simp [htoken, hc]

theorem brackets_begin?
    {c : Char}
    {next : List Token × Pending}
    (h : begin? c = some next) :
    brackets next.1 = [c].filter Text.isBracket := by
  unfold begin? at h
  split at h
  · rename_i hblank
    cases h
    have hcases : c = ' ' ∨ c = '\t' ∨ c = '\r' ∨ c = '\n' := by
      simpa [Char.isWhitespace, or_assoc] using hblank
    rcases hcases with rfl | rfl | rfl | rfl <;> decide
  split at h
  · cases h
    exact (filter_isBracket_of_isPart (isPart_of_isDigit ‹_›)).symm
  split at h
  · cases h
    exact (filter_isBracket_of_isPart ‹_›).symm
  split at h
  · rename_i hsign
    cases h
    have hcases : c = '-' ∨ c = '=' ∨ c = '~' ∨ c = '<' ∨ c = '>' ∨ c = '.' := by
      simpa [signs] using hsign
    rcases hcases with rfl | rfl | rfl | rfl | rfl | rfl <;> rfl
  · obtain ⟨token, hmark, rfl⟩ := Option.map_eq_some_iff.mp h
    exact brackets_mark? hmark

/-- A step passes on the character that is read if it is a bracket, and no other brackets. -/
theorem brackets_step
    {pending : Pending}
    {c : Char}
    {next : List Token × Pending}
    (h : pending.step c = some next) :
    brackets next.1 = [c].filter Text.isBracket := by
  unfold Pending.step at h
  split at h
  · exact brackets_grow ‹_› h
  · obtain ⟨done, hdone, hmap⟩ := Option.bind_eq_some_iff.mp h
    obtain ⟨first, hfirst, rfl⟩ := Option.map_eq_some_iff.mp hmap
    rw [brackets_append, brackets_finish hdone, brackets_begin? hfirst]
    rfl

/-- The brackets among the tokens are those of the text. -/
theorem brackets_lexFrom
    {pending : Pending}
    {text : List Char}
    {tokens : List Token}
    (h : lexFrom pending text = some tokens) :
    brackets tokens = text.filter Text.isBracket := by
  induction text generalizing pending tokens with
  | nil =>
      exact brackets_finish h
  | cons c rest ih =>
      simp only [lexFrom, Option.bind_eq_some_iff, Option.map_eq_some_iff] at h
      obtain ⟨next, hstep, last, hlast, rfl⟩ := h
      rw [brackets_append, brackets_step hstep, ih hlast, ← List.filter_append]
      rfl

/-- A minus sign is left open, as it may begin a comment. -/
theorem step_minus
    {pending : Pending}
    {next : List Token × Pending}
    (h : pending.step '-' = some next) :
    next.2 = .sign '-' := by
  have hbegin : begin? '-' = some ([], .sign '-') := by
    decide
  have hgrows : pending.grows '-' = true → pending.grow '-' = none := by
    intro hgrows
    cases pending with
    | nothing =>
        rfl
    | word text =>
        exact absurd hgrows (by decide : ¬ Identifier.isPart '-' = true)
    | numeral text =>
        exact absurd hgrows (by decide : ¬ (Identifier.isPart '-' || '-' = '.') = true)
    | sign d =>
        unfold Pending.grow
        split <;> simp_all [pair?]
  unfold Pending.step at h
  split at h
  · rw [hgrows ‹_›] at h
    cases h
  · rw [hbegin] at h
    obtain ⟨done, _, hmap⟩ := Option.bind_eq_some_iff.mp h
    cases hmap
    rfl

/-- A text that the lexer reads to its end holds no beginning of a comment. -/
theorem not_commentOpener_of_lexFrom
    {pending : Pending}
    {text : List Char}
    {tokens : List Token}
    (h : lexFrom pending text = some tokens) :
    ¬ commentOpener <:+: text := by
  induction text generalizing pending tokens with
  | nil =>
      decide
  | cons c rest ih =>
      simp only [lexFrom, Option.bind_eq_some_iff, Option.map_eq_some_iff] at h
      obtain ⟨next, hstep, last, hlast, rfl⟩ := h
      rw [List.infix_cons_iff, not_or]
      refine ⟨?_, ih hlast⟩
      rintro ⟨behind, hopener⟩
      obtain ⟨rfl, rfl⟩ := List.cons.inj hopener
      -- the second minus sign finds the first one pending, and is refused
      rw [step_minus hstep] at hlast
      cases hlast

mutual

/-- An expression closes the brackets that it opens. -/
theorem Derives.balanced
    {level : BindingLevel}
    {tokens : List Token}
    {tree : Expr} :
    Derives level tokens tree → Text.Balanced (brackets tokens)
  | .nil => Text.balanced_nil
  | .numeral _ => Text.balanced_nil
  | .name _ => Text.balanced_nil
  | .list hitems => by
      have hclosing : Text.closing? '\x7b' = some '\x7d' := rfl
      simpa [Token.bracket?] using hitems.balanced.enclose hclosing
  | .group hinner => by
      simpa [Token.bracket?] using hinner.balanced.enclose (rfl : Text.closing? '(' = some ')')
  | .field htable _ _ => by
      simpa [Token.bracket?] using htable.balanced
  | .call hfunction _ harguments => by
      have hlist := harguments.balanced.enclose (rfl : Text.closing? '(' = some ')')
      simpa [Token.bracket?] using hfunction.balanced.append hlist
  | .negate hoperand => by
      simpa [Token.bracket?] using hoperand.balanced
  | .binary _ hleft hright => by
      simpa [Token.bracket?] using hleft.balanced.append hright.balanced
  | .loosen htree _ => htree.balanced

theorem DerivesList.balanced
    {tokens : List Token}
    {trees : Exprs} :
    DerivesList tokens trees → Text.Balanced (brackets tokens)
  | .empty => Text.balanced_nil
  | .one htree => htree.balanced
  | .more htree hrest => by
      simpa [Token.bracket?] using htree.balanced.append hrest.balanced

end

/-- A complete expression is balanced. -/
theorem Parses.balanced
    {code : String}
    {tree : Expr}
    (h : Parses code tree) :
    Text.Balanced code.toList := by
  obtain ⟨tokens, hlex, hderives⟩ := h
  have hbalanced := hderives.balanced
  rw [brackets_lexFrom hlex] at hbalanced
  exact Text.balanced_filter.mp hbalanced

/-- A complete expression holds no beginning of a comment. -/
theorem Parses.not_commentOpener
    {code : String}
    {tree : Expr}
    (h : Parses code tree) :
    ¬ commentOpener <:+: code.toList := by
  obtain ⟨tokens, hlex, _⟩ := h
  exact not_commentOpener_of_lexFrom hlex

end Lua
end MathBlocks
