import MathBlocks.Proofs.Lua.Regroup

/-!
# Reading code that is put together

Texts that are put together from expressions are read as the trees put together accordingly: an
operator between its operands, a minus sign, parentheses, a call, a list. One lemma for each way
of putting code together; none of them looks into the parts.
-/

namespace MathBlocks
namespace Lua

/-- Whether a text is an expression for a place of that level, with that tree. -/
def Reads
    (allowed : BindingLevel)
    (code : String)
    (tree : Expr) : Prop :=
  ∃ tokens, lex code = some tokens ∧ Derives allowed tokens tree

/-- Whether a text is a list of expressions with commas between them, with those trees. -/
def ReadsList
    (code : String)
    (trees : Exprs) : Prop :=
  ∃ tokens, lex code = some tokens ∧ DerivesList tokens trees

/-- How an operator is written between its operands. -/
def Operator.symbol : Operator → String
  | .power => " ^ "
  | .times => " * "
  | .over => " / "
  | .modulo => " % "
  | .plus => " + "
  | .minus => " - "
  | .equal => " == "
  | .unequal => " ~= "
  | .less => " < "
  | .lessEqual => " <= "
  | .greater => " > "
  | .greaterEqual => " >= "

theorem Reads.loosen
    {level allowed : BindingLevel}
    {code : String}
    {tree : Expr}
    (h : Reads level code tree)
    (hle : level ≤ allowed) :
    Reads allowed code tree := by
  obtain ⟨tokens, hlex, htree⟩ := h
  exact ⟨tokens, hlex, .loosen htree hle⟩

theorem Reads.parses
    {level : BindingLevel}
    {code : String}
    {tree : Expr}
    (h : Reads level code tree) :
    Parses code tree :=
  h.loosen level.le_any

/-- The symbol of an operator is its token, with a space on either side. -/
theorem lex_symbol
    (operator : Operator)
    {right : String}
    {others : List Token}
    (hright : lex right = some others) :
    lex (operator.symbol ++ right) = some (.operator operator :: others) := by
  have hscan : scan .nothing operator.symbol.toList = some ([.operator operator], .nothing) := by
    cases operator <;> decide
  exact lex_append_of_scan hscan hright

/-- An operator between two texts is read as its token between theirs. -/
theorem lex_binary
    (operator : Operator)
    {left right : String}
    {tokens others : List Token}
    (hleft : lex left = some tokens)
    (hright : lex right = some others) :
    lex (left ++ operator.symbol ++ right) = some (tokens ++ .operator operator :: others) := by
  have hhead : (operator.symbol ++ right).toList.head? = some ' ' := by
    cases operator <;> simp [Operator.symbol]
  rw [String.append_assoc]
  exact lex_append_stop (by decide) hhead hleft (lex_symbol operator hright)

theorem Reads.binary
    (operator : Operator)
    {left right : String}
    {first second : Expr}
    (hleft : Reads operator.leftLevel left first)
    (hright : Reads operator.rightLevel right second) :
    Reads operator.level (left ++ operator.symbol ++ right) (.binary operator first second) := by
  obtain ⟨tokens, hlexLeft, hfirst⟩ := hleft
  obtain ⟨others, hlexRight, hsecond⟩ := hright
  exact ⟨_, lex_binary operator hlexLeft hlexRight, .binary operator hfirst hsecond⟩

/-- An operator that regroups between two operands of its own level. -/
theorem Reads.graft
    {operator : Operator}
    (hregroups : operator.regroups = true)
    {left right : String}
    {first second : Expr}
    (hleft : Reads operator.level left first)
    (hright : Reads operator.level right second) :
    Reads operator.level (left ++ operator.symbol ++ right)
      (Expr.graft operator first second) := by
  obtain ⟨tokens, hlexLeft, hfirst⟩ := hleft
  obtain ⟨others, hlexRight, hsecond⟩ := hright
  exact ⟨_, lex_binary operator hlexLeft hlexRight, .graft second hregroups hfirst hsecond⟩

/-- A minus sign and its operand, kept apart if the operand starts with another one. -/
theorem Reads.negate
    {gap code : String}
    {tree : Expr}
    (hgap : gap = if code.toList.head? = some '-' then " " else "")
    (h : Reads .unary code tree) :
    Reads .unary ("-" ++ gap ++ code) (.negate tree) := by
  obtain ⟨tokens, hlex, htree⟩ := h
  refine ⟨.operator .minus :: tokens, ?_, .negate htree⟩
  by_cases hhead : code.toList.head? = some '-'
  · have hscan : scan .nothing "- ".toList = some ([.operator .minus], .nothing) := by
      decide
    rw [hgap, if_pos hhead]
    exact lex_append_of_scan hscan hlex
  · rw [hgap, if_neg hhead, String.append_empty]
    exact lex_minus hhead hlex

/-- Two texts with brackets of a kind around the second one. -/
theorem lex_brackets
    (opening closing : String)
    {inner : String}
    {c : Char}
    {before after tokens : List Token}
    (hopening : scan .nothing opening.toList = some (before, .nothing))
    (hc : c ∈ stops)
    (hhead : closing.toList.head? = some c)
    (hclosing : lex closing = some after)
    (hinner : lex inner = some tokens) :
    lex (opening ++ inner ++ closing) = some (before ++ (tokens ++ after)) := by
  rw [String.append_assoc]
  exact lex_append_of_scan hopening (lex_append_stop hc hhead hinner hclosing)

theorem Reads.group
    {code : String}
    {tree : Expr}
    (h : Reads .any code tree) :
    Reads .atomic ("(" ++ code ++ ")") (.group tree) := by
  obtain ⟨tokens, hlex, htree⟩ := h
  have hwhole : lex ("(" ++ code ++ ")") = some ([.openParen] ++ (tokens ++ [.closeParen])) :=
    lex_brackets "(" ")" (c := ')') (by decide) (by decide) (by decide) (by decide) hlex
  exact ⟨_, hwhole, .group htree⟩

theorem Reads.call
    {function code : String}
    {tree : Expr}
    {trees : Exprs}
    (hfunction : Reads .call function tree)
    (hcallee : tree.isPrefix = true)
    (harguments : ReadsList code trees) :
    Reads .call (function ++ "(" ++ code ++ ")") (.call tree trees) := by
  obtain ⟨tokens, hlexFunction, htree⟩ := hfunction
  obtain ⟨others, hlexArguments, htrees⟩ := harguments
  have harguments : lex ("(" ++ code ++ ")") = some ([.openParen] ++ (others ++ [.closeParen])) :=
    lex_brackets "(" ")" (c := ')') (by decide) (by decide) (by decide) (by decide) hlexArguments
  have hwhole := lex_append_stop (c := '(') (by decide) (by simp) hlexFunction harguments
  refine ⟨tokens ++ .openParen :: others ++ [.closeParen], ?_, .call htree hcallee htrees⟩
  simpa [String.append_assoc] using hwhole

theorem ReadsList.one
    {code : String}
    {tree : Expr}
    (h : Reads .any code tree) :
    ReadsList code (.one tree) := by
  obtain ⟨tokens, hlex, htree⟩ := h
  exact ⟨tokens, hlex, .one htree⟩

theorem ReadsList.two
    {first second : String}
    {tree next : Expr}
    (hfirst : Reads .any first tree)
    (hsecond : Reads .any second next) :
    ReadsList (first ++ ", " ++ second) (.two tree next) := by
  obtain ⟨tokens, hlexFirst, htree⟩ := hfirst
  obtain ⟨others, hlexSecond, hnext⟩ := hsecond
  have hscan : scan .nothing ", ".toList = some ([.comma], .nothing) := by
    decide
  have hcomma : lex (", " ++ second) = some (.comma :: others) :=
    lex_append_of_scan hscan hlexSecond
  refine ⟨tokens ++ .comma :: others, ?_, .more htree (.one hnext)⟩
  rw [String.append_assoc]
  exact lex_append_stop (c := ',') (by decide) (by simp) hlexFirst hcomma

theorem ReadsList.empty :
    ReadsList "" .empty :=
  ⟨[], rfl, .empty⟩

theorem Reads.name
    {text : String}
    (htext : Identifier.IsIdentifier text.toList)
    (hkeyword : text ∉ keywords) :
    Reads .atomic text (.name text) :=
  ⟨_, lex_identifier htext, .name hkeyword⟩

/-- Whether an entry of the library for numbers is read under its name. -/
structure InLibrary (function : String) : Prop where
  lexed : lex ("math." ++ function) = some [.word "math", .dot, .word function]
  named : function ∉ keywords

instance (function : String) : Decidable (InLibrary function) :=
  decidable_of_iff
    (lex ("math." ++ function) = some [.word "math", .dot, .word function] ∧ function ∉ keywords)
    ⟨fun h => ⟨h.1, h.2⟩, fun h => ⟨h.lexed, h.named⟩⟩

theorem Reads.mathField
    {function : String}
    (hlibrary : InLibrary function) :
    Reads .call ("math." ++ function) (.field (.name "math") function) := by
  have hmath : Derives .call [.word "math"] (.name "math") :=
    .loosen (.name (by decide)) (by decide)
  exact ⟨_, hlibrary.lexed, .field hmath rfl hlibrary.named⟩

theorem Reads.math
    {function code : String}
    {trees : Exprs}
    (hlibrary : InLibrary function)
    (harguments : ReadsList code trees) :
    Reads .call ("math." ++ function ++ "(" ++ code ++ ")") (.math function trees) :=
  Reads.call (.mathField hlibrary) rfl harguments

/-- A text that is a single numeral. -/
theorem Reads.numeral
    {text : String}
    (hlex : lex text = some [.numeral text]) :
    Reads .atomic text (.numeral text) :=
  ⟨_, hlex, .numeral text⟩

end Lua
end MathBlocks
