import MathBlocks.Proofs.Lua.Grammar

/-!
# A text has one tree

The grammar of Lua expressions is not ambiguous. The proof reads an expression from left to right
with a stack of what is not complete yet: an operator takes for its left operand all that binds
at least as tightly as it allows, and the tokens of a derivation bring the reader to the tree of
the derivation, whatever is on the stack and whatever follows.
-/

namespace MathBlocks
namespace Lua

/-- A list of expressions that has been opened: the arguments of a call, or the items of a table. -/
inductive Opening where
  | arguments (function : Expr)
  | items
  deriving DecidableEq

namespace Opening

/-- The token that closes the list. -/
def close : Opening → Token
  | .arguments _ => .closeParen
  | .items => .closeBrace

/-- The expression of the complete list. -/
def build : Opening → Exprs → Expr
  | .arguments function, listed => .call function listed
  | .items, listed => .list listed

end Opening

/-- Something that an operand is missing from. -/
inductive Frame where
  | negate
  | binary (operator : Operator) (left : Expr)
  | group
  /-- A list, with the expressions before the next one, last first. -/
  | listing (opening : Opening) (before : List Expr)
  deriving DecidableEq

/-- What the reader has just read. -/
inductive ReaderState where
  /-- An operand comes next. -/
  | start
  /-- A name comes next, that of an entry of this table. -/
  | dotted (table : Expr)
  /-- This was an operand, as far as is known. -/
  | operand (tree : Expr)
  deriving DecidableEq

/-- Completes all operators that bind as tightly as `limit`, with `tree` as their operand. -/
def settle
    (limit : BindingLevel) :
    List Frame → Expr → List Frame × Expr
  | .negate :: stack, tree =>
      if BindingLevel.unary ≤ limit then settle limit stack (.negate tree)
      else (.negate :: stack, tree)
  | .binary operator left :: stack, tree =>
      if operator.level ≤ limit then settle limit stack (.binary operator left tree)
      else (.binary operator left :: stack, tree)
  | stack, tree => (stack, tree)

/-- Expressions read before others, last first, and these. -/
def collect
    (before : List Expr)
    (rest : Exprs) : Exprs :=
  before.foldl (fun rest tree => .more tree rest) rest

/-- Reads a token where an operand is to begin. -/
def readStart
    (stack : List Frame) :
    Token → Option (List Frame × ReaderState)
  | .word text =>
      if text = "nil" then some (stack, .operand .nil)
      else if text ∈ keywords then none
      else some (stack, .operand (.name text))
  | .numeral text => some (stack, .operand (.numeral text))
  | .operator .minus => some (.negate :: stack, .start)
  | .openParen => some (.group :: stack, .start)
  | .openBrace => some (.listing .items [] :: stack, .start)
  | token =>
      match stack with
      | .listing opening [] :: stack =>
          if token = opening.close then some (stack, .operand (opening.build .empty)) else none
      | _ => none

/-- Reads a token after an operand. -/
def readOperand
    (stack : List Frame)
    (tree : Expr) :
    Token → Option (List Frame × ReaderState)
  | .operator operator =>
      let (stack, tree) := settle operator.leftLevel stack tree
      some (.binary operator tree :: stack, .start)
  | .dot => if tree.isPrefix then some (stack, .dotted tree) else none
  | .openParen =>
      if tree.isPrefix then some (.listing (.arguments tree) [] :: stack, .start) else none
  | token =>
      match settle .any stack tree with
      | (.group :: stack, tree) =>
          if token = .closeParen then some (stack, .operand (.group tree)) else none
      | (.listing opening before :: stack, tree) =>
          if token = .comma then some (.listing opening (tree :: before) :: stack, .start)
          else if token = opening.close then
            some (stack, .operand (opening.build (collect before (.one tree))))
          else none
      | _ => none

/-- Reads a token. -/
def readToken
    (stack : List Frame) :
    ReaderState → Token → Option (List Frame × ReaderState)
  | .start, token => readStart stack token
  | .dotted table, .word name =>
      if name ∈ keywords then none else some (stack, .operand (.field table name))
  | .dotted _, _ => none
  | .operand tree, token => readOperand stack tree token

/-- Reads the rest of an expression. -/
def readFrom
    (stack : List Frame)
    (state : ReaderState) :
    List Token → Option Expr
  | [] =>
      match state with
      | .operand tree =>
          match settle .any stack tree with
          | ([], tree) => some tree
          | _ => none
      | _ => none
  | token :: rest =>
      (readToken stack state token).bind fun next => readFrom next.1 next.2 rest

/-- Reads an expression. -/
def read? (tokens : List Token) : Option Expr :=
  readFrom [] .start tokens

/-- Whether what is on top of a stack waits for an operand of that level. -/
def Admits :
    List Frame → BindingLevel → Prop
  | .negate :: _, level => level ≤ .unary
  | .binary operator _ :: _, level => level ≤ operator.rightLevel
  | _, _ => True

/-- Whether tokens after an expression of that level leave it as it is. -/
def Spares :
    List Token → BindingLevel → Prop
  | [], _ => True
  | .operator operator :: _, level => level ≤ operator.leftLevel
  | token :: _, _ => token = .comma ∨ token = .closeParen ∨ token = .closeBrace

namespace Operator

theorem leftLevel_le
    (operator : Operator) :
    operator.leftLevel ≤ operator.level := by
  cases operator <;> decide

/-- An operator that leaves another one's whole as it is leaves its right operand as it is. -/
theorem rightLevel_le_of_level_le
    {operator next : Operator}
    (h : operator.level ≤ next.leftLevel) :
    operator.rightLevel ≤ next.leftLevel := by
  revert h
  cases operator <;> cases next <;> decide

/-- An operator takes nothing from an operator that admits it as an operand. -/
theorem not_level_le_of_le_rightLevel
    {operator next : Operator}
    (h : next.level ≤ operator.rightLevel) :
    ¬ operator.level ≤ next.leftLevel := by
  revert h
  cases operator <;> cases next <;> decide

/-- An operator takes nothing from a minus sign that admits it as an operand. -/
theorem not_unary_le_of_level_le
    {operator : Operator}
    (h : operator.level ≤ .unary) :
    ¬ BindingLevel.unary ≤ operator.leftLevel := by
  revert h
  cases operator <;> decide

theorem not_level_le_call
    (operator : Operator) :
    ¬ operator.level ≤ .call := by
  cases operator <;> decide

theorem call_le_rightLevel
    (operator : Operator) :
    BindingLevel.call ≤ operator.rightLevel := by
  cases operator <;> decide

end Operator

theorem Admits.mono
    {stack : List Frame}
    {a b : BindingLevel}
    (hb : Admits stack b)
    (hab : a ≤ b) :
    Admits stack a := by
  cases stack with
  | nil =>
      trivial
  | cons frame stack =>
      cases frame with
      | negate =>
          exact BindingLevel.le_trans hab hb
      | binary operator left =>
          exact BindingLevel.le_trans hab hb
      | group =>
          trivial
      | listing opening before =>
          trivial

theorem admits_of_le_call
    {stack : List Frame}
    {level : BindingLevel}
    (h : level ≤ .call) :
    Admits stack level := by
  cases stack with
  | nil =>
      trivial
  | cons frame stack =>
      cases frame with
      | negate =>
          exact BindingLevel.le_trans h (by decide)
      | binary operator left =>
          exact BindingLevel.le_trans h operator.call_le_rightLevel
      | group =>
          trivial
      | listing opening before =>
          trivial

/-- An operator completes nothing on a stack that admits it. -/
theorem settle_of_admits
    {stack : List Frame}
    {operator : Operator}
    (h : Admits stack operator.level)
    (tree : Expr) :
    settle operator.leftLevel stack tree = (stack, tree) := by
  cases stack with
  | nil =>
      rfl
  | cons frame stack =>
      cases frame with
      | negate =>
          have hlevel : operator.level ≤ .unary := h
          simp [settle, Operator.not_unary_le_of_level_le hlevel]
      | binary other left =>
          have hlevel : operator.level ≤ other.rightLevel := h
          simp [settle, Operator.not_level_le_of_le_rightLevel hlevel]
      | group =>
          rfl
      | listing opening before =>
          rfl

theorem Spares.mono
    {tokens : List Token}
    {a b : BindingLevel}
    (hb : Spares tokens b)
    (hab : a ≤ b) :
    Spares tokens a := by
  cases tokens with
  | nil =>
      trivial
  | cons token rest =>
      cases token with
      | operator operator =>
          exact BindingLevel.le_trans hab hb
      | _ =>
          exact hb

/-- Tokens that leave an operator's whole as it is leave its right operand as it is. -/
theorem Spares.right
    {tokens : List Token}
    {operator : Operator}
    (h : Spares tokens operator.level) :
    Spares tokens operator.rightLevel := by
  cases tokens with
  | nil =>
      trivial
  | cons token rest =>
      cases token with
      | operator next =>
          exact Operator.rightLevel_le_of_level_le h
      | _ =>
          exact h

/-- An operand that completes what is on top of the stack may be taken as the whole at once. -/
theorem readFrom_of_settle
    {frame : Frame}
    {stack : List Frame}
    {tree whole : Expr}
    {level : BindingLevel}
    {rest : List Token}
    (hsettle : ∀ limit, level ≤ limit →
      settle limit (frame :: stack) tree = settle limit stack whole)
    (hrest : Spares rest level) :
    readFrom (frame :: stack) (.operand tree) rest = readFrom stack (.operand whole) rest := by
  -- whatever may follow settles the stack first: the end, an operator, a comma or what closes
  cases rest with
  | nil =>
      simp only [readFrom, hsettle .any level.le_any]
  | cons token rest =>
      cases token with
      | operator operator =>
          simp only [readFrom, readToken, readOperand, hsettle _ hrest]
      | word text =>
          simp [Spares] at hrest
      | numeral text =>
          simp [Spares] at hrest
      | dot =>
          simp [Spares] at hrest
      | openParen =>
          simp [Spares] at hrest
      | openBrace =>
          simp [Spares] at hrest
      | comma =>
          simp only [readFrom, readToken, readOperand, hsettle .any level.le_any]
      | closeParen =>
          simp only [readFrom, readToken, readOperand, hsettle .any level.le_any]
      | closeBrace =>
          simp only [readFrom, readToken, readOperand, hsettle .any level.le_any]

theorem Expr.level_le_call_of_isPrefix
    {tree : Expr}
    (h : tree.isPrefix = true) :
    tree.level ≤ .call := by
  have hatomic : BindingLevel.atomic ≤ .call := by
    decide
  cases tree with
  | name text => exact hatomic
  | field table name => exact BindingLevel.le_refl _
  | call function arguments => exact BindingLevel.le_refl _
  | group inner => exact hatomic
  | _ => cases h

mutual

/--
The tokens of an expression bring the reader to its tree, on a stack that admits the expression
and before tokens that leave it as it is; names, calls and the like may stand before any tokens.
-/
theorem Derives.read
    {level : BindingLevel}
    {tokens : List Token}
    {tree : Expr} :
    Derives level tokens tree →
    ∀ (stack : List Frame) (rest : List Token),
      Admits stack tree.level →
      tree.level ≤ .call ∨ Spares rest tree.level →
      readFrom stack .start (tokens ++ rest) = readFrom stack (.operand tree) rest
  | .nil, stack, rest, _, _ => by
      simp [readFrom, readToken, readStart]
  | .numeral text, stack, rest, _, _ => by
      simp [readFrom, readToken, readStart]
  | @Derives.name text hname, stack, rest, _, _ => by
      have hnil : text ≠ "nil" := by
        rintro rfl
        exact hname (by decide)
      simp [readFrom, readToken, readStart, hname, hnil]
  | .list hitems, stack, rest, _, _ => by
      have hread := hitems.read .items [] stack rest (fun _ => rfl)
      simpa [readFrom, readToken, readStart, Opening.close, Opening.build, collect] using hread
  | .group hinner, stack, rest, _, _ => by
      -- the opening parenthesis shields what is inside from the operators below it
      have hread :=
        hinner.read (.group :: stack) (.closeParen :: rest) trivial (Or.inr (Or.inr (Or.inl rfl)))
      simp only [List.cons_append, List.append_assoc, List.nil_append, readFrom, readToken,
        readStart, Option.bind_some]
      rw [hread]
      simp [readFrom, readToken, readOperand, settle]
  | @Derives.field _ _ name htable hcallee hname, stack, rest, _, _ => by
      have hle := Expr.level_le_call_of_isPrefix hcallee
      have hread :=
        htable.read stack (.dot :: .word name :: rest) (admits_of_le_call hle) (Or.inl hle)
      simp only [List.append_assoc, List.cons_append, List.nil_append]
      rw [hread]
      simp [readFrom, readToken, readOperand, hcallee, hname]
  | @Derives.call _ others function _ hfunction hcallee harguments, stack, rest, _, _ => by
      have hle := Expr.level_le_call_of_isPrefix hcallee
      have hread :=
        hfunction.read stack (.openParen :: (others ++ .closeParen :: rest))
          (admits_of_le_call hle) (Or.inl hle)
      have hlist := harguments.read (.arguments function) [] stack rest (fun _ => rfl)
      simp only [List.append_assoc, List.cons_append, List.nil_append]
      rw [hread]
      simpa [readFrom, readToken, readOperand, hcallee, Opening.close, Opening.build, collect]
        using hlist
  | @Derives.negate _ operand hoperand, stack, rest, hadmits, hspares => by
      have hle : operand.level ≤ .unary := hoperand.level_le
      have hrest : Spares rest .unary := by
        rcases hspares with hcall | hrest
        · exact absurd hcall (show ¬ BindingLevel.unary ≤ .call by decide)
        · exact hrest
      have hread := hoperand.read (.negate :: stack) rest hle (Or.inr (hrest.mono hle))
      have hwhole : readFrom (.negate :: stack) (.operand operand) rest =
          readFrom stack (.operand (.negate operand)) rest := by
        refine readFrom_of_settle ?_ hrest
        intro limit hlimit
        simp [settle, hlimit]
      simp only [List.cons_append, readFrom, readToken, readStart, Option.bind_some]
      rw [hread, hwhole]
  | @Derives.binary operator _ others left right hleft hright,
      stack, rest, hadmits, hspares => by
      have hlevel : Admits stack operator.level := hadmits
      have hrest : Spares rest operator.level := by
        rcases hspares with hcall | hrest
        · exact absurd hcall operator.not_level_le_call
        · exact hrest
      -- the operator comes after the left operand and completes nothing on the stack; then it waits
      -- there for the right one, and what follows completes it
      have hleftLevel : left.level ≤ operator.leftLevel := hleft.level_le
      have hrightLevel : right.level ≤ operator.rightLevel := hright.level_le
      have hreadLeft :=
        hleft.read stack (.operator operator :: (others ++ rest))
          (hlevel.mono (BindingLevel.le_trans hleftLevel operator.leftLevel_le))
          (Or.inr hleftLevel)
      have hreadRight :=
        hright.read (.binary operator left :: stack) rest hrightLevel
          (Or.inr (hrest.right.mono hrightLevel))
      have hwhole : readFrom (.binary operator left :: stack) (.operand right) rest =
          readFrom stack (.operand (.binary operator left right)) rest := by
        refine readFrom_of_settle ?_ hrest
        intro limit hlimit
        simp [settle, hlimit]
      simp only [List.append_assoc, List.cons_append]
      rw [hreadLeft]
      simp only [readFrom, readToken, readOperand, settle_of_admits hlevel, Option.bind_some]
      rw [hreadRight, hwhole]
  | .loosen htree _, stack, rest, hadmits, hspares =>
      htree.read stack rest hadmits hspares

theorem DerivesList.read
    {tokens : List Token}
    {trees : Exprs} :
    DerivesList tokens trees →
    ∀ (opening : Opening) (before : List Expr) (stack : List Frame) (rest : List Token),
      (trees = .empty → before = []) →
      readFrom (.listing opening before :: stack) .start (tokens ++ opening.close :: rest) =
        readFrom stack (.operand (opening.build (collect before trees))) rest
  | .empty, opening, before, stack, rest, hbefore => by
      rw [hbefore rfl]
      cases opening <;>
        simp [readFrom, readToken, readStart, Opening.close, Opening.build, collect]
  | @DerivesList.one _ tree htree, opening, before, stack, rest, _ => by
      have hclose : Spares (opening.close :: rest) tree.level := by
        cases opening <;> simp [Opening.close, Spares]
      have hread := htree.read (.listing opening before :: stack) (opening.close :: rest) trivial
        (Or.inr hclose)
      rw [hread]
      cases opening <;>
        simp [readFrom, readToken, readOperand, settle, Opening.close, Exprs.one]
  | @DerivesList.more _ others tree _ _ htree hrest, opening, before, stack, rest, _ => by
      have hread := htree.read (.listing opening before :: stack)
        (.comma :: (others ++ opening.close :: rest)) trivial (Or.inr (Or.inl rfl))
      have hlist := hrest.read opening (tree :: before) stack rest (by simp)
      simp only [List.append_assoc, List.cons_append]
      rw [hread]
      simpa [readFrom, readToken, readOperand, settle, collect] using hlist

end

/-- The reader finds the tree of every expression. -/
theorem read?_of_derives
    {level : BindingLevel}
    {tokens : List Token}
    {tree : Expr}
    (h : Derives level tokens tree) :
    read? tokens = some tree := by
  have hread := h.read [] [] trivial (Or.inr trivial)
  rw [List.append_nil] at hread
  unfold read?
  rw [hread]
  rfl

/-- A text is an expression in one way at most. -/
theorem Parses.unique
    {code : String}
    {tree other : Expr}
    (h : Parses code tree)
    (hother : Parses code other) :
    other = tree := by
  obtain ⟨tokens, hlex, htree⟩ := h
  obtain ⟨others, hlexOther, htreeOther⟩ := hother
  obtain rfl : tokens = others := Option.some.inj (hlex.symm.trans hlexOther)
  exact Option.some.inj ((read?_of_derives htreeOther).symm.trans (read?_of_derives htree))

end Lua
end MathBlocks
