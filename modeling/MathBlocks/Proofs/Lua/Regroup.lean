import MathBlocks.Proofs.Lua.Reader

/-!
# Regrouping

What is left of a tree when it is written without the parentheses that associativity would ask
for. An operand on the right of `+`, `*` or `%` that is an operation of the same level is written
bare, so the operator before it takes only its first operand: `l + (a - b)` is read as
`(l + a) - b`. `Expr.regrouped` is a tree after this change at all its operators, and
`Derives.graft` says that it is what the grammar makes of the tokens.
-/

namespace MathBlocks
namespace Lua

mutual

/-- An expression without its parentheses. -/
def Expr.bare : Expr → Expr
  | .nil => .nil
  | .numeral text => .numeral text
  | .name text => .name text
  | .field table name => .field table.bare name
  | .call function arguments => .call function.bare arguments.bare
  | .list items => .list items.bare
  | .group inner => inner.bare
  | .negate operand => .negate operand.bare
  | .binary operator left right => .binary operator left.bare right.bare

def Exprs.bare : Exprs → Exprs
  | .empty => .empty
  | .more head tail => .more head.bare tail.bare

end

/-- Whether a right operand of the operator's own level is written without parentheses. -/
def Operator.regroups : Operator → Bool
  | .plus => true
  | .times => true
  | .modulo => true
  | _ => false

/--
The tree of `left operator right` with `right` written bare: the operator goes to the first
operand of the chain of operators of its level that `right` is.
-/
def Expr.graft
    (operator : Operator)
    (left : Expr) :
    Expr → Expr
  | .binary other first second =>
      if other.level = operator.level then
        .binary other (graft operator left first) second
      else
        .binary operator left (.binary other first second)
  | right => .binary operator left right

mutual

/-- The tree that is read when every operator that regroups has its right operand written bare. -/
def Expr.regrouped : Expr → Expr
  | .nil => .nil
  | .numeral text => .numeral text
  | .name text => .name text
  | .field table name => .field table.regrouped name
  | .call function arguments => .call function.regrouped arguments.regrouped
  | .list items => .list items.regrouped
  | .group inner => .group inner.regrouped
  | .negate operand => .negate operand.regrouped
  | .binary operator left right =>
      if operator.regroups then
        Expr.graft operator left.regrouped right.regrouped
      else
        .binary operator left.regrouped right.regrouped

def Exprs.regrouped : Exprs → Exprs
  | .empty => .empty
  | .more head tail => .more head.regrouped tail.regrouped

end

theorem Expr.graft_of_level_ne
    {operator : Operator}
    {right : Expr}
    (left : Expr)
    (h : right.level ≠ operator.level) :
    Expr.graft operator left right = .binary operator left right := by
  cases right with
  | binary other first second =>
      have hne : other.level ≠ operator.level := h
      simp [Expr.graft, hne]
  | _ =>
      rfl

theorem Expr.level_graft
    (operator : Operator)
    (left right : Expr) :
    (Expr.graft operator left right).level = operator.level := by
  cases right with
  | binary other first second =>
      by_cases h : other.level = operator.level
      · simp [Expr.graft, h, Expr.level]
      · simp [Expr.graft, h, Expr.level]
  | _ =>
      rfl

/-- A chain is regrouped into the same tree from whichever operand one starts. -/
theorem Expr.graft_graft
    {operator other : Operator}
    (hlevel : operator.level = other.level)
    (left middle : Expr) :
    (right : Expr) →
    Expr.graft operator left (Expr.graft other middle right) =
      Expr.graft other (Expr.graft operator left middle) right
  | .binary last first second => by
      have hfirst := Expr.graft_graft hlevel left middle first
      by_cases h : last.level = other.level
      · simp [Expr.graft, h, hlevel, hfirst]
      · simp [Expr.graft, h, hlevel]
  | .nil | .numeral _ | .name _ | .field _ _ | .call _ _ | .list _ | .group _ | .negate _ => by
      simp [Expr.graft, hlevel]

theorem Operator.level_ne_atomic
    (operator : Operator) :
    operator.level ≠ .atomic := by
  cases operator <;> decide

theorem Expr.level_regrouped
    (tree : Expr) :
    tree.regrouped.level = tree.level := by
  cases tree with
  | binary operator left right =>
      unfold Expr.regrouped
      split
      · exact Expr.level_graft _ _ _
      · rfl
  | _ =>
      rfl

theorem Expr.eq_numeral_of_regrouped
    {tree : Expr}
    {text : String}
    (h : tree.regrouped = .numeral text) :
    tree = .numeral text := by
  cases tree with
  | numeral other =>
      exact h
  | binary operator left right =>
      have hlevel := congrArg Expr.level h
      rw [Expr.level_regrouped] at hlevel
      exact absurd hlevel operator.level_ne_atomic
  | _ =>
      simp [Expr.regrouped] at h

/--
Whether no parentheses hide an operation of that level among the first operands of a chain of
operators that take left operands of that level.
-/
def Expr.ShowsChain
    (level : BindingLevel) :
    Expr → Prop
  | .group inner => inner.bare.level ≠ level
  | .binary operator first _ => operator.leftLevel = level → ShowsChain level first
  | _ => True

/-- An operator that regroups associates to the left, and so do the others of its level. -/
theorem Operator.leftLevel_of_level_eq
    {operator other : Operator}
    (h : operator.regroups = true)
    (hlevel : other.level = operator.level) :
    other.leftLevel = operator.level := by
  revert h hlevel
  cases operator <;> cases other <;> decide

/-- Whether the chain of that level is shown, if it is a level whose chains are regrouped. -/
def Expr.InSight
    (level : BindingLevel)
    (tree : Expr) : Prop :=
  level = .sum ∨ level = .product → tree.ShowsChain level

theorem Operator.level_of_regroups
    {operator : Operator}
    (h : operator.regroups = true) :
    operator.level = .sum ∨ operator.level = .product := by
  revert h
  cases operator <;> decide

/-- Without parentheses, a chain that is in sight is regrouped as it is with them. -/
theorem Expr.bare_graft
    {operator : Operator}
    (hregroups : operator.regroups = true)
    (left right : Expr)
    (hshows : right.ShowsChain operator.level) :
    (Expr.graft operator left right).bare = Expr.graft operator left.bare right.bare := by
  cases right with
  | group inner =>
      have hne : inner.bare.level ≠ operator.level := hshows
      simp only [Expr.graft, Expr.bare]
      rw [Expr.graft_of_level_ne _ hne]
  | binary other first second =>
      by_cases h : other.level = operator.level
      · have hlevel := Operator.leftLevel_of_level_eq hregroups h
        have hfirst := Expr.bare_graft hregroups left first (hshows hlevel)
        simp [Expr.graft, Expr.bare, h, hfirst]
      · simp [Expr.graft, Expr.bare, h]
  | _ =>
      rfl

/-- A regrouped chain is in sight if its new first operand is. -/
theorem Expr.showsChain_graft
    {operator : Operator}
    {left : Expr}
    (hleft : left.ShowsChain operator.level)
    (right : Expr) :
    (Expr.graft operator left right).ShowsChain operator.level := by
  cases right with
  | binary other first second =>
      have hfirst := Expr.showsChain_graft hleft first
      by_cases h : other.level = operator.level
      · simpa [Expr.graft, h, Expr.ShowsChain] using fun _ => hfirst
      · simpa [Expr.graft, h, Expr.ShowsChain] using fun _ => hleft
  | _ =>
      exact fun _ => hleft

/-- Outside of parentheses, a tree that binds more tightly has no chain of a level. -/
theorem Expr.showsChain_of_level_lt
    {level : BindingLevel}
    {tree : Expr}
    (hgroup : ∀ inner, tree ≠ .group inner)
    (hlevel : tree.level < level) :
    tree.ShowsChain level := by
  cases tree with
  | group inner =>
      exact absurd rfl (hgroup inner)
  | binary operator first second =>
      intro h
      have hle := operator.leftLevel_le
      rw [h] at hle
      exact absurd hle (Nat.not_le.mpr hlevel)
  | _ =>
      trivial

/-- Outside of parentheses, the root of a tree stays when all parentheses go. -/
theorem Expr.level_bare
    {tree : Expr}
    (hgroup : ∀ inner, tree ≠ .group inner) :
    tree.bare.level = tree.level := by
  cases tree with
  | group inner =>
      exact absurd rfl (hgroup inner)
  | _ =>
      rfl

/-- An expression may stand wherever its own level is asked for. -/
theorem Derives.tighten
    {level : BindingLevel}
    {tokens : List Token}
    {tree : Expr} :
    Derives level tokens tree → Derives tree.level tokens tree
  | .nil => .nil
  | .numeral text => .numeral text
  | .name hname => .name hname
  | .list hitems => .list hitems
  | .group hinner => .group hinner
  | .field htable hcallee hname => .field htable hcallee hname
  | .call hfunction hcallee harguments => .call hfunction hcallee harguments
  | .negate hoperand => .negate hoperand
  | .binary operator hleft hright => .binary operator hleft hright
  | .loosen htree _ => htree.tighten

/-- The tokens of an operation are those of its operands around the operator. -/
theorem Derives.operands
    {level : BindingLevel}
    {tokens : List Token}
    {operator : Operator}
    {left right tree : Expr}
    (htree : tree = .binary operator left right) :
    Derives level tokens tree →
    ∃ before after,
      tokens = before ++ .operator operator :: after ∧
      Derives operator.leftLevel before left ∧
      Derives operator.rightLevel after right
  | .binary _ hleft hright => by
      cases htree
      exact ⟨_, _, rfl, hleft, hright⟩
  | .loosen h _ => h.operands htree

/-- On the right of an operator that regroups, everything of another level stands for itself. -/
theorem Operator.le_rightLevel_of_ne
    {operator : Operator}
    {level : BindingLevel}
    (h : operator.regroups = true)
    (hle : level ≤ operator.level)
    (hne : level ≠ operator.level) :
    level ≤ operator.rightLevel := by
  revert h hle hne
  cases operator <;> cases level <;> decide

theorem Derives.binary_of_level_ne
    {operator : Operator}
    {tokens others : List Token}
    {left right : Expr}
    (hregroups : operator.regroups = true)
    (hleft : Derives operator.level tokens left)
    (hright : Derives operator.level others right)
    (hne : right.level ≠ operator.level) :
    Derives operator.level (tokens ++ .operator operator :: others)
      (.binary operator left right) := by
  have hle := Operator.le_rightLevel_of_ne hregroups hright.level_le hne
  rw [← Operator.leftLevel_of_level_eq hregroups rfl] at hleft
  exact .binary operator hleft (.loosen hright.tighten hle)

/-- The tokens of two operands around an operator that regroups are an expression regrouped. -/
theorem Derives.graft
    {operator : Operator}
    {tokens others : List Token}
    {left : Expr}
    (right : Expr)
    (hregroups : operator.regroups = true)
    (hleft : Derives operator.level tokens left)
    (hright : Derives operator.level others right) :
    Derives operator.level (tokens ++ .operator operator :: others)
      (Expr.graft operator left right) := by
  by_cases h : right.level = operator.level
  · cases right with
    | binary other first second =>
        -- the first operand of the chain is regrouped, its last operator stays at the root
        obtain ⟨before, after, rfl, hfirst, hsecond⟩ := hright.operands rfl
        have hlevel : other.level = operator.level := h
        rw [Operator.leftLevel_of_level_eq hregroups hlevel] at hfirst
        have hgraft := Derives.graft first hregroups hleft hfirst
        rw [← Operator.leftLevel_of_level_eq hregroups hlevel] at hgraft
        have hwhole := Derives.binary other hgraft hsecond
        rw [hlevel] at hwhole
        simpa [Expr.graft, hlevel] using hwhole
    | negate operand =>
        -- a minus sign is of a level of its own
        have hunary : BindingLevel.unary = operator.level := h
        rcases Operator.level_of_regroups hregroups with hsum | hproduct
        · rw [hsum] at hunary
          cases hunary
        · rw [hproduct] at hunary
          cases hunary
    | _ =>
        exact absurd h (by cases operator <;> simp [Expr.level, Operator.level])
  · rw [Expr.graft_of_level_ne left h]
    exact Derives.binary_of_level_ne hregroups hleft hright h

end Lua
end MathBlocks
