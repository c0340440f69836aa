import MathBlocks.Proofs.Emit.Outline
import MathBlocks.Proofs.Lua.Regroup

/-!
# What expressions refer to

The names that stand in an expression, the names of entries behind a dot aside. Neither parentheses
nor regrouping change them. What a block stands for refers to the library for numbers and to what
the naming has identifiers for, and to nothing else.
-/

namespace MathBlocks

namespace Lua

mutual

/-- The names that an expression refers to, from left to right. -/
@[simp] def Expr.names : Expr → List String
  | .nil | .numeral _ => []
  | .name text => [text]
  | .field table _ => table.names
  | .call function arguments => function.names ++ arguments.names
  | .list items => items.names
  | .group inner => inner.names
  | .negate operand => operand.names
  | .binary _ left right => left.names ++ right.names

/-- The names that expressions refer to, from left to right. -/
@[simp] def Exprs.names : Exprs → List String
  | .empty => []
  | .more head tail => head.names ++ tail.names

end

mutual

theorem Expr.names_bare :
    (tree : Expr) →
    tree.bare.names = tree.names
  | .nil | .numeral _ | .name _ => rfl
  | .field table _ => table.names_bare
  | .call function arguments => by
      rw [Expr.bare, Expr.names, Expr.names, function.names_bare, arguments.names_bare]
  | .list items => items.names_bare
  | .group inner => inner.names_bare
  | .negate operand => operand.names_bare
  | .binary _ left right => by
      rw [Expr.bare, Expr.names, Expr.names, left.names_bare, right.names_bare]

theorem Exprs.names_bare :
    (trees : Exprs) →
    trees.bare.names = trees.names
  | .empty => rfl
  | .more head tail => by
      rw [Exprs.bare, Exprs.names, Exprs.names, head.names_bare, tail.names_bare]

end

/-- An operator that goes to the first operand of a chain leaves all names in their order. -/
theorem Expr.names_graft
    (operator : Operator)
    (left : Expr) :
    (right : Expr) →
    (Expr.graft operator left right).names = left.names ++ right.names
  | .binary other first second => by
      unfold Expr.graft
      split
      · rw [Expr.names, Expr.names_graft operator left first, Expr.names, List.append_assoc]
      · rfl
  | .nil | .numeral _ | .name _ | .field _ _ | .call _ _ | .list _ | .group _ | .negate _ => rfl

mutual

theorem Expr.names_regrouped :
    (tree : Expr) →
    tree.regrouped.names = tree.names
  | .nil | .numeral _ | .name _ => rfl
  | .field table _ => table.names_regrouped
  | .call function arguments => by
      rw [Expr.regrouped, Expr.names, Expr.names, function.names_regrouped,
        arguments.names_regrouped]
  | .list items => items.names_regrouped
  | .group inner => inner.names_regrouped
  | .negate operand => operand.names_regrouped
  | .binary operator left right => by
      unfold Expr.regrouped
      split
      · rw [Expr.names_graft, Expr.names, left.names_regrouped, right.names_regrouped]
      · rw [Expr.names, Expr.names, left.names_regrouped, right.names_regrouped]

theorem Exprs.names_regrouped :
    (trees : Exprs) →
    trees.regrouped.names = trees.names
  | .empty => rfl
  | .more head tail => by
      rw [Exprs.regrouped, Exprs.names, Exprs.names, head.names_regrouped, tail.names_regrouped]

end

end Lua

open Lua

/-- Whether a name is that of the library for numbers, or an identifier that a naming has given. -/
def Naming.Knows
    (naming : Naming)
    (name : String) : Prop :=
  name = "math" ∨ ∃ label, naming.Gives label name

/-- Whether a naming knows all names that an expression refers to. -/
def Naming.Explains
    (naming : Naming)
    (tree : Expr) : Prop :=
  ∀ name ∈ tree.names, naming.Knows name

/-- The tree of an expression, or of what is assigned. -/
def Meaning.expression : Meaning → Expr
  | .value tree => tree
  | .assignment _ tree => tree

namespace Naming

variable {naming : Naming}

@[simp] theorem explains_name
    (name : String) :
    naming.Explains (.name name) ↔ naming.Knows name := by
  simp [Explains]

@[simp] theorem explains_binary
    (operator : Operator)
    (left right : Expr) :
    naming.Explains (.binary operator left right) ↔
      naming.Explains left ∧ naming.Explains right := by
  simp [Explains, or_imp, forall_and]

@[simp] theorem explains_negate
    (operand : Expr) :
    naming.Explains (.negate operand) ↔ naming.Explains operand := by
  simp [Explains]

/-- The library for numbers is known, so only the arguments of its functions matter. -/
@[simp] theorem explains_math
    (function : String)
    (arguments : Exprs) :
    naming.Explains (.math function arguments) ↔
      ∀ name ∈ arguments.names, naming.Knows name := by
  simp [Explains, Expr.math, Knows]

@[simp] theorem knows_one
    (argument : Expr) :
    (∀ name ∈ (Exprs.one argument).names, naming.Knows name) ↔ naming.Explains argument := by
  simp [Explains, Exprs.one]

@[simp] theorem knows_two
    (first second : Expr) :
    (∀ name ∈ (Exprs.two first second).names, naming.Knows name) ↔
      naming.Explains first ∧ naming.Explains second := by
  simp [Explains, Exprs.two, Exprs.one, or_imp, forall_and]

@[simp] theorem explains_mathField
    (name : String) :
    naming.Explains (.field (.name "math") name) := by
  simp [Explains, Knows]

@[simp] theorem explains_numeral
    (text : String) :
    naming.Explains (.numeral text) := by
  simp [Explains]

@[simp] theorem explains_nil :
    naming.Explains .nil := by
  simp [Explains]

/-- The call of a helper is explained by a naming that has the identifier of the helper. -/
theorem explains_helper
    {name : String}
    {argument tree : Expr}
    (hargument : naming.Explains argument)
    (h : Tree.helper naming name argument = some tree) :
    naming.Explains tree := by
  obtain ⟨identifier, hname, rfl⟩ := Option.map_eq_some_iff.mp h
  have hlabel : naming.Gives (.ofHelper name) identifier := hname
  intro other hother
  rcases List.mem_append.mp hother with hfunction | hother
  · rw [List.mem_singleton.mp hfunction]
    exact Or.inr ⟨_, hlabel⟩
  · exact (knows_one argument).mpr hargument other hother

end Naming

section Meaning

variable {naming : Naming}

theorem Tree.explains_signed
    (negative : Bool)
    {tree : Expr}
    (h : naming.Explains tree) :
    naming.Explains (Tree.signed negative tree) := by
  cases negative with
  | false =>
      exact h
  | true =>
      simpa [Tree.signed] using h

theorem Tree.explains_ofText?
    {text : String}
    {tree : Expr}
    (h : Tree.ofText? text = some tree) :
    naming.Explains tree := by
  obtain ⟨numeral, _, hnumeral⟩ := Option.bind_eq_some_iff.mp h
  cases numeral with
  | notANumber =>
      cases hnumeral
  | infinite negative =>
      cases hnumeral
      exact Tree.explains_signed negative (Naming.explains_mathField "huge")
  | finite negative digits exponent =>
      simp only [Tree.ofNumeral?] at hnumeral
      split at hnumeral
      · cases hnumeral
        exact Tree.explains_signed negative (Naming.explains_mathField "huge")
      · cases hnumeral
        exact Tree.explains_signed _ (Naming.explains_numeral _)

theorem MathOperator.explains_tree
    {operand : Expr}
    (h : naming.Explains operand)
    (operator : MathOperator) :
    naming.Explains (operator.tree operand) := by
  cases operator <;> simp [MathOperator.tree, h]

theorem MathConstant.explains_tree
    (constant : MathConstant) :
    naming.Explains constant.tree := by
  cases constant <;> simp [MathConstant.tree, Tree.huge]

/-- Whether a naming explains all operands that are plugged in. -/
def Naming.ExplainsOperands
    (naming : Naming)
    (operands : Operands) : Prop :=
  ∀ slot tree, operands slot = some (some tree) → naming.Explains tree

theorem Naming.ExplainsOperands.orElse
    {operands : Operands}
    (h : naming.ExplainsOperands operands)
    {slot : String}
    {standIn tree : Expr}
    (hstandIn : naming.Explains standIn)
    (htree : operands.orElse slot standIn = some tree) :
    naming.Explains tree := by
  obtain ⟨plugged, hslot, rfl⟩ := Option.map_eq_some_iff.mp htree
  cases plugged with
  | none =>
      exact hstandIn
  | some operand =>
      exact h slot operand hslot

/-- An operand is explained, or the number zero in its place. -/
theorem Naming.ExplainsOperands.orZero
    {operands : Operands}
    (h : naming.ExplainsOperands operands)
    {slot : String}
    {tree : Expr}
    (htree : operands.orElse slot Tree.zero = some tree) :
    naming.Explains tree :=
  h.orElse (Naming.explains_numeral "0") htree

theorem NumberProperty.explains_tree
    {operands : Operands}
    (hoperands : naming.ExplainsOperands operands)
    {subject tree : Expr}
    (hsubject : naming.Explains subject)
    (property : NumberProperty)
    (h : property.tree naming operands subject = some tree) :
    naming.Explains tree := by
  cases property with
  | divisibleBy =>
      obtain ⟨plugged, hslot, rfl⟩ := Option.map_eq_some_iff.mp h
      cases plugged with
      | none =>
          exact Naming.explains_nil
      | some divisor =>
          have hdivisor := hoperands _ _ hslot
          simp only [Tree.divisible]
          split
          · exact Naming.explains_nil
          · simp [Tree.remainder, hsubject, hdivisor]
  | prime =>
      exact Naming.explains_helper hsubject h
  | _ =>
      cases h
      simp [Tree.remainder, Tree.zero, hsubject]

/-- What a block of any kind stands for is explained if its operands are. -/
theorem BlockKind.explains_meaning
    {operands : Operands}
    (hoperands : naming.ExplainsOperands operands)
    {block : Block}
    {meaning : Meaning}
    (kind : BlockKind)
    (h : kind.meaning naming operands block = some meaning) :
    naming.Explains meaning.expression := by
  cases kind with
  | number =>
      simp only [BlockKind.meaning, Option.bind_eq_bind, Option.bind_eq_some_iff] at h
      obtain ⟨text, _, tree, htree, hmeaning⟩ := h
      cases hmeaning
      exact Tree.explains_ofText? htree
  | arithmetic =>
      simp only [BlockKind.meaning, Option.bind_eq_bind, Option.bind_eq_some_iff] at h
      obtain ⟨operator, _, left, hleft, right, hright, hmeaning⟩ := h
      cases hmeaning
      exact (Naming.explains_binary _ _ _).mpr ⟨hoperands.orZero hleft, hoperands.orZero hright⟩
  | single | round | trig =>
      simp only [BlockKind.meaning, Option.bind_eq_bind, Option.bind_eq_some_iff] at h
      obtain ⟨operator, _, operand, hoperand, hmeaning⟩ := h
      cases hmeaning
      exact operator.explains_tree (hoperands.orZero hoperand)
  | constant =>
      simp only [BlockKind.meaning, Option.bind_eq_bind, Option.bind_eq_some_iff] at h
      obtain ⟨constant, _, hmeaning⟩ := h
      cases hmeaning
      exact constant.explains_tree
  | numberProperty =>
      simp only [BlockKind.meaning, Option.bind_eq_bind, Option.bind_eq_some_iff] at h
      obtain ⟨property, _, subject, hsubject, tree, htree, hmeaning⟩ := h
      cases hmeaning
      exact property.explains_tree hoperands (hoperands.orZero hsubject) htree
  | onList =>
      simp only [BlockKind.meaning, Option.bind_eq_bind, Option.bind_eq_some_iff] at h
      obtain ⟨operator, _, list, hlist, tree, htree, hmeaning⟩ := h
      cases hmeaning
      have hempty : naming.Explains (.list .empty) := by
        simp [Naming.Explains]
      exact Naming.explains_helper (hoperands.orElse hempty hlist) htree
  | modulo =>
      simp only [BlockKind.meaning, Option.bind_eq_bind, Option.bind_eq_some_iff] at h
      obtain ⟨dividend, hdividend, divisor, hdivisor, hmeaning⟩ := h
      cases hmeaning
      exact (Naming.explains_binary _ _ _).mpr
        ⟨hoperands.orZero hdividend, hoperands.orZero hdivisor⟩
  | constrain =>
      simp only [BlockKind.meaning, Option.bind_eq_bind, Option.bind_eq_some_iff] at h
      obtain ⟨value, hvalue, low, hlow, high, hhigh, hmeaning⟩ := h
      cases hmeaning
      have hlowest : naming.Explains (.negate Tree.huge) := by
        simp [Tree.huge]
      have hvalue := hoperands.orZero hvalue
      have hlow := hoperands.orElse hlowest hlow
      have hhigh := hoperands.orElse (Naming.explains_mathField "huge") hhigh
      simp [Meaning.expression, hvalue, hlow, hhigh]
  | randomInt =>
      simp only [BlockKind.meaning, Option.bind_eq_bind, Option.bind_eq_some_iff] at h
      obtain ⟨low, hlow, high, hhigh, hmeaning⟩ := h
      cases hmeaning
      simp [Meaning.expression, hoperands.orZero hlow, hoperands.orZero hhigh]
  | randomFloat =>
      cases h
      simp [Meaning.expression]
  | atan2 =>
      simp only [BlockKind.meaning, Option.bind_eq_bind, Option.bind_eq_some_iff] at h
      obtain ⟨x, hx, y, hy, hmeaning⟩ := h
      cases hmeaning
      simp [Meaning.expression, hoperands.orZero hx, hoperands.orZero hy]
  | change =>
      simp only [BlockKind.meaning, Option.bind_eq_bind, Option.bind_eq_some_iff] at h
      obtain ⟨name, _, delta, hdelta, identifier, hname, hmeaning⟩ := h
      cases hmeaning
      have hlabel : naming.Gives (.ofVariable (Text.lower name)) identifier := ⟨name, rfl, hname⟩
      have htarget : naming.Explains (.name identifier) :=
        (Naming.explains_name identifier).mpr (Or.inr ⟨_, hlabel⟩)
      exact (Naming.explains_binary _ _ _).mpr ⟨htarget, hoperands.orZero hdelta⟩

mutual

/-- A naming explains what a block stands for under it. -/
theorem Block.explains_meaning
    {meaning : Meaning} :
    (block : Block) →
    block.meaning naming = some meaning →
    naming.Explains meaning.expression
  | .node blockType fields inputs, h => by
      simp only [Block.meaning, Option.bind_eq_bind, Option.bind_eq_some_iff] at h
      obtain ⟨kind, _, hmeaning⟩ := h
      exact kind.explains_meaning (fun slot _ => inputs.explains_meaning slot) hmeaning

theorem Inputs.explains_meaning
    {tree : Expr} :
    (inputs : Inputs) →
    (slot : String) →
    inputs.meaning naming slot = some (some tree) →
    naming.Explains tree
  | .empty, _, h => nomatch h
  | .plug slot child rest, wanted, h => by
      unfold Inputs.meaning at h
      split at h
      · simp only [Option.bind_eq_bind, Option.bind_eq_some_iff] at h
        obtain ⟨meaning, hmeaning, found, hfound, htree⟩ := h
        cases htree
        cases meaning with
        | value value =>
            cases hfound
            exact child.explains_meaning hmeaning
        | assignment identifier value =>
            cases hfound
      · exact rest.explains_meaning wanted h

end

end Meaning
end MathBlocks
