import MathBlocks.Proofs.Compiler.History
import MathBlocks.Proofs.Emit.Walk

/-!
# Reading back what was written

The code that a compiler without registered writers puts out is read by the grammar of Lua in
exactly one way, and what is read is what the blocks stand for: the trees of their operands put
together, with no change but the regrouping of operands that are written bare.
-/

namespace MathBlocks

open Lua

/--
Whether a value is one complete expression, its level that of the root, and what is read is the
tree regrouped, parentheses aside.
-/
def Value.ReadsAs
    (value : Value)
    (tree : Expr) : Prop :=
  ∃ parsed,
    Parses value.code parsed ∧
    (∀ other, Parses value.code other → other = parsed) ∧
    parsed.level = value.level ∧
    parsed.bare = tree.regrouped

/-- Whether code is read as what is meant; the line of an assignment is read behind its sign. -/
def Code.ReadsAs : Code → Meaning → Prop
  | .value v, .value tree => v.ReadsAs tree
  | .statement lines, .assignment identifier tree =>
      ∃ code,
        lines = [identifier ++ " = " ++ code] ∧
        Value.ReadsAs ⟨code, .sum⟩ tree
  | _, _ => False

theorem Value.Presents.readsAs
    {value : Value}
    {tree : Expr}
    (h : value.Presents tree) :
    value.ReadsAs tree := by
  obtain ⟨parsed, hreads, hlevel, _, _, hbare, _⟩ := h
  exact ⟨parsed, hreads.parses, fun _ => hreads.parses.unique, hlevel, hbare⟩

theorem Code.Presents.readsAs
    {code : Code}
    {meaning : Meaning}
    (h : code.Presents meaning) :
    code.ReadsAs meaning := by
  cases code with
  | value v =>
      cases meaning with
      | value tree =>
          exact Value.Presents.readsAs h
      | assignment identifier tree =>
          exact h.elim
  | statement lines =>
      cases meaning with
      | value tree =>
          exact h.elim
      | assignment identifier tree =>
          obtain ⟨text, hlines, hpresents⟩ := h
          exact ⟨text, hlines, hpresents.readsAs⟩

theorem PresentsAll.readsAs
    {wrapBareValues : Bool}
    {lines : List String}
    {meanings : List Meaning}
    (h : PresentsAll wrapBareValues lines meanings) :
    ∃ codes,
      List.Forall₂ Code.ReadsAs codes meanings ∧
      lines = codes.flatMap (Code.topLines wrapBareValues) := by
  obtain ⟨codes, hcodes, hlines⟩ := h
  exact ⟨codes, hcodes.imp fun _ _ => Code.Presents.readsAs, hlines⟩

theorem Settings.keywords_avoided
    (settings : Settings) :
    ∀ word ∈ keywords, word ∈ settings.avoided := by
  intro word hword
  have hreserved : ∀ word ∈ keywords, word ∈ Lua.reservedWords := by
    decide
  exact List.mem_append_left _ (hreserved word hword)

namespace Compiler

/-- A compiler without writers writes a block if it stands for anything, and as what it does. -/
theorem Belongs.writeBlock_agrees
    {settings : Settings}
    {compiler : Compiler NameDirectory}
    (h : compiler.Belongs settings)
    (hcustoms : compiler.customs = [])
    (block : Block) :
    ∃ log,
      Agrees (compiler.writeBlock block).2.pass.naming Code.Presents block.requests log
        (compiler.writeBlock block).1
        (block.meaning (compiler.writeBlock block).2.pass.naming) := by
  have hwithin : (block.write [] compiler.pass).2.naming.Within
      (block.write [] compiler.pass).2.naming := ⟨id, id⟩
  obtain ⟨log, _, hagrees⟩ :=
    block.renders settings.keywords_avoided compiler.pass h.sound hwithin
  refine ⟨log, ?_⟩
  unfold Compiler.writeBlock
  rw [hcustoms]
  exact hagrees

/-- A block that a compiler without writers has written is read as what it stands for. -/
theorem Belongs.writeBlock_readsAs
    {settings : Settings}
    {compiler : Compiler NameDirectory}
    (h : compiler.Belongs settings)
    (hcustoms : compiler.customs = [])
    {block : Block}
    {code : Code}
    {after : Compiler NameDirectory}
    (hwrite : compiler.writeBlock block = (.ok code, after)) :
    ∃ meaning,
      block.meaning after.pass.naming = some meaning ∧
      code.ReadsAs meaning := by
  obtain ⟨log, hagrees⟩ := h.writeBlock_agrees hcustoms block
  rw [hwrite] at hagrees
  cases hmeaning : block.meaning after.pass.naming with
  | none =>
      rw [hmeaning] at hagrees
      exact hagrees.elim
  | some meaning =>
      rw [hmeaning] at hagrees
      exact ⟨meaning, rfl, hagrees.1.readsAs⟩

/-- A block that is written as a value is written where a value is asked for. -/
theorem writeValue_of_writeBlock
    {ν : Type}
    [NameSource ν]
    {compiler after : Compiler ν}
    {block : Block}
    {value : Value}
    (h : compiler.writeBlock block = (.ok (.value value), after)) :
    compiler.writeValue block = (.ok value, after) := by
  unfold writeBlock at h
  unfold writeValue Block.writeValue
  cases hwrite : block.write compiler.customs compiler.pass with
  | mk result pass =>
      rw [hwrite] at h
      cases h
      rfl

theorem writeBlock_of_writeValue
    {ν : Type}
    [NameSource ν]
    {compiler after : Compiler ν}
    {block : Block}
    {value : Value}
    (h : compiler.writeValue block = (.ok value, after)) :
    compiler.writeBlock block = (.ok (.value value), after) := by
  unfold writeValue Block.writeValue at h
  unfold writeBlock
  cases hwrite : block.write compiler.customs compiler.pass with
  | mk result pass =>
      rw [hwrite] at h
      cases result with
      | error fault =>
          cases h
      | ok code =>
          cases code with
          | statement lines =>
              cases h
          | value v =>
              cases h
              rfl

/--
After any calls that register no writers, an expression that is written for a block is one complete
expression and is read as the tree of the block regrouped, with its level at the root; and so is
what a statement assigns to its variable.
-/
theorem parses_back
    (settings : Settings)
    (calls : List Call)
    (hcustoms : ((new settings).after calls).customs = [])
    (block : Block) :
    (∀ value after,
      ((new settings).after calls).writeValue block = (.ok value, after) →
      ∃ tree,
        block.meaning after.pass.naming = some (.value tree) ∧
        value.ReadsAs tree) ∧
    (∀ lines after,
      ((new settings).after calls).writeBlock block = (.ok (.statement lines), after) →
      ∃ identifier tree code,
        block.meaning after.pass.naming = some (.assignment identifier tree) ∧
        lines = [identifier ++ " = " ++ code] ∧
        Value.ReadsAs ⟨code, .sum⟩ tree) := by
  have hbelongs := (belongs_new settings).after calls
  constructor
  · intro value after hwrite
    obtain ⟨meaning, hmeaning, hreads⟩ :=
      hbelongs.writeBlock_readsAs hcustoms (writeBlock_of_writeValue hwrite)
    cases meaning with
    | value tree =>
        exact ⟨tree, hmeaning, hreads⟩
    | assignment identifier tree =>
        exact hreads.elim
  · intro lines after hwrite
    obtain ⟨meaning, hmeaning, hreads⟩ := hbelongs.writeBlock_readsAs hcustoms hwrite
    cases meaning with
    | value tree =>
        exact hreads.elim
    | assignment identifier tree =>
        obtain ⟨code, hlines, hcode⟩ := hreads
        exact ⟨identifier, tree, code, hmeaning, hlines, hcode⟩

/-- The sum of nothing and a difference of nothing is written bare, and read from the left. -/
theorem parses_back_bareDifference :
    ∃ tree,
      (Block.node "math_arithmetic" [("OP", "ADD")]
        (.plug "B" (.node "math_arithmetic" [("OP", "MINUS")] .empty) .empty)).meaning
        (new .standard).pass.naming = some (.value tree) ∧
      Value.ReadsAs ⟨"0 + 0 - 0", .sum⟩ tree :=
  (parses_back .standard [] rfl _).1 ⟨"0 + 0 - 0", .sum⟩ (new .standard) rfl

end Compiler
end MathBlocks
