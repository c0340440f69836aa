import MathBlocks.Emit.Code
import MathBlocks.Proofs.Lua.Reads

/-!
# What a value presents

`Value.Presents` is the invariant of the values that blocks are written as: the code is read as the
tree that is meant, regrouped, with the level of the value at its root. `Lua.Stands` is what is
left of it in the place of an operand, where parentheses may have been put around the code. Every
way of putting code together leads from operands that stand for trees to a value that presents
the tree put together.
-/

namespace MathBlocks
namespace Lua

/-- Whether a text, for a place of that level, is read as a tree regrouped, parentheses aside. -/
def Stands
    (allowed : BindingLevel)
    (code : String)
    (tree : Expr) : Prop :=
  ∃ parsed,
    Reads allowed code parsed ∧
    parsed.InSight allowed ∧
    parsed.bare = tree.regrouped ∧
    ∀ text, tree = .numeral text → code = text

/-- Whether a text is read as a list of trees regrouped, parentheses aside. -/
def StandsList
    (code : String)
    (trees : Exprs) : Prop :=
  ∃ parsed,
    ReadsList code parsed ∧
    parsed.bare = trees.regrouped

/-- A text that is the numeral zero stands for nothing else, and nothing else stands for it. -/
theorem Stands.eq_numeral_iff
    {allowed : BindingLevel}
    {code : String}
    {tree : Expr}
    (text : String)
    (hlex : lex text = some [.numeral text])
    (h : Stands allowed code tree) :
    code = text ↔ tree = .numeral text := by
  obtain ⟨parsed, hreads, _, hbare, hnumeral⟩ := h
  constructor
  · rintro rfl
    have hparsed := Parses.unique (Reads.numeral hlex).parses hreads.parses
    rw [hparsed] at hbare
    exact Expr.eq_numeral_of_regrouped hbare.symm
  · exact hnumeral text

theorem Stands.list
    {code : String}
    {tree : Expr}
    (h : Stands .any code tree) :
    StandsList code (.one tree) := by
  obtain ⟨parsed, hreads, _, hbare, _⟩ := h
  refine ⟨.one parsed, .one hreads, ?_⟩
  simp [Exprs.one, Exprs.bare, Exprs.regrouped, hbare]

/-- Where no chains are regrouped, an operand may stand that is tight enough for another place. -/
theorem Stands.loosen
    {allowed looser : BindingLevel}
    {code : String}
    {tree : Expr}
    (h : Stands allowed code tree)
    (hle : allowed ≤ looser)
    (hlooser : .sum < looser) :
    Stands looser code tree := by
  obtain ⟨parsed, hreads, _, hbare, hnumeral⟩ := h
  refine ⟨parsed, hreads.loosen hle, ?_, hbare, hnumeral⟩
  rintro (rfl | rfl)
  · exact absurd hlooser (by decide)
  · exact absurd hlooser (by decide)

theorem Stands.pair
    {first second : String}
    {tree next : Expr}
    (hfirst : Stands .any first tree)
    (hsecond : Stands .any second next) :
    StandsList (first ++ ", " ++ second) (.two tree next) := by
  obtain ⟨parsed, hreads, _, hbare, _⟩ := hfirst
  obtain ⟨other, hreadsOther, _, hbareOther, _⟩ := hsecond
  refine ⟨.two parsed other, .two hreads hreadsOther, ?_⟩
  simp [Exprs.two, Exprs.one, Exprs.bare, Exprs.regrouped, hbare, hbareOther]

theorem StandsList.empty :
    StandsList "" .empty :=
  ⟨.empty, .empty, rfl⟩

end Lua

open Lua

/-- Whether a value is written as a tree regrouped, with its level at the root of what is read. -/
def Value.Presents
    (value : Value)
    (tree : Expr) : Prop :=
  ∃ parsed,
    Reads value.level value.code parsed ∧
    parsed.level = value.level ∧
    (∀ inner, parsed ≠ .group inner) ∧
    parsed.InSight value.level ∧
    parsed.bare = tree.regrouped ∧
    ∀ text, tree = .numeral text → value.code = text

namespace Value.Presents

/-- As an operand, a value stands for what it presents. -/
theorem stands
    {value : Value}
    {tree : Expr}
    (h : value.Presents tree)
    (allowed : BindingLevel) :
    Stands allowed (value.operand allowed) tree := by
  obtain ⟨parsed, hreads, hlevel, hgroup, hshows, hbare, hnumeral⟩ := h
  by_cases hle : value.level ≤ allowed
  · have hcode : value.operand allowed = value.code := BindingLevel.enclose_of_le _ hle
    refine ⟨parsed, ?_, ?_, hbare, ?_⟩
    · rw [hcode]
      exact hreads.loosen hle
    · by_cases heq : value.level = allowed
      · rw [← heq]
        exact hshows
      · intro _
        refine Expr.showsChain_of_level_lt hgroup ?_
        rw [hlevel]
        exact BindingLevel.lt_of_not_le fun hge =>
          heq (BindingLevel.eq_of_rank_eq (Nat.le_antisymm hle hge))
    · rw [hcode]
      exact hnumeral
  · have hlt := BindingLevel.lt_of_not_le hle
    refine ⟨.group parsed, ?_, ?_, hbare, ?_⟩
    · rw [Value.operand, BindingLevel.enclose_of_lt _ hlt]
      exact (Reads.group (hreads.loosen value.level.le_any)).loosen (by cases allowed <;> decide)
    · intro _
      show parsed.bare.level ≠ allowed
      rw [Expr.level_bare hgroup, hlevel]
      intro heq
      exact hle (heq ▸ BindingLevel.le_refl _)
    · rintro text rfl
      -- A numeral needs no parentheses.
      have hatomic : parsed.bare.level = .atomic := by
        rw [hbare]
        rfl
      rw [Expr.level_bare hgroup, hlevel] at hatomic
      rw [hatomic] at hlt
      exact absurd hlt (by cases allowed <;> decide)

/-- Where its level is allowed, the code of a value stands as it is. -/
theorem stands_of_le
    {code : String}
    {level : BindingLevel}
    {tree : Expr}
    (h : Value.Presents ⟨code, level⟩ tree)
    (allowed : BindingLevel)
    (hle : level ≤ allowed) :
    Stands allowed code tree := by
  have hstands := h.stands allowed
  rwa [Value.operand, BindingLevel.enclose_of_le _ hle] at hstands

/-- An operator that regroups between two operands of its own level. -/
theorem graft
    (operator : Operator)
    (hregroups : operator.regroups = true)
    {left right : String}
    {first second : Expr}
    (hleft : Stands operator.level left first)
    (hright : Stands operator.level right second) :
    Value.Presents ⟨left ++ operator.symbol ++ right, operator.level⟩
      (.binary operator first second) := by
  obtain ⟨parsed, hreads, hshows, hbare, _⟩ := hleft
  obtain ⟨other, hreadsOther, hshowsOther, hbareOther, _⟩ := hright
  have hlevel := Expr.level_graft operator parsed other
  have hchain := Operator.level_of_regroups hregroups
  refine ⟨Expr.graft operator parsed other, .graft hregroups hreads hreadsOther, hlevel, ?_, ?_, ?_,
    by simp⟩
  · intro inner heq
    rw [heq] at hlevel
    exact operator.level_ne_atomic hlevel.symm
  · exact fun _ => Expr.showsChain_graft (hshows hchain) other
  · rw [Expr.bare_graft hregroups parsed other (hshowsOther hchain), hbare, hbareOther]
    simp [Expr.regrouped, hregroups]

/-- An operator that does not regroup, with operands as tight as the grammar asks for. -/
theorem binary
    (operator : Operator)
    (hregroups : operator.regroups = false)
    {left right : String}
    {first second : Expr}
    {allowed : BindingLevel}
    (hleft : Stands operator.leftLevel left first)
    (hright : Stands allowed right second)
    (hallowed : allowed ≤ operator.rightLevel) :
    Value.Presents ⟨left ++ operator.symbol ++ right, operator.level⟩
      (.binary operator first second) := by
  obtain ⟨parsed, hreads, hshows, hbare, _⟩ := hleft
  obtain ⟨other, hreadsOther, _, hbareOther, _⟩ := hright
  refine ⟨.binary operator parsed other,
    .binary operator hreads (hreadsOther.loosen hallowed), rfl, by simp, ?_, ?_, by simp⟩
  · intro hchain hlevel
    rw [← hlevel] at hchain ⊢
    exact hshows hchain
  · simp [Expr.bare, Expr.regrouped, hregroups, hbare, hbareOther]

/-- A minus sign and its operand, kept apart if the operand starts with another one. -/
theorem negate
    (gap : String)
    {code : String}
    {tree : Expr}
    (hgap : gap = if code.toList.head? = some '-' then " " else "")
    (h : Stands .unary code tree) :
    Value.Presents ⟨"-" ++ gap ++ code, .unary⟩ (.negate tree) := by
  obtain ⟨parsed, hreads, _, hbare, _⟩ := h
  refine ⟨.negate parsed, .negate hgap hreads, rfl, by simp, fun _ => trivial, ?_, by simp⟩
  simp [Expr.bare, Expr.regrouped, hbare]

theorem math
    (function : String)
    {code : String}
    {trees : Exprs}
    (hlibrary : InLibrary function)
    (harguments : StandsList code trees) :
    Value.Presents ⟨"math." ++ function ++ "(" ++ code ++ ")", .call⟩ (.math function trees) := by
  obtain ⟨parsed, hreads, hbare⟩ := harguments
  refine
    ⟨.math function parsed, .math hlibrary hreads, rfl, by simp [Expr.math], fun _ => trivial, ?_,
      by simp [Expr.math]⟩
  simp [Expr.math, Expr.bare, Expr.regrouped, hbare]

theorem call
    {function code : String}
    {trees : Exprs}
    (hname : Identifier.IsIdentifier function.toList)
    (hkeyword : function ∉ keywords)
    (harguments : StandsList code trees) :
    Value.Presents ⟨function ++ "(" ++ code ++ ")", .call⟩ (.call (.name function) trees) := by
  obtain ⟨parsed, hreads, hbare⟩ := harguments
  have hfunction : Reads .call function (.name function) :=
    (Reads.name hname hkeyword).loosen (by decide)
  refine
    ⟨.call (.name function) parsed, .call hfunction rfl hreads, rfl, by simp, fun _ => trivial, ?_,
      by simp⟩
  simp [Expr.bare, Expr.regrouped, hbare]

theorem numeral
    {text : String}
    (hlex : lex text = some [.numeral text]) :
    Value.Presents ⟨text, .atomic⟩ (.numeral text) :=
  ⟨.numeral text, .numeral hlex, rfl, by simp, fun _ => trivial, rfl, by simp⟩

theorem mathField
    (function : String)
    (hlibrary : InLibrary function) :
    Value.Presents ⟨"math." ++ function, .call⟩ (.field (.name "math") function) :=
  ⟨.field (.name "math") function, .mathField hlibrary, rfl, by simp, fun _ => trivial, rfl,
    by simp⟩

/-- The value that there is none of. -/
theorem nil :
    Value.Presents ⟨"nil", .atomic⟩ .nil :=
  ⟨.nil, ⟨_, rfl, .nil⟩, rfl, by simp, fun _ => trivial, rfl, by simp⟩

end Value.Presents
end MathBlocks
