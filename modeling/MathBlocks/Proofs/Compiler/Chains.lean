import Mathlib.Data.List.Forall2
import MathBlocks.Compiler
import MathBlocks.Proofs.Emit.Serving
import MathBlocks.Proofs.Traversal

/-!
# Chains of one operator

A tree of operator blocks that all have the same operator is a chain, if it nests only where that
operator may be regrouped: on either side for sums and products, on the left for differences and
quotients, on the right for powers. `ArithmeticOperator.Chain` relates such a tree to its leaves
from left to right, which are any other operands. The main statement says that a chain is written as
its leaves with the operator between them, without a parenthesis, if each leaf is as tight as
`ArithmeticOperator.leafLevels` asks.
-/

namespace MathBlocks

namespace ArithmeticOperator

/-- Whether a chain of the operator may go on in the left operand. -/
def nestsLeft : ArithmeticOperator → Bool
  | .add | .multiply | .minus | .divide => true
  | .power => false

/-- Whether a chain of the operator may go on in the right operand. -/
def nestsRight : ArithmeticOperator → Bool
  | .add | .multiply | .power => true
  | .minus | .divide => false

/-- The loosest levels of the leaves of a chain, from left to right. -/
def leafLevels (count : Nat) : ArithmeticOperator → List BindingLevel
  | .add => List.replicate count .sum
  | .multiply => List.replicate count .product
  | .minus => .sum :: List.replicate (count - 1) .product
  | .divide => .product :: List.replicate (count - 1) .unary
  | .power => List.replicate (count - 1) .call ++ [.power]

/--
Whether an operand is a chain of the operator with these leaves. Nothing plugged in is a leaf too,
and so is a block of the operator that is not taken apart.
-/
inductive Chain (operator : ArithmeticOperator) : Option Block → List (Option Block) → Prop
  | leaf
      (operand : Option Block) :
      Chain operator operand [operand]
  | node
      {block : Block}
      {left right : List (Option Block)}
      (hkind : block.kind = .ok .arithmetic)
      (hoperator : block.readTag "OP" = .ok operator)
      (hleft : Chain operator (block.input? "A") left)
      (hright : Chain operator (block.input? "B") right)
      (hleftNests : operator.nestsLeft = true ∨ left.length = 1)
      (hrightNests : operator.nestsRight = true ∨ right.length = 1) :
      Chain operator (some block) (left ++ right)

/-- The loosest levels of the leaves of a chain in a place of that level. -/
def levelsWithin
    (operator : ArithmeticOperator)
    (allowed : BindingLevel)
    (count : Nat) : List BindingLevel :=
  if count = 1 then [allowed] else operator.leafLevels count

variable {operator : ArithmeticOperator}

/-- A chain has leaves. -/
theorem Chain.length_pos
    {operand : Option Block}
    {leaves : List (Option Block)}
    (h : operator.Chain operand leaves) :
    0 < leaves.length := by
  induction h with
  | leaf operand =>
      exact Nat.one_pos
  | node _ _ _ _ _ _ hleft _ =>
      rw [List.length_append]
      omega

/-- Where a chain may go on in its left operand, the operator is tight enough for that place. -/
theorem level_le_leftLevel
    (h : operator.nestsLeft = true) :
    operator.level ≤ operator.leftLevel := by
  revert h
  cases operator <;> decide

/-- Where a chain may go on in its right operand, the operator is tight enough for that place. -/
theorem level_le_rightLevel
    (h : operator.nestsRight = true) :
    operator.level ≤ operator.rightLevel := by
  revert h
  cases operator <;> decide

/-- There is a level for each leaf. -/
theorem length_levelsWithin
    {allowed : BindingLevel}
    {count : Nat}
    (h : 0 < count) :
    (operator.levelsWithin allowed count).length = count := by
  unfold levelsWithin
  split
  · rename_i hone
    exact hone.symm
  · cases operator <;> simp [leafLevels] <;> omega

/-- A chain that goes on in the left operand asks the same levels of the leaves there. -/
theorem levelsWithin_leftLevel
    (h : operator.nestsLeft = true)
    (count : Nat) :
    operator.levelsWithin operator.leftLevel (count + 1) = operator.leafLevels (count + 1) := by
  cases count with
  | zero =>
      cases operator with
      | power =>
          cases h
      | _ =>
          rfl
  | succ count =>
      simp [levelsWithin]

/-- A chain that goes on in the right operand asks the same levels of the leaves there. -/
theorem levelsWithin_rightLevel
    (h : operator.nestsRight = true)
    (count : Nat) :
    operator.levelsWithin operator.rightLevel (count + 1) = operator.leafLevels (count + 1) := by
  cases count with
  | zero =>
      cases operator with
      | minus | divide =>
          cases h
      | _ =>
          rfl
  | succ count =>
      simp [levelsWithin]

/-- The leaves of a chain have the levels that its two operands ask of theirs. -/
theorem leafLevels_add
    (left right : Nat)
    (hleft : operator.nestsLeft = true ∨ left + 1 = 1)
    (hright : operator.nestsRight = true ∨ right + 1 = 1) :
    operator.leafLevels ((left + 1) + (right + 1)) =
      operator.levelsWithin operator.leftLevel (left + 1) ++
        operator.levelsWithin operator.rightLevel (right + 1) := by
  cases operator with
  | add | multiply =>
      rw [levelsWithin_leftLevel rfl, levelsWithin_rightLevel rfl]
      exact List.replicate_add ..
  | minus | divide =>
      obtain rfl : right = 0 := by simpa [nestsRight] using hright
      rw [levelsWithin_leftLevel rfl]
      exact congrArg (List.cons _) List.replicate_succ'
  | power =>
      obtain rfl : left = 0 := by simpa [nestsLeft] using hleft
      rw [levelsWithin_rightLevel rfl]
      simp [levelsWithin, leafLevels, leftLevel, BindingLevel.tightened, List.replicate_succ,
        Nat.add_comm 1]

end ArithmeticOperator

section Writing

variable {ν : Type} [NameSource ν] {customs : Customs} {pass after : Pass ν}

/-- Writes an operand as a value of its own; nothing plugged in is zero. -/
def writeOperand
    (customs : Customs) :
    Option Block → Pass ν → Except Fault Value × Pass ν
  | none, pass => (.ok ⟨"0", .atomic⟩, pass)
  | some block, pass => block.writeValue customs pass

/-- Writes operands in turn, up to the first fault. -/
def writeOperands
    (customs : Customs) :
    List (Option Block) → Pass ν → Except Fault (List Value) × Pass ν
  | [], pass => (.ok [], pass)
  | operand :: rest, pass =>
      match writeOperand customs operand pass with
      | (.error fault, pass) => (.error fault, pass)
      | (.ok value, pass) =>
          let (result, pass) := writeOperands customs rest pass
          (result.map (value :: ·), pass)

/-- Operands that are written in turn are written one after the other. -/
theorem writeOperands_cons_ok
    {operand : Option Block}
    {rest : List (Option Block)}
    {values : List Value}
    (h : writeOperands customs (operand :: rest) pass = (.ok values, after)) :
    ∃ value others middle,
      values = value :: others ∧
      writeOperand customs operand pass = (.ok value, middle) ∧
      writeOperands customs rest middle = (.ok others, after) := by
  rw [writeOperands] at h
  split at h
  · cases h
  · rename_i value middle hvalue
    cases hrest : writeOperands customs rest middle with
    | mk result last =>
        rw [hrest] at h
        cases result with
        | error fault =>
            cases h
        | ok others =>
            obtain ⟨hvalues, rfl⟩ := Prod.mk.inj h
            exact ⟨value, others, middle, (Except.ok.inj hvalues).symm, hvalue, hrest⟩

/-- Operands that are written in turn are written in two parts. -/
theorem writeOperands_append_ok
    {first second : List (Option Block)}
    {values : List Value}
    (h : writeOperands customs (first ++ second) pass = (.ok values, after)) :
    ∃ left right middle,
      values = left ++ right ∧
      writeOperands customs first pass = (.ok left, middle) ∧
      writeOperands customs second middle = (.ok right, after) := by
  induction first generalizing pass values with
  | nil =>
      exact ⟨[], values, pass, rfl, rfl, h⟩
  | cons operand rest ih =>
      obtain ⟨value, others, middle, rfl, hvalue, hothers⟩ := writeOperands_cons_ok h
      obtain ⟨left, right, last, rfl, hleft, hright⟩ := ih hothers
      refine ⟨value :: left, right, last, rfl, ?_, hright⟩
      simp only [writeOperands, hvalue, hleft]
      rfl

/-- As many values are written as there are operands. -/
theorem length_of_writeOperands
    {operands : List (Option Block)}
    {values : List Value}
    (h : writeOperands customs operands pass = (.ok values, after)) :
    values.length = operands.length := by
  induction operands generalizing pass values with
  | nil =>
      cases h
      rfl
  | cons operand rest ih =>
      obtain ⟨value, others, middle, rfl, _, hothers⟩ := writeOperands_cons_ok h
      rw [List.length_cons, List.length_cons, ih hothers]

/-- A slot has the code of what is plugged into it, if there is something. -/
theorem Inputs.write_of_writeOperand
    {slot : String}
    {value : Value}
    (allowed : BindingLevel)
    (inputs : Inputs)
    (h : writeOperand customs (inputs.block? slot) pass = (.ok value, after)) :
    inputs.write customs slot allowed pass =
      (.ok ((inputs.block? slot).map fun _ => value.operand allowed), after) := by
  rw [Inputs.write_eq]
  cases hblock : inputs.block? slot with
  | none =>
      rw [hblock] at h
      cases h
      rfl
  | some child =>
      rw [hblock] at h
      have hchild : child.writeValue customs pass = (.ok value, after) := h
      rw [Option.elim_some, hchild]
      rfl

/-- What is plugged into a slot is written as an operand of its own and then put into its place. -/
theorem run_operandOr_zero
    {inputs : Inputs}
    {slot : String}
    {value : Value}
    (allowed : BindingLevel)
    (h : writeOperand customs (inputs.block? slot) pass = (.ok value, after)) :
    (Recipe.operandOr slot allowed "0").run (Pass.supplier (inputs.write customs)) pass =
      (.ok (value.operand allowed), after) := by
  have hslot : (Pass.supplier (inputs.write customs)).operand slot allowed pass = _ :=
    inputs.write_of_writeOperand allowed h
  rw [Recipe.operandOr, Recipe.run_bind, Recipe.run_operand?, hslot]
  cases hblock : inputs.block? slot with
  | none =>
      rw [hblock] at h
      cases h
      rfl
  | some child =>
      rfl

/-- The codes of values with an operator between them. -/
def ArithmeticOperator.joined
    (operator : ArithmeticOperator)
    (values : List Value) : String :=
  operator.symbol.intercalate (values.map Value.code)

namespace ArithmeticOperator.Chain

variable {operator : ArithmeticOperator}

/-- An operator block is written as its two operands with the operator between them. -/
theorem write_node
    (hcustoms : customs.writer? "math_arithmetic" = none)
    {block : Block}
    (hkind : block.kind = .ok .arithmetic)
    (hoperator : block.readTag "OP" = .ok operator)
    {left right : Value}
    {middle : Pass ν}
    (hleft : writeOperand customs (block.input? "A") pass = (.ok left, middle))
    (hright : writeOperand customs (block.input? "B") middle = (.ok right, after)) :
    block.write customs pass =
      (.ok (.expression
        (left.operand operator.leftLevel ++ operator.symbol ++ right.operand operator.rightLevel)
        operator.level), after) := by
  have htype : block.blockType = "math_arithmetic" := (Tagged.tag_of_read hkind).symm
  have hrecipe : customs.recipe block = arithmeticRecipe block := by
    simp only [Customs.recipe, htype, hcustoms, mathRecipe, hkind]
    rfl
  have hfirst := run_operandOr_zero operator.leftLevel hleft
  have hsecond := run_operandOr_zero operator.rightLevel hright
  rw [Block.write_eq, hrecipe, arithmeticRecipe, hoperator]
  rw [Recipe.run_bind, Recipe.run_check]
  simp only [Recipe.run_bind, hfirst, hsecond]
  rfl

/--
A chain in its place is written as its leaves with the operator between them, and needs no
parentheses there.
-/
theorem writeOperand
    (hcustoms : customs.writer? "math_arithmetic" = none)
    {operand : Option Block}
    {leaves : List (Option Block)}
    (h : operator.Chain operand leaves)
    {allowed : BindingLevel}
    (hallowed : leaves.length = 1 ∨ operator.level ≤ allowed)
    {values : List Value}
    (hleaves : writeOperands customs leaves pass = (.ok values, after))
    (hlevels : List.Forall₂ (fun value level => value.level ≤ level) values
      (operator.levelsWithin allowed leaves.length)) :
    ∃ value,
      MathBlocks.writeOperand customs operand pass = (.ok value, after) ∧
      value.code = operator.joined values ∧
      value.level ≤ allowed ∧
      (1 < leaves.length → value.level = operator.level) := by
  induction h generalizing pass after allowed values with
  | leaf operand =>
      obtain ⟨value, others, middle, rfl, hvalue, hothers⟩ := writeOperands_cons_ok hleaves
      cases hothers
      cases hlevels with
      | cons hlevel _ =>
          exact ⟨value, hvalue, by simp [joined], hlevel, fun hlong => absurd hlong (by simp)⟩
  | @node block left right hkind hoperator hleftChain hrightChain hleftNests hrightNests ihLeft
      ihRight =>
      obtain ⟨first, second, middle, rfl, hfirst, hsecond⟩ := writeOperands_append_ok hleaves
      have hleftPos := hleftChain.length_pos
      have hrightPos := hrightChain.length_pos
      have hlong : operator.levelsWithin allowed (left ++ right).length =
          operator.levelsWithin operator.leftLevel left.length ++
            operator.levelsWithin operator.rightLevel right.length := by
        obtain ⟨m, hm⟩ := Nat.exists_eq_add_of_le' hleftPos
        obtain ⟨n, hn⟩ := Nat.exists_eq_add_of_le' hrightPos
        rw [List.length_append, hm, hn, levelsWithin, if_neg (by omega)]
        exact leafLevels_add m n (hm ▸ hleftNests) (hn ▸ hrightNests)
      rw [hlong] at hlevels
      have hcount : (operator.levelsWithin operator.leftLevel left.length).length =
          first.length := by
        rw [length_levelsWithin hleftPos, length_of_writeOperands hfirst]
      have hfirstLevels := List.forall₂_take_append _ _ _ hlevels
      have hsecondLevels := List.forall₂_drop_append _ _ _ hlevels
      rw [hcount, List.take_left] at hfirstLevels
      rw [hcount, List.drop_left] at hsecondLevels
      obtain ⟨a, ha, hacode, halevel, _⟩ :=
        ihLeft (hleftNests.symm.imp_right level_le_leftLevel) hfirst hfirstLevels
      obtain ⟨b, hb, hbcode, hblevel, _⟩ :=
        ihRight (hrightNests.symm.imp_right level_le_rightLevel) hsecond hsecondLevels
      have hwrite := write_node hcustoms hkind hoperator ha hb
      have hjoined : operator.joined (first ++ second) =
          a.operand operator.leftLevel ++ operator.symbol ++ b.operand operator.rightLevel := by
        have hfirstCodes : first.map Value.code ≠ [] := by
          rw [← List.length_pos_iff, List.length_map, length_of_writeOperands hfirst]
          exact hleftPos
        have hsecondCodes : second.map Value.code ≠ [] := by
          rw [← List.length_pos_iff, List.length_map, length_of_writeOperands hsecond]
          exact hrightPos
        rw [joined, List.map_append, String.intercalate_append_of_ne_nil hfirstCodes hsecondCodes,
          Value.operand, Value.operand, BindingLevel.enclose_of_le _ halevel,
          BindingLevel.enclose_of_le _ hblevel, hacode, hbcode]
        rfl
      refine ⟨⟨_, operator.level⟩, ?_, hjoined.symm, ?_, fun _ => rfl⟩
      · simp only [MathBlocks.writeOperand, Block.writeValue, hwrite]
        rfl
      · exact hallowed.resolve_left (by rw [List.length_append]; omega)

end ArithmeticOperator.Chain

namespace Compiler

/--
Whatever a compiler was asked before and whatever writers it has for other blocks, a chain of an
operator block is written as the codes of its leaves, from left to right, with the operator between
them and without a parenthesis around any, if the leaves are written in turn as values that bind as
tightly as the chain asks. The whole binds like the operator, and nothing else is asked for than by
the leaves.
-/
theorem writeBlock_chain
    (compiler : Compiler ν)
    (hcustoms : compiler.customs.writer? "math_arithmetic" = none)
    {operator : ArithmeticOperator}
    {block : Block}
    {leaves : List (Option Block)}
    (hchain : operator.Chain (some block) leaves)
    (hlong : 1 < leaves.length)
    {values : List Value}
    {after : Pass ν}
    (hleaves : writeOperands compiler.customs leaves compiler.pass = (.ok values, after))
    (hlevels : List.Forall₂ (fun value level => value.level ≤ level) values
      (operator.leafLevels leaves.length)) :
    compiler.writeBlock block =
      (.ok (.expression (operator.symbol.intercalate (values.map Value.code)) operator.level),
        { compiler with pass := after }) := by
  have hwithin : operator.levelsWithin .any leaves.length = operator.leafLevels leaves.length := by
    rw [ArithmeticOperator.levelsWithin, if_neg (by omega)]
  rw [← hwithin] at hlevels
  obtain ⟨value, hvalue, hcode, _, hlevel⟩ :=
    hchain.writeOperand hcustoms (Or.inr (BindingLevel.le_any _)) hleaves hlevels
  obtain ⟨hresult, hafter⟩ := Prod.mk.inj hvalue
  obtain ⟨code, hwrite, hasValue⟩ := exists_of_bind_ok hresult
  obtain rfl : code = .value value := by
    cases code with
    | value other =>
        rw [Except.ok.inj hasValue]
    | statement lines =>
        cases hasValue
  have hblock : block.write compiler.customs compiler.pass = (.ok (.value value), after) :=
    Prod.ext hwrite hafter
  have hvalue : value = ⟨operator.joined values, operator.level⟩ := by
    rw [← hcode, ← hlevel hlong]
  rw [writeBlock, hblock, hvalue]
  rfl

/-- A sum of sums is written flat, with a difference and with nothing among what it adds. -/
theorem writeBlock_chain_sum :
    let number (text : String) := Block.node "math_number" [("NUM", text)] .empty
    let difference := Block.node "math_arithmetic" [("OP", "MINUS")]
      (.plug "A" (number "2") (.plug "B" (number "-3") .empty))
    let sum := Block.node "math_arithmetic" [("OP", "ADD")]
      (.plug "A" (number "-1") (.plug "B"
        (.node "math_arithmetic" [("OP", "ADD")] (.plug "A" difference .empty)) .empty))
    ArithmeticOperator.add.Chain (some sum) [some (number "-1"), some difference, none] ∧
    ((new .standard).writeBlock sum).1 = .ok (.expression "-1 + 2 - -3 + 0" .sum) := by
  intro number difference sum
  have hchain : ArithmeticOperator.add.Chain (some sum)
      ([some (number "-1")] ++ ([some difference] ++ [none])) :=
    .node rfl rfl (.leaf _) (.node rfl rfl (.leaf _) (.leaf _) (.inl rfl) (.inl rfl)) (.inl rfl)
      (.inl rfl)
  have hleaves : writeOperands [] [some (number "-1"), some difference, none] (new .standard).pass =
      (.ok [⟨"-1", .unary⟩, ⟨"2 - -3", .sum⟩, ⟨"0", .atomic⟩], (new .standard).pass) := by
    decide +kernel
  refine ⟨hchain, ?_⟩
  rw [writeBlock_chain (new .standard) rfl hchain (by decide) hleaves (by decide)]
  decide +kernel

end Compiler

end Writing
end MathBlocks
