import MathBlocks.Proofs.Decimal.Positional
import MathBlocks.Proofs.Emit.Asking
import MathBlocks.Proofs.Emit.Visits

/-!
# What the recipes ask for

One theorem for the recipe of each kind of block: it fails with the fault of the block, if there is
one, and else it asks for the slots of its kind in their order, and writes one expression, or one
line for a statement, whose characters are those of its operands and printable ones.
-/

namespace MathBlocks

/-- A field that a block cannot do without is a fault if it is missing. -/
theorem Block.faultIn_neededField
    (block : Block)
    (name : String) :
    faultIn (block.neededField name) = block.fieldFault? name := by
  unfold Block.neededField Block.fieldFault?
  cases block.fields.text? name <;> rfl

/-- A text has a meaning, or it is none of the table. -/
theorem Tagged.faultIn_read
    {α : Type}
    [Tagged α]
    (text : String) :
    faultIn (Tagged.read text : Except Fault α) =
      if text ∈ (Tagged.all : List α).map Tagged.tag then none
      else some (.unknownTag (Tagged.table α) text) := by
  unfold Tagged.read
  cases h : (Tagged.all : List α).find? fun meaning => Tagged.tag meaning = text with
  | none =>
      have hnone : text ∉ (Tagged.all : List α).map Tagged.tag := by
        simpa [List.find?_eq_none] using h
      rw [if_neg hnone]
      rfl
  | some meaning =>
      have htag : Tagged.tag meaning = text := by
        simpa using List.find?_some h
      have hmem : text ∈ (Tagged.all : List α).map Tagged.tag :=
        List.mem_map.mpr ⟨meaning, List.mem_of_find?_eq_some h, htag⟩
      rw [if_pos hmem]
      rfl

theorem Block.faultIn_readTag
    {α : Type}
    [Tagged α]
    (block : Block)
    (name : String) :
    faultIn (block.readTag name : Except Fault α) = block.tagFault? α name := by
  unfold Block.readTag Block.neededField Block.tagFault?
  cases block.fields.text? name with
  | none =>
      rfl
  | some text =>
      exact Tagged.faultIn_read text

/-- A text that denotes a number is written, any other one is a fault. -/
theorem faultIn_numberValue
    (block : Block)
    {text : String}
    (htext : block.fields.text? "NUM" = some text) :
    faultIn (numberValue text) = block.numberFault? := by
  simp only [numberValue, Block.numberFault?, htext]
  cases Numeral.ofChars? (Text.trim text.toList) with
  | none =>
      rfl
  | some numeral =>
      cases numeral with
      | finite negative digits exponent =>
          by_cases hlimit : Binary64.limit ≤ Binary64.ofDecimal digits exponent <;>
            simp [Numeral.value?, hlimit]
      | infinite negative =>
          rfl
      | notANumber =>
          rfl

/-- Whether code is a value or one line of a statement, over a class of characters. -/
def Code.Fits
    (fit : Char → Prop)
    (statement : Bool) :
    Code → Prop
  | .value v => statement = false ∧ Text.Over fit v.code
  | .statement lines => statement = true ∧ ∃ line, lines = [line] ∧ Text.Over fit line

/-- A recipe of a block of that kind: it fails as the kind says, or asks for its slots. -/
def BlockKind.Specifies
    (fit : Char → Prop)
    (block : Block)
    (kind : BlockKind)
    (recipe : Recipe String Code) : Prop :=
  recipe.Follows fit (Code.Fits fit kind.isStatement) (kind.ownFault? block) (kind.slots block)

section Recipes

variable
  {fit : Char → Prop}
  (hfit : ∀ c, Text.isPrintable c = true → fit c)
  (block : Block)

include hfit

/-- Digits and points are printable. -/
theorem Text.over_positional
    (digits : Nat)
    (exponent : Int) :
    Text.Over fit (String.ofList (positional digits exponent)) := by
  obtain ⟨c, rest, hlist, hc, hrest⟩ := Numeral.positional_shape digits exponent
  have hdigit : ∀ d : Char, d.isDigit = true → fit d := by
    intro d hd
    refine hfit d ?_
    simp only [Char.isDigit, Bool.and_eq_true, decide_eq_true_eq, UInt32.le_iff_toNat_le] at hd
    simp only [Text.isPrintable, Bool.and_eq_true, decide_eq_true_eq]
    exact ⟨Nat.le_trans (by decide) hd.1, Nat.le_trans hd.2 (by decide)⟩
  intro d hd
  rw [String.toList_ofList, hlist] at hd
  rcases List.mem_cons.mp hd with rfl | hd
  · exact hdigit _ hc
  · rcases hrest d hd with hd | rfl
    · exact hdigit d hd
    · exact hfit '.' (by decide)

theorem numberValue_over
    {text : String}
    {value : Value}
    (h : numberValue text = .ok value) :
    Text.Over fit value.code := by
  have hsigned : ∀ negative, Text.Over fit (infinityValue negative).code := by
    intro negative
    cases negative <;> exact Text.over_of_printable hfit (by decide)
  unfold numberValue at h
  split at h
  · rename_i found hfound
    obtain rfl : found = value := by simpa using h
    obtain ⟨numeral, _, hvalue⟩ := Option.bind_eq_some_iff.mp hfound
    cases numeral with
    | notANumber =>
        cases hvalue
    | infinite negative =>
        obtain rfl : infinityValue negative = found := by simpa [Numeral.value?] using hvalue
        exact hsigned negative
    | finite negative digits exponent =>
        simp only [Numeral.value?] at hvalue
        split at hvalue
        · obtain rfl : infinityValue negative = found := by simpa using hvalue
          exact hsigned negative
        · obtain rfl : finiteValue negative _ = found := by simpa using hvalue
          have hdigits := Text.over_positional hfit
          unfold finiteValue
          simp only
          split
          · rw [Text.over_append]
            exact ⟨Text.over_of_printable hfit (by decide), hdigits _ _⟩
          · exact hdigits _ _
  · cases h

theorem numberRecipe_specified :
    BlockKind.number.Specifies fit block (numberRecipe block) := by
  show (numberRecipe block).Follows fit (Code.Fits fit false) block.numberFault? []
  cases htext : block.fields.text? "NUM" with
  | none =>
      have hfield : block.neededField "NUM" = .error (.missingField block.blockType "NUM") := by
        simp [Block.neededField, htext]
      have hfault : block.numberFault? = some (.missingField block.blockType "NUM") := by
        simp [Block.numberFault?, htext]
      rw [numberRecipe, hfield, hfault]
      rfl
  | some text =>
      have hfield : block.neededField "NUM" = .ok text := by
        simp [Block.neededField, htext]
      have hvalue : (Recipe.check (numberValue text) >>= fun value =>
          (pure (Code.value value) : Recipe String Code)).Follows fit (Code.Fits fit false)
            block.numberFault? [] := by
        refine Recipe.Follows.check (faultIn_numberValue block htext) ?_
        intro value hvalue
        exact .done ⟨rfl, numberValue_over hfit hvalue⟩
      rw [numberRecipe, hfield]
      exact hvalue

/-- An operand that is zero where nothing is plugged in. -/
theorem Recipe.Asks.operandOrZero
    (slot : String)
    (allowed : BindingLevel) :
    Recipe.Asks fit (Text.Over fit) [slot] (Recipe.operandOr slot allowed "0") :=
  .operandOr slot allowed (Text.over_of_printable hfit (by decide))

/-- An operator asks for its two operands. -/
theorem arithmeticRecipe_specified :
    BlockKind.arithmetic.Specifies fit block (arithmeticRecipe block) := by
  refine Recipe.Follows.check (block.faultIn_readTag "OP") ?_
  intro operator _
  have hsymbol : Text.Over fit operator.symbol := by
    cases operator <;> exact Text.over_of_printable hfit (by decide)
  refine Recipe.Asks.bind (.operandOrZero hfit "A" _) ?_
  intro left hleft
  refine Recipe.Asks.bind (.operandOrZero hfit "B" _) ?_
  intro right hright
  refine .done ⟨rfl, ?_⟩
  simp [hleft, hsymbol, hright]

theorem moduloRecipe_specified :
    BlockKind.modulo.Specifies fit block moduloRecipe := by
  have hsymbol : Text.Over fit " % " := Text.over_of_printable hfit (by decide)
  refine Recipe.Asks.bind (.operandOrZero hfit "DIVIDEND" _) ?_
  intro dividend hdividend
  refine Recipe.Asks.bind (.operandOrZero hfit "DIVISOR" _) ?_
  intro divisor hdivisor
  refine .done ⟨rfl, ?_⟩
  simp [hdividend, hsymbol, hdivisor]

/-- A change asks for its operand before it asks for its variable. -/
theorem changeRecipe_specified :
    BlockKind.change.Specifies fit block (changeRecipe block) := by
  refine Recipe.Follows.check (block.faultIn_neededField "VAR") ?_
  intro name _
  have hequals : Text.Over fit " = " := Text.over_of_printable hfit (by decide)
  have hplus : Text.Over fit " + " := Text.over_of_printable hfit (by decide)
  refine Recipe.Asks.bind (.operandOrZero hfit "DELTA" _) ?_
  intro delta hdelta
  refine Recipe.Asks.bind (.identify name) ?_
  intro identifier hidentifier
  refine .done ⟨rfl, _, rfl, ?_⟩
  simp [hidentifier, hequals, hplus, hdelta]

theorem functionRecipe_specified :
    BlockKind.single.Specifies fit block (functionRecipe block) := by
  refine Recipe.Follows.check (block.faultIn_readTag "OP") ?_
  intro operator _
  have hframe : Text.Over fit operator.frame.before ∧ Text.Over fit operator.frame.after := by
    cases operator <;>
      exact ⟨Text.over_of_printable hfit (by decide), Text.over_of_printable hfit (by decide)⟩
  refine Recipe.Asks.bind (.operandOrZero hfit "NUM" _) ?_
  intro operand hoperand
  have hgap : Text.Over fit (operator.gap operand) := by
    unfold MathOperator.gap
    split <;> exact Text.over_of_printable hfit (by decide)
  refine .done ⟨rfl, ?_⟩
  simp [hframe.1, hgap, hoperand, hframe.2]

theorem constantRecipe_specified :
    BlockKind.constant.Specifies fit block (constantRecipe block) := by
  refine Recipe.Follows.check (block.faultIn_readTag "CONSTANT") ?_
  intro constant _
  refine .done ⟨rfl, ?_⟩
  cases constant <;> exact Text.over_of_printable hfit (by decide)

theorem constrainRecipe_specified :
    BlockKind.constrain.Specifies fit block constrainRecipe := by
  have hlowest : Text.Over fit "-math.huge" := Text.over_of_printable hfit (by decide)
  have hhighest : Text.Over fit "math.huge" := Text.over_of_printable hfit (by decide)
  have hopening : Text.Over fit "math.min(math.max(" := Text.over_of_printable hfit (by decide)
  have hcomma : Text.Over fit ", " := Text.over_of_printable hfit (by decide)
  have hmiddle : Text.Over fit "), " := Text.over_of_printable hfit (by decide)
  have hclosing : Text.Over fit ")" := Text.over_of_printable hfit (by decide)
  refine Recipe.Asks.bind (.operandOrZero hfit "VALUE" _) ?_
  intro value hvalue
  refine Recipe.Asks.bind (.operandOr "LOW" _ hlowest) ?_
  intro low hlow
  refine Recipe.Asks.bind (.operandOr "HIGH" _ hhighest) ?_
  intro high hhigh
  refine .done ⟨rfl, ?_⟩
  simp [hopening, hvalue, hcomma, hlow, hmiddle, hhigh, hclosing]

/-- An angle asks for the two places of its point in their order, and writes them in the other. -/
theorem angleRecipe_specified :
    BlockKind.atan2.Specifies fit block angleRecipe := by
  have hopening : Text.Over fit "math.deg(math.atan2(" := Text.over_of_printable hfit (by decide)
  have hcomma : Text.Over fit ", " := Text.over_of_printable hfit (by decide)
  have hclosing : Text.Over fit "))" := Text.over_of_printable hfit (by decide)
  refine Recipe.Asks.bind (.operandOrZero hfit "X" _) ?_
  intro x hx
  refine Recipe.Asks.bind (.operandOrZero hfit "Y" _) ?_
  intro y hy
  refine .done ⟨rfl, ?_⟩
  simp [hopening, hx, hcomma, hy, hclosing]

theorem randomIntRecipe_specified :
    BlockKind.randomInt.Specifies fit block randomIntRecipe := by
  have hopening : Text.Over fit "math.random(" := Text.over_of_printable hfit (by decide)
  have hcomma : Text.Over fit ", " := Text.over_of_printable hfit (by decide)
  have hclosing : Text.Over fit ")" := Text.over_of_printable hfit (by decide)
  refine Recipe.Asks.bind (.operandOrZero hfit "FROM" _) ?_
  intro low hlow
  refine Recipe.Asks.bind (.operandOrZero hfit "TO" _) ?_
  intro high hhigh
  refine .done ⟨rfl, ?_⟩
  simp [hopening, hlow, hcomma, hhigh, hclosing]

theorem randomFloatRecipe_specified :
    BlockKind.randomFloat.Specifies fit block randomFloatRecipe :=
  .done ⟨rfl, Text.over_of_printable hfit (by decide)⟩

/-- The call of a helper that a recipe asks for. -/
theorem Recipe.Asks.call
    {recipe : Recipe String String}
    (hrecipe : recipe.Asks fit (Text.Over fit) [])
    {argument : String}
    (hargument : Text.Over fit argument) :
    Recipe.Asks fit (Code.Fits fit false) []
      (recipe >>= fun function =>
        pure (Code.expression (function ++ "(" ++ argument ++ ")") .call)) := by
  refine hrecipe.finish ?_
  intro function hfunction
  have hopening : Text.Over fit "(" := Text.over_of_printable hfit (by decide)
  have hclosing : Text.Over fit ")" := Text.over_of_printable hfit (by decide)
  refine .done ⟨rfl, ?_⟩
  simp [hfunction, hopening, hargument, hclosing]

omit hfit in
theorem ListOperator.helperRecipe_asks
    (operator : ListOperator) :
    operator.helperRecipe.Asks fit (Text.Over fit) [] := by
  cases operator with
  | average =>
      exact .helper fun _ _ => .request _ _
  | standardDeviation =>
      exact .helper fun _ _ => .request _ _
  | _ =>
      exact .request _ _

theorem statisticRecipe_specified :
    BlockKind.onList.Specifies fit block (statisticRecipe block) := by
  refine Recipe.Follows.check (block.faultIn_readTag "OP") ?_
  intro operator _
  have hempty : Text.Over fit "\x7b\x7d" := Text.over_of_printable hfit (by decide)
  refine Recipe.Asks.bind (.operandOr "LIST" _ hempty) ?_
  intro list hlist
  exact operator.helperRecipe_asks.call hfit hlist

/-- A question about a number asks for the divisor, if it needs one. -/
theorem NumberProperty.recipe_asks
    (property : NumberProperty)
    {subject : String}
    (hsubject : Text.Over fit subject) :
    (property.recipe subject).Asks fit (Code.Fits fit false)
      (if property = .divisibleBy then ["DIVISOR"] else []) := by
  have htest : ∀ text : String, Text.Printable text →
      Code.Fits fit false (.expression (subject ++ text) .comparison) := by
    intro text htext
    refine ⟨rfl, ?_⟩
    simp [hsubject, Text.over_of_printable hfit htext]
  cases property with
  | even =>
      exact .done (htest " % 2 == 0" (by decide))
  | odd =>
      exact .done (htest " % 2 == 1" (by decide))
  | whole =>
      exact .done (htest " % 1 == 0" (by decide))
  | positive =>
      exact .done (htest " > 0" (by decide))
  | negative =>
      exact .done (htest " < 0" (by decide))
  | prime =>
      exact (Recipe.Asks.request _ _).call hfit hsubject
  | divisibleBy =>
      have hnil : Code.Fits fit false (.expression "nil" .atomic) :=
        ⟨rfl, Text.over_of_printable hfit (by decide)⟩
      refine Recipe.Asks.finish (.operand? "DIVISOR" .product) ?_
      intro answer hanswer
      cases answer with
      | none =>
          exact .done hnil
      | some divisor =>
          have hsymbol : Text.Over fit " % " := Text.over_of_printable hfit (by decide)
          have hzero : Text.Over fit " == 0" := Text.over_of_printable hfit (by decide)
          simp only
          split
          · exact .done hnil
          · refine .done ⟨rfl, ?_⟩
            simp [hsubject, hsymbol, hanswer divisor rfl, hzero]

theorem propertyRecipe_specified :
    BlockKind.numberProperty.Specifies fit block (propertyRecipe block) := by
  refine Recipe.Follows.check (block.faultIn_readTag "PROPERTY") ?_
  intro property hread
  have hslots : BlockKind.numberProperty.slots block =
      ["NUMBER_TO_CHECK"] ++ if property = .divisibleBy then ["DIVISOR"] else [] := by
    cases property <;> simp [BlockKind.slots, hread]
  rw [hslots]
  refine Recipe.Asks.bind (.operandOrZero hfit "NUMBER_TO_CHECK" _) ?_
  intro subject hsubject
  exact property.recipe_asks hfit hsubject

/-- The recipe of every kind of block fails and asks as the kind says. -/
theorem BlockKind.recipe_specified
    (kind : BlockKind) :
    kind.Specifies fit block (kind.recipe block) := by
  cases kind with
  | number =>
      exact numberRecipe_specified hfit block
  | arithmetic =>
      exact arithmeticRecipe_specified hfit block
  | single =>
      exact functionRecipe_specified hfit block
  | round =>
      exact functionRecipe_specified hfit block
  | trig =>
      exact functionRecipe_specified hfit block
  | constant =>
      exact constantRecipe_specified hfit block
  | numberProperty =>
      exact propertyRecipe_specified hfit block
  | onList =>
      exact statisticRecipe_specified hfit block
  | modulo =>
      exact moduloRecipe_specified hfit block
  | constrain =>
      exact constrainRecipe_specified hfit block
  | randomInt =>
      exact randomIntRecipe_specified hfit block
  | randomFloat =>
      exact randomFloatRecipe_specified hfit block
  | atan2 =>
      exact angleRecipe_specified hfit block
  | change =>
      exact changeRecipe_specified hfit block

/-- A block fails with the fault in its type or fields, or else asks for the slots of its kind. -/
theorem mathRecipe_follows :
    (mathRecipe block).Follows fit (Code.Fits fit (isStatementType block.blockType))
      block.ownFault?
      (match block.kind with
        | .ok kind => kind.slots block
        | .error _ => []) := by
  unfold mathRecipe Block.ownFault? isStatementType
  cases hkind : block.kind with
  | ok kind =>
      have hread : (Tagged.read block.blockType : Except Fault BlockKind) = .ok kind := hkind
      rw [hread]
      exact kind.recipe_specified hfit block
  | error fault =>
      have hfault := Tagged.faultIn_read (α := BlockKind) block.blockType
      have hread : (Tagged.read block.blockType : Except Fault BlockKind) = .error fault := hkind
      rw [hread] at hfault
      split at hfault
      · cases hfault
      · obtain rfl : fault = .unknownTag .blockType block.blockType := Option.some.inj hfault
        rfl

end Recipes
end MathBlocks
