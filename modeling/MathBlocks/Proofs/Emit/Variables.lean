import MathBlocks.Proofs.Emit.Serving
import MathBlocks.Proofs.Names.Distinct

/-!
# The variables of a program

The variables that a program changes are listed in the order in which they are declared, before any
block is written. `Recipe.Identifies` says which variables a recipe asks for: those of math blocks
are among the ones that were declared.
-/

namespace MathBlocks

/-- Blocks of one type alone are statements. -/
theorem isStatementType_iff
    (blockType : String) :
    isStatementType blockType = true ↔ blockType = "math_change" := by
  constructor
  · intro h
    unfold isStatementType at h
    cases hread : (Tagged.read blockType : Except Fault BlockKind) with
    | error fault =>
        simp [hread] at h
    | ok kind =>
        have hstatement : kind.isStatement = true := by
          simpa [hread] using h
        obtain rfl : kind = .change := by
          cases kind with
          | change =>
              rfl
          | _ =>
              cases hstatement
        exact (Tagged.tag_of_read hread).symm
  · rintro rfl
    decide

mutual

/-- The variables that a block and the blocks in it change, as often as they do. -/
def Block.variables : Block → List String
  | .node blockType fields inputs =>
      (if blockType = "math_change" then (fields.text? "VAR").toList else []) ++ inputs.variables

/-- The variables that the blocks plugged in change. -/
def Inputs.variables : Inputs → List String
  | .empty => []
  | .plug _ child rest => child.variables ++ rest.variables

end

/-- The variables that a program changes, as often as it does. -/
def Program.variables (program : Program) : List String :=
  program.blocks.flatMap Block.variables

mutual

/-- A block declares its variables in turn. -/
theorem Block.declare_eq
    (names : NameDirectory) :
    (block : Block) →
    block.declare names = names.after (block.variables.map .identify)
  | .node blockType fields inputs => by
      rw [Block.declare, Block.variables, List.map_append, NameDirectory.after_append]
      by_cases h : blockType = "math_change"
      · have hstatement : isStatementType blockType = true := (isStatementType_iff _).mpr h
        rw [if_pos h, hstatement]
        cases fields.text? "VAR" with
        | none =>
            exact inputs.declare_eq names
        | some name =>
            exact inputs.declare_eq (names.identify name).2
      · have hstatement : isStatementType blockType = false :=
          Bool.eq_false_iff.mpr fun hstatement => h ((isStatementType_iff _).mp hstatement)
        rw [if_neg h, hstatement]
        exact inputs.declare_eq names

theorem Inputs.declare_eq
    (names : NameDirectory) :
    (inputs : Inputs) →
    inputs.declare names = names.after (inputs.variables.map .identify)
  | .empty => rfl
  | .plug slot child rest => by
      rw [Inputs.declare, Inputs.variables, List.map_append, NameDirectory.after_append,
        child.declare_eq names]
      exact rest.declare_eq _

end

namespace Recipe

variable {α β : Type} {known : String → Prop}

/-- Whether all variables that a recipe asks for are known ones, whatever it is answered. -/
def Identifies (known : String → Prop) : Recipe String α → Prop
  | .done _ => True
  | .fail _ => True
  | .operand _ _ next => ∀ answer, (next answer).Identifies known
  | .helper _ _ next => ∀ identifier, (next identifier).Identifies known
  | .identifier name next => known name ∧ ∀ identifier, (next identifier).Identifies known

/-- Every variable that a recipe asks for is one. -/
theorem identifies_true
    (recipe : Recipe String α) :
    recipe.Identifies fun _ => True := by
  induction recipe with
  | done result =>
      trivial
  | fail fault =>
      trivial
  | operand slot allowed next ih =>
      exact ih
  | helper name template next ih =>
      exact ih
  | identifier name next ih =>
      exact ⟨trivial, ih⟩

namespace Identifies

theorem bind
    {recipe : Recipe String α}
    {next : α → Recipe String β}
    (h : recipe.Identifies known)
    (hnext : ∀ result, (next result).Identifies known) :
    (recipe >>= next).Identifies known := by
  show (recipe.andThen next).Identifies known
  induction recipe with
  | done result =>
      exact hnext result
  | fail fault =>
      trivial
  | operand slot allowed ask ih =>
      exact fun answer => ih answer (h answer)
  | helper name template ask ih =>
      exact fun identifier => ih identifier (h identifier)
  | identifier name ask ih =>
      exact ⟨h.1, fun identifier => ih identifier (h.2 identifier)⟩

/-- A recipe that goes on after a check asks for nothing if the check fails. -/
theorem check
    {outcome : Except Fault α}
    {next : α → Recipe String β}
    (hnext : ∀ result, outcome = .ok result → (next result).Identifies known) :
    (Recipe.check outcome >>= next).Identifies known := by
  cases outcome with
  | ok result =>
      exact hnext result rfl
  | error fault =>
      trivial

theorem operand?
    (slot : String)
    (allowed : BindingLevel) :
    (Recipe.operand? slot allowed).Identifies known := by
  intro answer
  cases answer <;> trivial

/-- A recipe that goes on with the code of an operand. -/
theorem operandOr
    {slot : String}
    {allowed : BindingLevel}
    {standIn : String}
    {next : String → Recipe String β}
    (hnext : ∀ code, (next code).Identifies known) :
    (Recipe.operandOr slot allowed standIn >>= next).Identifies known :=
  bind (bind (operand? slot allowed) fun _ => trivial) hnext

/-- A recipe that goes on with the identifier of a helper. -/
theorem request
    {name : String}
    {template : List String}
    {next : String → Recipe String β}
    (hnext : ∀ identifier, (next identifier).Identifies known) :
    (Recipe.request name template >>= next).Identifies known :=
  bind (fun _ => trivial) hnext

end Identifies
end Recipe

variable {known : String → Prop}

theorem ListOperator.helperRecipe_identifies
    (operator : ListOperator) :
    operator.helperRecipe.Identifies known := by
  cases operator with
  | average =>
      exact .request fun _ _ => trivial
  | standardDeviation =>
      exact .request fun _ _ => trivial
  | _ =>
      exact fun _ => trivial

theorem NumberProperty.recipe_identifies
    (property : NumberProperty)
    (subject : String) :
    (property.recipe subject).Identifies known := by
  cases property with
  | divisibleBy =>
      refine .bind (.operand? "DIVISOR" .product) ?_
      intro answer
      cases answer with
      | none =>
          trivial
      | some divisor =>
          simp only
          split <;> trivial
  | prime =>
      exact .request fun _ => trivial
  | _ =>
      trivial

theorem functionRecipe_identifies
    (block : Block) :
    (functionRecipe block).Identifies known :=
  .check fun _ _ => .operandOr fun _ => trivial

/-- The recipe of a math block asks for no variable but the one that the block changes. -/
theorem BlockKind.recipe_identifies
    (kind : BlockKind)
    {block : Block}
    (h : kind = .change → ∀ name, block.fields.text? "VAR" = some name → known name) :
    (kind.recipe block).Identifies known := by
  cases kind with
  | number =>
      exact .check fun _ _ => .check fun _ _ => trivial
  | arithmetic =>
      exact .check fun _ _ => .operandOr fun _ => .operandOr fun _ => trivial
  | single =>
      exact functionRecipe_identifies block
  | round =>
      exact functionRecipe_identifies block
  | trig =>
      exact functionRecipe_identifies block
  | constant =>
      exact .check fun _ _ => trivial
  | numberProperty =>
      exact .check fun property _ => .operandOr fun subject => property.recipe_identifies subject
  | onList =>
      exact .check fun operator _ => .operandOr fun _ =>
        .bind operator.helperRecipe_identifies fun _ => trivial
  | modulo =>
      exact .operandOr fun _ => .operandOr fun _ => trivial
  | constrain =>
      exact .operandOr fun _ => .operandOr fun _ => .operandOr fun _ => trivial
  | randomInt =>
      exact .operandOr fun _ => .operandOr fun _ => trivial
  | randomFloat =>
      trivial
  | atan2 =>
      exact .operandOr fun _ => .operandOr fun _ => trivial
  | change =>
      refine .check fun name hname => .operandOr fun _ => ?_
      exact ⟨h rfl name (Block.text?_of_neededField hname), fun _ => trivial⟩

mutual

/-- Whether all variables that the writing of a block can ask for are known ones. -/
def Block.Identifies
    (customs : Customs)
    (known : String → Prop) : Block → Prop
  | .node blockType fields inputs =>
      (customs.recipe (.node blockType fields inputs)).Identifies known ∧
        inputs.Identifies customs known

/-- Whether all variables that the writing of the blocks plugged in can ask for are known ones. -/
def Inputs.Identifies
    (customs : Customs)
    (known : String → Prop) : Inputs → Prop
  | .empty => True
  | .plug _ child rest => child.Identifies customs known ∧ rest.Identifies customs known

end

mutual

theorem Block.identifies_true
    (customs : Customs) :
    (block : Block) →
    block.Identifies customs fun _ => True
  | .node _ _ inputs => ⟨Recipe.identifies_true _, inputs.identifies_true customs⟩

theorem Inputs.identifies_true
    (customs : Customs) :
    (inputs : Inputs) →
    inputs.Identifies customs fun _ => True
  | .empty => trivial
  | .plug _ child rest => ⟨child.identifies_true customs, rest.identifies_true customs⟩

end

mutual

/-- The writing of a math block asks for no variables but those that are changed in it. -/
theorem Block.identifies_variables :
    (block : Block) →
    (∀ name ∈ block.variables, known name) →
    block.Identifies [] known
  | .node blockType fields inputs, h => by
      rw [Block.variables] at h
      obtain ⟨hown, hinputs⟩ := List.forall_mem_append.mp h
      refine ⟨?_, inputs.identifies_variables hinputs⟩
      show (mathRecipe (.node blockType fields inputs)).Identifies known
      refine .check fun kind hkind => kind.recipe_identifies ?_
      rintro rfl name hname
      have hread : (Tagged.read blockType : Except Fault BlockKind) = .ok .change := hkind
      have hstatement : isStatementType blockType = true := by
        rw [isStatementType, hread]
        rfl
      have hfield : fields.text? "VAR" = some name := hname
      rw [if_pos ((isStatementType_iff _).mp hstatement), hfield] at hown
      exact hown name List.mem_cons_self

theorem Inputs.identifies_variables :
    (inputs : Inputs) →
    (∀ name ∈ inputs.variables, known name) →
    inputs.Identifies [] known
  | .empty, _ => trivial
  | .plug _ child rest, h => by
      obtain ⟨hchild, hrest⟩ := List.forall_mem_append.mp h
      exact ⟨child.identifies_variables hchild, rest.identifies_variables hrest⟩

end

end MathBlocks
