import MathBlocks.Proofs.Emit.Meaning

/-!
# Outlines

The outline of a block is what it is written as, with places where identifiers go. Each place has a
label that says whose identifier goes there: that of a helper, or that of a variable. Outlines know
of no identifiers, so they are the same whatever words a compiler has to keep off. Where a recipe
looks at the code of an operand, the outline looks at a sample of it, which has an underscore in
each place: as an identifier is neither a minus sign nor the numeral zero, what is seen is the same.
-/

namespace MathBlocks

/-- Whose identifier goes to a place: a helper's by logical name or a variable's by its key. -/
inductive Label where
  | ofHelper (logicalName : String)
  | ofVariable (key : String)
  deriving DecidableEq, Repr

/-- A piece of an outline. -/
inductive Piece where
  | text (text : String)
  | place (label : Label)
  deriving DecidableEq, Repr

namespace Piece

/-- The label of a place. -/
def label? : Piece → Option Label
  | .text _ => none
  | .place label => some label

/-- A piece with the identifier of its label in its place. -/
def filled
    (assign : Label → String) :
    Piece → String
  | .text code => code
  | .place label => assign label

end Piece

/-- A text with places for identifiers. -/
abbrev Outline := List Piece

namespace Outline

/-- The labels of the places, in turn. -/
def labels (outline : Outline) : List Label :=
  outline.filterMap Piece.label?

/-- An outline with the identifiers of the labels in their places. -/
def filled
    (assign : Label → String)
    (outline : Outline) : String :=
  String.join (outline.map (Piece.filled assign))

/-- An outline with an underscore in each place. -/
def sample (outline : Outline) : String :=
  outline.filled fun _ => "_"

/-- The outline of an expression of level `own`, in parentheses where they are asked for. -/
def enclose
    (own : BindingLevel)
    (code : Outline)
    (allowed : BindingLevel) : Outline :=
  if own.exceeds allowed then [.text "("] ++ code ++ [.text ")"] else code

theorem filled_cons
    (assign : Label → String)
    (piece : Piece)
    (rest : Outline) :
    filled assign (piece :: rest) = piece.filled assign ++ filled assign rest :=
  String.join_cons

end Outline

/-- The outline of what is written for a block. -/
inductive CodeOutline where
  | value (code : Outline) (level : BindingLevel)
  | statement (lines : List Outline)
  deriving DecidableEq, Repr

/-- The outlines of what is plugged into slots, each for a place of a level. -/
abbrev Slots := String → BindingLevel → Option (Option Outline)

/-- The outline of an operand, or the text that stands in for it if nothing is plugged in. -/
def Slots.orElse
    (slots : Slots)
    (slot : String)
    (allowed : BindingLevel)
    (standIn : String) : Option Outline :=
  (slots slot allowed).map fun code => code.getD [.text standIn]

/-- The outline of the question that a property asks about a number. -/
def NumberProperty.outline
    (slots : Slots)
    (subject : Outline) :
    NumberProperty → Option CodeOutline
  | .even => some (.value (subject ++ [.text " % 2 == 0"]) .comparison)
  | .odd => some (.value (subject ++ [.text " % 2 == 1"]) .comparison)
  | .whole => some (.value (subject ++ [.text " % 1 == 0"]) .comparison)
  | .positive => some (.value (subject ++ [.text " > 0"]) .comparison)
  | .negative => some (.value (subject ++ [.text " < 0"]) .comparison)
  | .divisibleBy => do
      match ← slots "DIVISOR" .product with
      | none => return .value [.text "nil"] .atomic
      | some divisor =>
          if divisor.sample = "0" then
            return .value [.text "nil"] .atomic
          else
            return .value (subject ++ [.text " % "] ++ divisor ++ [.text " == 0"]) .comparison
  | .prime =>
      some (.value
        ([.place (.ofHelper MathHelper.isPrimeName), .text "("] ++ subject ++ [.text ")"]) .call)

/-- The outline of a block of that kind, given those of its operands. -/
def BlockKind.outline
    (slots : Slots)
    (block : Block) :
    BlockKind → Option CodeOutline
  | .number => do
      let text ← (block.neededField "NUM").toOption
      let value ← (numberValue text).toOption
      return .value [.text value.code] value.level
  | .arithmetic => do
      let operator : ArithmeticOperator ← (block.readTag "OP").toOption
      let left ← slots.orElse "A" operator.leftLevel "0"
      let right ← slots.orElse "B" operator.rightLevel "0"
      return .value (left ++ [.text operator.symbol] ++ right) operator.level
  | .single | .round | .trig => do
      let operator : MathOperator ← (block.readTag "OP").toOption
      let frame := operator.frame
      let operand ← slots.orElse "NUM" frame.operand "0"
      return .value
        ([.text frame.before, .text (operator.gap operand.sample)] ++ operand ++
          [.text frame.after]) frame.result
  | .constant => do
      let constant : MathConstant ← (block.readTag "CONSTANT").toOption
      return .value [.text constant.value.code] constant.value.level
  | .numberProperty => do
      let property : NumberProperty ← (block.readTag "PROPERTY").toOption
      let subject ← slots.orElse "NUMBER_TO_CHECK" .product "0"
      property.outline slots subject
  | .onList => do
      let operator : ListOperator ← (block.readTag "OP").toOption
      let list ← slots.orElse "LIST" .any "\x7b\x7d"
      return .value
        ([.place (.ofHelper operator.helperName), .text "("] ++ list ++ [.text ")"]) .call
  | .modulo => do
      let dividend ← slots.orElse "DIVIDEND" .product "0"
      let divisor ← slots.orElse "DIVISOR" .product "0"
      return .value (dividend ++ [.text " % "] ++ divisor) .product
  | .constrain => do
      let value ← slots.orElse "VALUE" .any "0"
      let low ← slots.orElse "LOW" .any "-math.huge"
      let high ← slots.orElse "HIGH" .any "math.huge"
      return .value
        ([.text "math.min(math.max("] ++ value ++ [.text ", "] ++ low ++ [.text "), "] ++ high ++
          [.text ")"]) .call
  | .randomInt => do
      let low ← slots.orElse "FROM" .any "0"
      let high ← slots.orElse "TO" .any "0"
      return .value ([.text "math.random("] ++ low ++ [.text ", "] ++ high ++ [.text ")"]) .call
  | .randomFloat => some (.value [.text "math.random()"] .call)
  | .atan2 => do
      let x ← slots.orElse "X" .any "0"
      let y ← slots.orElse "Y" .any "0"
      return .value
        ([.text "math.deg(math.atan2("] ++ y ++ [.text ", "] ++ x ++ [.text "))"]) .call
  | .change => do
      let name ← (block.neededField "VAR").toOption
      let delta ← slots.orElse "DELTA" .sum "0"
      let place : Piece := .place (.ofVariable (Text.lower name))
      return .statement [[place, .text " = ", place, .text " + "] ++ delta]

/-- The outline of an expression as an operand, which a statement has none of. -/
def CodeOutline.operand? : CodeOutline → BindingLevel → Option Outline
  | .value code level, allowed => some (Outline.enclose level code allowed)
  | .statement _, _ => none

mutual

/-- The outline of a block. -/
def Block.outline : Block → Option CodeOutline
  | .node blockType fields inputs => do
      let kind : BlockKind ← (Tagged.read blockType : Except Fault BlockKind).toOption
      kind.outline (fun slot allowed => inputs.outline slot allowed) (.node blockType fields inputs)

/-- The outline of what is plugged into a slot, for a place of a level. -/
def Inputs.outline : Inputs → Slots
  | .empty, _, _ => some none
  | .plug slot child rest, wanted, allowed =>
      if slot = wanted then do
        let code ← child.outline
        let operand ← code.operand? allowed
        return some operand
      else
        rest.outline wanted allowed

end

/-- The outlines of the lines that a block at the top level is written as. -/
def CodeOutline.topLines
    (wrapBareValues : Bool) :
    CodeOutline → List Outline
  | .statement lines => lines
  | .value code _ => [if wrapBareValues then [.text "local _ = "] ++ code else code]

/-- Whether a naming has this identifier for a label. -/
def Naming.Gives
    (naming : Naming) :
    Label → String → Prop
  | .ofHelper logicalName, identifier => naming.ofHelper logicalName = some identifier
  | .ofVariable key, identifier =>
      ∃ name, Text.lower name = key ∧ naming.ofVariable name = some identifier

/-- Whether a text is an outline with the identifiers of a naming in its places. -/
inductive Naming.Fills (naming : Naming) : String → Outline → Prop
  | nil :
      Fills naming "" []
  | text
      (text : String)
      {written : String}
      {rest : Outline}
      (hrest : Fills naming written rest) :
      Fills naming (text ++ written) (.text text :: rest)
  | place
      {label : Label}
      {identifier written : String}
      {rest : Outline}
      (hlabel : naming.Gives label identifier)
      (hproper : Identifier.IsIdentifier identifier.toList)
      (hrest : Fills naming written rest) :
      Fills naming (identifier ++ written) (.place label :: rest)

namespace Naming.Fills

variable {naming : Naming}

theorem ofText
    (text : String) :
    naming.Fills text [.text text] := by
  have htext : naming.Fills (text ++ "") [.text text] := .text text .nil
  rwa [String.append_empty] at htext

theorem ofPlace
    {label : Label}
    {identifier : String}
    (hlabel : naming.Gives label identifier)
    (hproper : Identifier.IsIdentifier identifier.toList) :
    naming.Fills identifier [.place label] := by
  have hplace := Fills.place hlabel hproper Fills.nil
  rwa [String.append_empty] at hplace

theorem append
    {first second : String}
    {outline other : Outline}
    (hfirst : naming.Fills first outline)
    (hsecond : naming.Fills second other) :
    naming.Fills (first ++ second) (outline ++ other) := by
  induction hfirst with
  | nil =>
      rw [String.empty_append]
      exact hsecond
  | text text _ ih =>
      rw [String.append_assoc]
      exact .text text ih
  | place hlabel hproper _ ih =>
      rw [String.append_assoc]
      exact .place hlabel hproper ih

theorem enclose
    {code : String}
    {outline : Outline}
    (h : naming.Fills code outline)
    (own allowed : BindingLevel) :
    naming.Fills (own.enclose code allowed) (Outline.enclose own outline allowed) := by
  unfold BindingLevel.enclose Outline.enclose
  split
  · exact ((ofText "(").append h).append (ofText ")")
  · exact h

/-- A text begins with a minus sign if and only if the sample of its outline does. -/
theorem head?_iff
    {code : String}
    {outline : Outline}
    (h : naming.Fills code outline) :
    code.toList.head? = some '-' ↔ outline.sample.toList.head? = some '-' := by
  unfold Outline.sample
  induction h with
  | nil =>
      rfl
  | text text _ ih =>
      rw [Outline.filled_cons, Piece.filled, String.toList_append, String.toList_append,
        List.head?_append, List.head?_append]
      cases text.toList with
      | nil =>
          exact ih
      | cons c rest =>
          rfl
  | place _ hproper _ _ =>
      obtain ⟨c, rest, hlist, _, hparts⟩ := hproper
      have hminus : c ≠ '-' := by
        rintro rfl
        exact absurd (hparts _ List.mem_cons_self) (by decide)
      rw [Outline.filled_cons, Piece.filled, String.toList_append, String.toList_append, hlist]
      simp [hminus]

/-- A text is one without identifiers if and only if the sample of its outline is. -/
theorem eq_iff
    {code : String}
    {outline : Outline}
    (h : naming.Fills code outline)
    {numeral : List Char}
    (hnumeral : ∀ c ∈ numeral, c.isDigit = true) :
    code.toList = numeral ↔ outline.sample.toList = numeral := by
  unfold Outline.sample
  induction h generalizing numeral with
  | nil =>
      rfl
  | text text _ ih =>
      rw [Outline.filled_cons, Piece.filled, String.toList_append, String.toList_append]
      by_cases hprefix : text.toList <+: numeral
      · obtain ⟨rest, rfl⟩ := hprefix
        rw [List.append_right_inj, List.append_right_inj]
        exact ih fun c hc => hnumeral c (List.mem_append_right _ hc)
      · refine iff_of_false ?_ ?_
        · rintro rfl
          exact hprefix (List.prefix_append _ _)
        · rintro rfl
          exact hprefix (List.prefix_append _ _)
  | place _ hproper _ _ =>
      -- no numeral begins as an identifier does
      obtain ⟨c, rest, hlist, hdigit, _⟩ := hproper
      rw [Outline.filled_cons, Piece.filled, String.toList_append, String.toList_append, hlist]
      cases numeral with
      | nil =>
          simp
      | cons d numeral =>
          have hd := hnumeral d List.mem_cons_self
          have hc : c ≠ d := by
            rintro rfl
            simp [hdigit] at hd
          have hunderscore : '_' ≠ d := by
            rintro rfl
            exact absurd hd (by decide)
          simp [hc, hunderscore]

end Naming.Fills
end MathBlocks
