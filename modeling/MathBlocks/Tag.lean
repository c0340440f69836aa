import MathBlocks.Fault

/-!
# Tags

Blocks say what they are and what they do by short texts. Each table here is a closed type of
meanings, and `Tagged` gives the text of each meaning and the way back. The way back is exact:
letter case counts, and a text outside the table is a fault that names the table.
-/

namespace MathBlocks

/-- A closed table of meanings, each with its own text. -/
class Tagged (α : Type) where
  /-- What the table holds. -/
  table : TagTable
  /-- All meanings, in the order of the table. -/
  all : List α
  /-- The text of a meaning. -/
  tag : α → String

/-- The meaning of a text, or the fault that its table does not hold it. -/
def Tagged.read
    {α : Type}
    [Tagged α]
    (text : String) : Except Fault α :=
  match (Tagged.all : List α).find? fun meaning => Tagged.tag meaning = text with
  | some meaning => .ok meaning
  | none => .error (.unknownTag (Tagged.table α) text)

/-- A text is read as the meaning whose tag it is. -/
theorem Tagged.tag_of_read
    {α : Type}
    [Tagged α]
    {text : String}
    {meaning : α}
    (h : Tagged.read text = .ok meaning) :
    Tagged.tag meaning = text := by
  unfold Tagged.read at h
  split at h
  · rename_i found hfind
    cases h
    simpa using List.find?_some hfind
  · cases h

/-- The blocks that code can be written for. -/
inductive BlockKind where
  | number
  | arithmetic
  | single
  | round
  | trig
  | constant
  | numberProperty
  | onList
  | modulo
  | constrain
  | randomInt
  | randomFloat
  | atan2
  | change
  deriving DecidableEq, Repr

instance : Tagged BlockKind where
  table := .blockType
  all :=
    [.number, .arithmetic, .single, .round, .trig, .constant, .numberProperty, .onList, .modulo,
     .constrain, .randomInt, .randomFloat, .atan2, .change]
  tag
    | .number => "math_number"
    | .arithmetic => "math_arithmetic"
    | .single => "math_single"
    | .round => "math_round"
    | .trig => "math_trig"
    | .constant => "math_constant"
    | .numberProperty => "math_number_property"
    | .onList => "math_on_list"
    | .modulo => "math_modulo"
    | .constrain => "math_constrain"
    | .randomInt => "math_random_int"
    | .randomFloat => "math_random_float"
    | .atan2 => "math_atan2"
    | .change => "math_change"

/-- Whether a block is carried out for its effect and has no value. -/
def BlockKind.isStatement : BlockKind → Bool
  | .change => true
  | _ => false

/-- The operators with two operands. -/
inductive ArithmeticOperator where
  | add
  | minus
  | multiply
  | divide
  | power
  deriving DecidableEq, Repr

instance : Tagged ArithmeticOperator where
  table := .arithmeticOperator
  all := [.add, .minus, .multiply, .divide, .power]
  tag
    | .add => "ADD"
    | .minus => "MINUS"
    | .multiply => "MULTIPLY"
    | .divide => "DIVIDE"
    | .power => "POWER"

/-- The functions of one number. -/
inductive MathOperator where
  | root
  | abs
  | neg
  | ln
  | log10
  | exp
  | pow10
  | round
  | roundUp
  | roundDown
  | sin
  | cos
  | tan
  | asin
  | acos
  | atan
  deriving DecidableEq, Repr

instance : Tagged MathOperator where
  table := .mathOperator
  all :=
    [.root, .abs, .neg, .ln, .log10, .exp, .pow10, .round, .roundUp, .roundDown, .sin, .cos, .tan,
     .asin, .acos, .atan]
  tag
    | .root => "ROOT"
    | .abs => "ABS"
    | .neg => "NEG"
    | .ln => "LN"
    | .log10 => "LOG10"
    | .exp => "EXP"
    | .pow10 => "POW10"
    | .round => "ROUND"
    | .roundUp => "ROUNDUP"
    | .roundDown => "ROUNDDOWN"
    | .sin => "SIN"
    | .cos => "COS"
    | .tan => "TAN"
    | .asin => "ASIN"
    | .acos => "ACOS"
    | .atan => "ATAN"

/-- The constants. -/
inductive MathConstant where
  | pi
  | e
  | goldenRatio
  | rootTwo
  | rootHalf
  | infinity
  deriving DecidableEq, Repr

instance : Tagged MathConstant where
  table := .constant
  all := [.pi, .e, .goldenRatio, .rootTwo, .rootHalf, .infinity]
  tag
    | .pi => "PI"
    | .e => "E"
    | .goldenRatio => "GOLDEN_RATIO"
    | .rootTwo => "SQRT2"
    | .rootHalf => "SQRT1_2"
    | .infinity => "INFINITY"

/-- The questions that can be asked of a number. -/
inductive NumberProperty where
  | even
  | odd
  | prime
  | whole
  | positive
  | negative
  | divisibleBy
  deriving DecidableEq, Repr

instance : Tagged NumberProperty where
  table := .numberProperty
  all := [.even, .odd, .prime, .whole, .positive, .negative, .divisibleBy]
  tag
    | .even => "EVEN"
    | .odd => "ODD"
    | .prime => "PRIME"
    | .whole => "WHOLE"
    | .positive => "POSITIVE"
    | .negative => "NEGATIVE"
    | .divisibleBy => "DIVISIBLE_BY"

/-- The statistics of a list. -/
inductive ListOperator where
  | sum
  | min
  | max
  | average
  | median
  | mode
  | standardDeviation
  | random
  deriving DecidableEq, Repr

instance : Tagged ListOperator where
  table := .listOperator
  all := [.sum, .min, .max, .average, .median, .mode, .standardDeviation, .random]
  tag
    | .sum => "SUM"
    | .min => "MIN"
    | .max => "MAX"
    | .average => "AVERAGE"
    | .median => "MEDIAN"
    | .mode => "MODE"
    | .standardDeviation => "STD_DEV"
    | .random => "RANDOM"

end MathBlocks
