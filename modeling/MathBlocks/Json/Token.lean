/-!
# The tokens of JSON

Cuts a text into the tokens of the JSON format, one character at a time. Between tokens there may
be spaces, tabs and line ends, and nothing else. `Token.ofChars?` fails on a text that no sequence
of tokens spells.
-/

namespace MathBlocks
namespace Json

/-- A token. -/
inductive Token where
  | openObject
  | closeObject
  | openArray
  | closeArray
  | colon
  | comma
  | null
  | bool (value : Bool)
  | number (literal : String)
  /-- A string literal; it has no text if it names half of a surrogate pair. -/
  | string (text : Option String)
  deriving DecidableEq, Repr

/-- A part of a string literal: a character, or the value of a `\u` escape. -/
inductive Piece where
  | char (c : Char)
  | unit (value : Nat)
  deriving DecidableEq, Repr

/-- Whether an escape names the first half of a surrogate pair. -/
def isHighSurrogate (value : Nat) : Bool :=
  decide (0xd800 ≤ value) && decide (value < 0xdc00)

/-- Whether an escape names the second half of a surrogate pair. -/
def isLowSurrogate (value : Nat) : Bool :=
  decide (0xdc00 ≤ value) && decide (value < 0xe000)

/-- The character that the two halves of a surrogate pair stand for. -/
def pairChar
    (high low : Nat) : Char :=
  Char.ofNat (0x10000 + (high - 0xd800) * 0x400 + (low - 0xdc00))

/-- The text of the parts of a string literal, after what has been read (newest first). -/
def joinPieces
    (read : List Char) :
    List Piece → Option (List Char)
  | [] => some read.reverse
  | .char c :: rest => joinPieces (c :: read) rest
  | .unit high :: .unit low :: rest =>
      if isHighSurrogate high && isLowSurrogate low then
        joinPieces (pairChar high low :: read) rest
      else if isHighSurrogate high || isLowSurrogate high then
        none
      else
        joinPieces (Char.ofNat high :: read) (.unit low :: rest)
  | .unit value :: rest =>
      if isHighSurrogate value || isLowSurrogate value then
        none
      else
        joinPieces (Char.ofNat value :: read) rest

/-- The string literal with these parts (newest first). -/
def stringToken (pieces : List Piece) : Token :=
  .string ((joinPieces [] pieces.reverse).map String.ofList)

/-- Whether `c` can stand in a number. -/
def isNumberChar (c : Char) : Bool :=
  c.isDigit || c = '+' || c = '-' || c = '.' || c = 'e' || c = 'E'

/-- Whether a text is at least one digit with an optional sign before it. -/
def isSignedDigits : List Char → Bool
  | '+' :: digits => !digits.isEmpty && digits.all Char.isDigit
  | '-' :: digits => !digits.isEmpty && digits.all Char.isDigit
  | digits => !digits.isEmpty && digits.all Char.isDigit

/-- Whether a text is an exponent part or nothing. -/
def isExponent : List Char → Bool
  | [] => true
  | c :: rest => (c = 'e' || c = 'E') && isSignedDigits rest

/-- Whether a text is what may follow the whole part of a number. -/
def isNumberTail : List Char → Bool
  | '.' :: rest =>
      !(rest.takeWhile Char.isDigit).isEmpty && isExponent (rest.dropWhile Char.isDigit)
  | rest => isExponent rest

/-- Whether digits are the whole part of a number: there is one, and no zero before others. -/
def isWholePart : List Char → Bool
  | [] => false
  | c :: rest => c ≠ '0' || rest.isEmpty

/-- Whether a text is a number without a sign. -/
def isUnsignedNumber (text : List Char) : Bool :=
  isWholePart (text.takeWhile Char.isDigit) && isNumberTail (text.dropWhile Char.isDigit)

/-- Whether a text is a number. -/
def isNumber : List Char → Bool
  | '-' :: rest => isUnsignedNumber rest
  | text => isUnsignedNumber text

/-- The number with these characters (newest first). -/
def numberToken? (read : List Char) : Option Token :=
  if isNumber read.reverse then some (.number (String.ofList read.reverse)) else none

/-- The word with these letters (newest first). -/
def wordToken? (read : List Char) : Option Token :=
  match read.reverse with
  | ['n', 'u', 'l', 'l'] => some .null
  | ['t', 'r', 'u', 'e'] => some (.bool true)
  | ['f', 'a', 'l', 's', 'e'] => some (.bool false)
  | _ => none

/-- The character that a letter after a backslash stands for. -/
def escapedChar? (c : Char) : Option Char :=
  if c = '\x22' then some '\x22'
  else if c = '\\' then some '\\'
  else if c = '/' then some '/'
  else if c = 'b' then some '\x08'
  else if c = 'f' then some '\x0c'
  else if c = 'n' then some '\n'
  else if c = 'r' then some '\r'
  else if c = 't' then some '\t'
  else none

/-- The value of a hexadecimal digit. -/
def hexValue? (c : Char) : Option Nat :=
  if c.isDigit then some (c.toNat - 48)
  else if 'a' ≤ c && c ≤ 'f' then some (c.toNat - 87)
  else if 'A' ≤ c && c ≤ 'F' then some (c.toNat - 55)
  else none

/-- Where a scan stands, with what it has read of the current token (newest first). -/
inductive ScanState where
  /-- Between tokens. -/
  | gap
  /-- In a word. -/
  | word (read : List Char)
  /-- In a number. -/
  | number (read : List Char)
  /-- In a string literal. -/
  | string (read : List Piece)
  /-- After a backslash in a string literal. -/
  | escape (read : List Piece)
  /-- In a `\u` escape, with its value so far and the number of digits to come after the next. -/
  | unicode (read : List Piece) (value : Nat) (more : Nat)
  deriving DecidableEq, Repr

/-- What a scan does at a character: the tokens that end before or with it, and where it stands. -/
abbrev ScanStep := Option (List Token × ScanState)

/-- A step between tokens. -/
def ScanStep.gap (c : Char) : ScanStep :=
  if c = ' ' || c = '\t' || c = '\n' || c = '\r' then some ([], .gap)
  else if c = '{' then some ([.openObject], .gap)
  else if c = '}' then some ([.closeObject], .gap)
  else if c = '[' then some ([.openArray], .gap)
  else if c = ']' then some ([.closeArray], .gap)
  else if c = ':' then some ([.colon], .gap)
  else if c = ',' then some ([.comma], .gap)
  else if c = '\x22' then some ([], .string [])
  else if c.isDigit || c = '-' then some ([], .number [c])
  else if c.isLower then some ([], .word [c])
  else none

/-- A step at a character that ends `token` by not belonging to it. -/
def ScanStep.after
    (token : Option Token)
    (c : Char) : ScanStep := do
  let token ← token
  let (tokens, state) ← ScanStep.gap c
  return (token :: tokens, state)

/-- The step of a scan at a character. -/
def scanStep
    (state : ScanState)
    (c : Char) : ScanStep :=
  match state with
  | .gap => ScanStep.gap c
  | .word read =>
      if c.isLower then some ([], .word (c :: read)) else ScanStep.after (wordToken? read) c
  | .number read =>
      if isNumberChar c then some ([], .number (c :: read))
      else ScanStep.after (numberToken? read) c
  | .string read =>
      if c = '\x22' then some ([stringToken read], .gap)
      else if c = '\\' then some ([], .escape read)
      else if c.toNat < 0x20 then none
      else some ([], .string (.char c :: read))
  | .escape read =>
      if c = 'u' then some ([], .unicode read 0 3)
      else (escapedChar? c).map fun d => ([], .string (.char d :: read))
  | .unicode read value more =>
      (hexValue? c).map fun digit =>
        match more with
        | 0 => ([], .string (.unit (16 * value + digit) :: read))
        | more + 1 => ([], .unicode read (16 * value + digit) more)

/-- The tokens that end with the text. -/
def scanEnd : ScanState → Option (List Token)
  | .gap => some []
  | .word read => (wordToken? read).map fun token => [token]
  | .number read => (numberToken? read).map fun token => [token]
  | _ => none

/-- Scans a text from a state on, after the tokens in `done` (newest first). -/
def scan
    (done : List Token) :
    ScanState → List Char → Option (List Token)
  | state, [] => (scanEnd state).map fun tokens => (tokens.reverse ++ done).reverse
  | state, c :: rest =>
      match scanStep state c with
      | some (tokens, state) => scan (tokens.reverse ++ done) state rest
      | none => none

/-- The tokens that a text spells. -/
def Token.ofChars? (text : List Char) : Option (List Token) :=
  scan [] .gap text

end Json
end MathBlocks
