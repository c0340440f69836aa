import MathBlocks.Proofs.Lua.Script.Lexer
import MathBlocks.Proofs.Lua.Script.Syntax

/-!
# Reading Lua functions

Reads the tokens of a function as its tree. An operator takes for its operands what holds together
more tightly than it does: each has a number for either side, and the greater one wins. All
readers have a bound on how deep they go, which is more than the number of tokens can need.
-/

namespace MathBlocks
namespace Lua
namespace Script

namespace Binary

/-- How strongly an operator holds the operand on its left. -/
def leftHold : Binary → Nat
  | .or => 1
  | .and => 2
  | .operator sign =>
      match sign.level with
      | .comparison => 3
      | .sum => 10
      | .product => 11
      | _ => 14

/-- How strongly an operator holds the operand on its right; a power is held together from there. -/
def rightHold : Binary → Nat
  | .operator .power => 13
  | other => other.leftHold

end Binary

/-- How strongly an operator holds its only operand. -/
def unaryHold : Nat := 12

/-- The operator between two operands that a token is. -/
def binary? : Token → Option Binary
  | .operator operator => some (.operator operator)
  | .keyword "and" => some .and
  | .keyword "or" => some .or
  | _ => none

/-- The operator in front of an operand that a token is. -/
def unary? : Token → Option Unary
  | .operator .minus => some .minus
  | .keyword "not" => some .not
  | .length => some .length
  | _ => none

/-- The expression that a token is by itself. -/
def constant? : Token → Option Term
  | .keyword "nil" => some .nil
  | .keyword "true" => some (.bool true)
  | .keyword "false" => some (.bool false)
  | .numeral text => some (.numeral text)
  | .string text => some (.string text)
  | _ => none

/-- What is read, if this token follows it. -/
def before
    {α : Type}
    (token : Token)
    (reading : Option (α × List Token)) : Option (α × List Token) := do
  match ← reading with
  | (found, next :: rest) => if next = token then some (found, rest) else none
  | (_, []) => none

mutual

/-- Reads an expression, up to an operator that holds its left operand no more than `hold`. -/
def readTerm : Nat → Nat → List Token → Option (Term × List Token)
  | 0, _, _ => none
  | _, _, [] => none
  | depth + 1, hold, token :: rest =>
      match unary? token, constant? token, token with
      | some operator, _, _ => do
          let (operand, rest) ← readTerm depth unaryHold rest
          readOperators depth hold (.unary operator operand) rest
      | none, some constant, _ => readOperators depth hold constant rest
      | none, none, .openBrace => do
          let (items, rest) ← readListed depth .closeBrace rest
          readOperators depth hold (.list items) rest
      | none, none, _ => do
          let (found, rest) ← readPlace depth (token :: rest)
          readOperators depth hold found rest

/-- Reads operators with their right operands, behind an operand that has been read. -/
def readOperators : Nat → Nat → Term → List Token → Option (Term × List Token)
  | 0, _, _, _ => none
  | _, _, left, [] => some (left, [])
  | depth + 1, hold, left, token :: rest =>
      match binary? token with
      | some operator =>
          if hold < operator.leftHold then do
            let (right, rest) ← readTerm depth operator.rightHold rest
            readOperators depth hold (.binary operator left right) rest
          else
            some (left, token :: rest)
      | none => some (left, token :: rest)

/-- Reads a name or an expression in parentheses, with the entries and calls behind it. -/
def readPlace : Nat → List Token → Option (Term × List Token)
  | depth + 1, .name text :: rest => readEntries depth (.name text) rest
  | depth + 1, .openParen :: rest => do
      let (inner, rest) ← before .closeParen (readTerm depth 0 rest)
      readEntries depth inner rest
  | _, _ => none

/-- Reads entries and calls behind what they are entries and calls of. -/
def readEntries : Nat → Term → List Token → Option (Term × List Token)
  | 0, _, _ => none
  | depth + 1, table, .dot :: .name text :: rest => readEntries depth (.field table text) rest
  | depth + 1, table, .openBracket :: rest => do
      let (key, rest) ← before .closeBracket (readTerm depth 0 rest)
      readEntries depth (.index table key) rest
  | depth + 1, function, .openParen :: rest => do
      let (arguments, rest) ← readListed depth .closeParen rest
      readEntries depth (.call function arguments) rest
  | _ + 1, found, rest => some (found, rest)

/-- Reads any number of expressions up to the token that closes the list. -/
def readListed : Nat → Token → List Token → Option (Terms × List Token)
  | 0, _, _ => none
  | depth + 1, close, tokens =>
      if tokens.head? = some close then
        some (.empty, tokens.tail)
      else
        before close (readTerms depth tokens)

/-- Reads one or more expressions with commas between them. -/
def readTerms : Nat → List Token → Option (Terms × List Token)
  | 0, _ => none
  | depth + 1, tokens => do
      match ← readTerm depth 0 tokens with
      | (head, .comma :: rest) => do
          let (tail, rest) ← readTerms depth rest
          some (.more head tail, rest)
      | (head, rest) => some (.more head .empty, rest)

end

/-- Reads one or more names with commas between them. -/
def readNames : List Token → Option (List String × List Token)
  | .name text :: .comma :: rest => do
      let (names, rest) ← readNames rest
      some (text :: names, rest)
  | .name text :: rest => some ([text], rest)
  | _ => none

/-- Whether statements end before these tokens. -/
def endsBody : List Token → Bool
  | [] => true
  | token :: _ => token ∈ ["end", "else", "elseif"].map Token.keyword

mutual

/-- Reads a statement. -/
def readStatement : Nat → List Token → Option (Statement × List Token)
  | 0, _ => none
  | depth + 1, .keyword "local" :: rest => do
      match ← readNames rest with
      | (names, .assign :: rest) => do
          let (values, rest) ← readTerms depth rest
          some (.declare names values, rest)
      | (names, rest) => some (.declare names .empty, rest)
  | depth + 1, .keyword "if" :: rest => readBranch depth rest
  | depth + 1, .keyword "for" :: .name text :: .assign :: rest => do
      let (range, rest) ← before (.keyword "do") (readTerms depth rest)
      let (body, rest) ← before (.keyword "end") (readBody depth rest)
      some (.count text range body, rest)
  | depth + 1, .keyword "for" :: rest => do
      let (names, rest) ← before (.keyword "in") (readNames rest)
      let (source, rest) ← before (.keyword "do") (readTerms depth rest)
      let (body, rest) ← before (.keyword "end") (readBody depth rest)
      some (.each names source body, rest)
  | depth + 1, .keyword "return" :: rest =>
      if endsBody rest then
        some (.result .empty, rest)
      else do
        let (values, rest) ← readTerms depth rest
        if endsBody rest then some (.result values, rest) else none
  | depth + 1, tokens => do
      match ← readPlace depth tokens with
      | (.call function arguments, rest) => some (.call function arguments, rest)
      | (target, .assign :: rest) => do
          let (value, rest) ← readTerm depth 0 rest
          some (.assign target value, rest)
      | _ => none

/-- Reads what follows `if` or `elseif`, up to the end of the whole branch. -/
def readBranch : Nat → List Token → Option (Statement × List Token)
  | 0, _ => none
  | depth + 1, tokens => do
      let (condition, rest) ← before (.keyword "then") (readTerm depth 0 tokens)
      match ← readBody depth rest with
      | (body, .keyword "end" :: rest) => some (.branch condition body .done, rest)
      | (body, .keyword "else" :: rest) => do
          let (otherwise, rest) ← before (.keyword "end") (readBody depth rest)
          some (.branch condition body otherwise, rest)
      | (body, .keyword "elseif" :: rest) => do
          let (otherwise, rest) ← readBranch depth rest
          some (.branch condition body (.more otherwise .done), rest)
      | _ => none

/-- Reads statements up to where they end. -/
def readBody : Nat → List Token → Option (Body × List Token)
  | 0, _ => none
  | depth + 1, tokens =>
      if endsBody tokens then
        some (.done, tokens)
      else do
        let (head, rest) ← readStatement depth tokens
        let (tail, rest) ← readBody depth rest
        some (.more head tail, rest)

end

/-- Reads the parameters and the body of a function, up to the end of the text. -/
def readDefinition : List Token → Option (List String × Body)
  | .openParen :: rest => do
      let (parameters, rest) ← before .closeParen (readNames rest)
      match ← readBody (8 * (rest.length + 1)) rest with
      | (body, [.keyword "end"]) => some (parameters, body)
      | _ => none
  | _ => none

/-- The function that tokens define. -/
def Function.ofTokens? : List Token → Option Function
  | .keyword "function" :: .name name :: rest =>
      (readDefinition rest).map fun definition => ⟨name, definition.1, definition.2⟩
  | _ => none

/-- The function that a text defines. -/
def Function.ofText? (text : String) : Option Function :=
  (lex text).bind Function.ofTokens?

/-- What a function declares is bound behind it, and what it only assigns to is not. -/
example :
    (Function.ofText? "function f(x)\n  local y = y\n  z = g(x, y) -- w\nend").map
      (fun function => function.references.filter fun reference => reference.1 ∉ reference.2) =
      some [("y", ["x"]), ("z", ["y", "x"]), ("g", ["y", "x"])] := by
  decide +kernel

end Script
end Lua
end MathBlocks
