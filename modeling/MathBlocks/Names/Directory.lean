import MathBlocks.Lua.Words
import MathBlocks.Names.Identifier
import MathBlocks.Names.Source
import MathBlocks.Text.Casing

/-!
# The directory of names

The usual source of names. It keeps the identifiers in use away from each other and from the
reserved words: a new identifier is the one nearest to the text asked for, with the least number
from 2 on behind it if it is not free itself. Variables are told apart without regard to letter
case.

The numbers have no bound here. `NameDirectory.Search` counts them in 32 bits and comes to the same
as long as there is room: always, where fewer than two billion words are taken.
-/

namespace MathBlocks

/-- The identifiers handed out so far, and the words that never are. -/
structure NameDirectory where
  /-- The words that are never handed out. -/
  reserved : List String
  /-- The identifiers of the variables, by their lower-case names, newest first. -/
  identifiers : List (String × String)
  /-- All identifiers in use, newest first. -/
  used : List String
  deriving DecidableEq

namespace NameDirectory

/-- A directory with no identifier in use, which keeps off `extra` words too. -/
def fresh (extra : List String) : NameDirectory where
  reserved := Lua.reservedWords ++ extra
  identifiers := []
  used := []

/-- Whether a word is never handed out. -/
def avoids
    (names : NameDirectory)
    (word : String) : Bool :=
  names.reserved.contains word

/-- Whether an identifier can be handed out. -/
def isFree
    (names : NameDirectory)
    (identifier : String) : Bool :=
  !names.used.contains identifier && !names.avoids identifier

/-- The identifiers that are tried for `base`: itself, then `base2`, `base3` and so on. -/
def candidate (base : String) : Nat → String
  | 0 => base
  | n + 1 => base ++ Nat.repr (n + 2)

/-- The number of candidates that are enough: not all of them can be taken. -/
def candidateCount (names : NameDirectory) : Nat :=
  names.used.length + names.reserved.length + 1

/-- The first free candidate for `base`. -/
def firstFree
    (names : NameDirectory)
    (base : String) : String :=
  match (List.range names.candidateCount).find? fun n => names.isFree (candidate base n) with
  | some n => candidate base n
  | none => base

/-- Hands out an identifier close to the text asked for. -/
def handOut
    (text : String)
    (names : NameDirectory) : String × NameDirectory :=
  let identifier := names.firstFree (Identifier.ofText text)
  (identifier, { names with used := identifier :: names.used })

/-- The identifier of a variable, handed out when the variable is met first. -/
def identify
    (text : String)
    (names : NameDirectory) : String × NameDirectory :=
  let key := Text.lower text
  match names.identifiers.lookup key with
  | some identifier => (identifier, names)
  | none =>
      let (identifier, names) := names.handOut text
      (identifier, { names with identifiers := (key, identifier) :: names.identifiers })

/-- Takes back every identifier; the reserved words stay. -/
def forget (names : NameDirectory) : NameDirectory :=
  { names with identifiers := [], used := [] }

instance : NameSource NameDirectory where
  identify := identify
  invent := handOut
  forget := forget

end NameDirectory
end MathBlocks
