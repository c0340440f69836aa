/-!
# Paths

A path is read as the names between its slashes. A slash at its end is kept as well: it asks for a
directory.
-/

namespace MathBlocks
namespace CommandLine

/-- A path, cut at its slashes. -/
structure Path where
  /-- Whether the path starts at the root. -/
  fromRoot : Bool
  /-- The names before the last. -/
  directories : List String
  /-- The last name; a path of slashes alone has `.` for it. -/
  name : String
  /-- Whether the path ends with a slash. -/
  endsWithSlash : Bool
  deriving DecidableEq, Repr

namespace Path

/-- The pieces of a path between its slashes; `piece` is what has been read of the first. -/
def piecesFrom
    (piece : List Char) :
    List Char → List String
  | [] => [String.ofList piece.reverse]
  | c :: rest =>
      if c = '/' then String.ofList piece.reverse :: piecesFrom [] rest
      else piecesFrom (c :: piece) rest

/-- The path that a text is. Slashes in a row count as one. -/
def ofText (text : String) : Path :=
  let names := (piecesFrom [] text.toList).filter (· ≠ "")
  { fromRoot := text.toList.head? = some '/'
    directories := names.dropLast
    name := names.getLastD "."
    endsWithSlash := text.toList.getLast? = some '/' }

end Path
end CommandLine
end MathBlocks
