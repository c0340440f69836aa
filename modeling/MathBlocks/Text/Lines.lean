/-!
# Lines

A text cut at its line feeds, and lines put together again.
-/

namespace MathBlocks
namespace Text

/-- The pieces of a text between its line feeds; `piece` is what has been read of the first. -/
def splitLinesFrom
    (piece : List Char) :
    List Char → List String
  | [] => [String.ofList piece.reverse]
  | c :: rest =>
      if c = '\n' then
        String.ofList piece.reverse :: splitLinesFrom [] rest
      else
        splitLinesFrom (c :: piece) rest

/-- The pieces of a text between its line feeds; there is one more of them than of line feeds. -/
def splitLines (text : String) : List String :=
  splitLinesFrom [] text.toList

/-- Every line followed by a line feed. -/
def endLines (lines : List String) : String :=
  String.join (lines.map (· ++ "\n"))

/-- The first line comes first. -/
@[simp] theorem endLines_cons
    (line : String)
    (lines : List String) :
    endLines (line :: lines) = line ++ "\n" ++ endLines lines := by
  simp [endLines, String.join_cons]

/-- `count` copies of a text, one after the other. -/
def repeated
    (count : Nat)
    (text : String) : String :=
  String.join (List.replicate count text)

/-- One copy comes first, the others behind it. -/
theorem repeated_succ
    (count : Nat)
    (text : String) :
    repeated (count + 1) text = text ++ repeated count text := by
  simp [repeated, List.replicate_succ, String.join_cons]

/-- Copies of a text have its characters, as often. -/
theorem toList_repeated
    (count : Nat)
    (text : String) :
    (repeated count text).toList = (List.replicate count text.toList).flatten := by
  induction count with
  | zero =>
      rfl
  | succ count ih =>
      rw [repeated_succ, String.toList_append, ih, List.replicate_succ, List.flatten_cons]

end Text
end MathBlocks
