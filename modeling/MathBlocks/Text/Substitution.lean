/-!
# Substitution in a line

Replaces every occurrence of a word in a text, from left to right and without overlaps. What has
been put in is not looked at again.
-/

namespace MathBlocks
namespace Text

/--
Replaces `word` by `new`. The first argument counts the characters still to be passed over: they
belong to the occurrence that was replaced last.
-/
def replaceFrom
    (word new : List Char) :
    Nat → List Char → List Char
  | _, [] => []
  | passed + 1, _ :: rest => replaceFrom word new passed rest
  | 0, c :: rest =>
      if word.isPrefixOf (c :: rest) then
        new ++ replaceFrom word new (word.length - 1) rest
      else
        c :: replaceFrom word new 0 rest

/-- `text` with every occurrence of the nonempty `word` replaced by `new`. -/
def replaceWord
    (word new text : String) : String :=
  String.ofList (replaceFrom word.toList new.toList 0 text.toList)

end Text
end MathBlocks
