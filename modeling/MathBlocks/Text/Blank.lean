import MathBlocks.Text.Ranges

/-!
# White space

The characters with the property `White_Space`, and the text that is left when they are taken
away at both ends. A no-break space counts, a zero-width space and a byte order mark do not.
-/

namespace MathBlocks
namespace Text

/-- Inclusive ranges of the code points with the property `White_Space`. -/
def blankRanges : List (Nat × Nat) :=
  [(0x9, 0xd), (0x20, 0x20), (0x85, 0x85), (0xa0, 0xa0), (0x1680, 0x1680), (0x2000, 0x200a),
   (0x2028, 0x2029), (0x202f, 0x202f), (0x205f, 0x205f), (0x3000, 0x3000)]

/-- Whether `c` is white space. -/
def isBlank (c : Char) : Bool :=
  inRanges blankRanges c

/-- The characters between the white space at both ends. -/
def trim (text : List Char) : List Char :=
  ((text.dropWhile isBlank).reverse.dropWhile isBlank).reverse

end Text
end MathBlocks
