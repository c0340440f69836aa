/-!
# Ranges of characters

A class of characters is given by inclusive ranges of code points. This module decides whether a
character lies in one of them.
-/

namespace MathBlocks
namespace Text

/-- Whether the code point of `c` lies in one of the inclusive `ranges`. -/
def inRanges
    (ranges : List (Nat × Nat))
    (c : Char) : Bool :=
  ranges.any fun range => decide (range.1 ≤ c.toNat) && decide (c.toNat ≤ range.2)

end Text
end MathBlocks
