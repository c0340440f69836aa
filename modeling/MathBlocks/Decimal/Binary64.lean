/-!
# Binary floating point

The finite numbers of the 64-bit binary format, up to sign, as whole multiples of the least
positive one, `2 ^ -1074`. A number of `2 ^ 52` units or more is a multiple of its step, the
distance to the next larger number, which keeps 53 binary digits; below, the step is one unit.
Rounding goes to the nearest number and from the middle to the even one.
-/

namespace MathBlocks
namespace Binary64

/-- The number of units in one. -/
def unitsPerOne : Nat := Nat.pow 2 1074

/-- The first multiple of the unit that is too large to be a number of the format. -/
def limit : Nat := Nat.pow 2 2098

/-- The distance from a number of that many units to the next larger one. -/
def step (units : Nat) : Nat :=
  Nat.pow 2 (units.log2 - 52)

/-- The whole number nearest to `numerator / denominator`; of two, the even one. -/
def nearest
    (numerator denominator : Nat) : Nat :=
  let quotient := numerator / denominator
  let rest := 2 * (numerator % denominator)
  if denominator < rest || (rest == denominator && quotient % 2 == 1) then
    quotient + 1
  else
    quotient

/--
The units of the number nearest to `numerator / denominator`, as if the format went on without
end. From `limit` on the result stands for infinity.
-/
def round
    (numerator denominator : Nat) : Nat :=
  let scaled := numerator * unitsPerOne
  let step := step (scaled / denominator)
  nearest scaled (denominator * step) * step

end Binary64
end MathBlocks
