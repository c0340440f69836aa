import MathBlocks.Decimal.Binary64

/-!
# Shortest decimals

The decimal with the fewest digits that reads back to a given number of the 64-bit binary format.
A decimal reads back if it lies in the interval of the values that round to the number. The
coarsest grid `10 ^ k` with a point in the interval holds the shortest decimals; of two the one
nearer to the number is taken, and in a tie the larger one.
-/

namespace MathBlocks
namespace Binary64

/-- The distance from a number of that many units to the next smaller one, in half units. -/
def halvesBelow (units : Nat) : Nat :=
  if units = Nat.pow 2 units.log2 && decide (52 < units.log2) then step units else 2 * step units

/--
The ends of the interval of the values that round to a number, in quarters of a unit: half the
way to the neighbour on either side.
-/
def interval (units : Nat) : Nat × Nat :=
  (4 * units - halvesBelow units, 4 * units + 2 * step units)

/-- Whether the ends of the interval round to the number too, as ties go to the even one. -/
def takesEnds (units : Nat) : Bool :=
  units / step units % 2 == 0

/--
The two factors that bring a point `d · 10 ^ k` and a value of `x` quarters of a unit to a common
measure: `d * pointScale k` against `x * quarterScale k`.
-/
def pointScale : Int → Nat
  | .ofNat k => Nat.pow 10 k * (4 * unitsPerOne)
  | .negSucc _ => 4 * unitsPerOne

@[inherit_doc pointScale]
def quarterScale : Int → Nat
  | .ofNat _ => 1
  | .negSucc k => Nat.pow 10 (k + 1)

/-- Whether the point `d · 10 ^ k` rounds to the number of that many units. -/
def readsBack
    (units d : Nat)
    (k : Int) : Bool :=
  let point := d * pointScale k
  let low := (interval units).1 * quarterScale k
  let high := (interval units).2 * quarterScale k
  if takesEnds units then
    decide (low ≤ point) && decide (point ≤ high)
  else
    decide (low < point) && decide (point < high)

/-- The point of the grid `10 ^ k` that reads back and is nearest to the number, if there is one. -/
def gridPoint?
    (units : Nat)
    (k : Int) : Option Nat :=
  let value := 4 * units * quarterScale k
  let below := value / pointScale k
  let above := below + 1
  match readsBack units below k, readsBack units above k with
  | true, true => some (if 2 * value < (below + above) * pointScale k then below else above)
  | true, false => some below
  | false, true => some above
  | false, false => none

/-- The exponents of the grids that are tried, coarsest first. -/
def gridExponents : List Int :=
  (List.range 633).map fun (i : Nat) => (308 : Int) - i

/-- Digits and power of ten of the shortest decimal that reads back; zero is `0 * 10 ^ 0`. -/
def shortest (units : Nat) : Nat × Int :=
  if units = 0 then
    (0, 0)
  else
    (gridExponents.findSome? fun k => (gridPoint? units k).map fun d => (d, k)).getD (0, 0)

end Binary64
end MathBlocks
