/-!
# Positional notation

The number `digits · 10 ^ exponent` written out with all its places, without an exponent.
-/

namespace MathBlocks

/-- The decimal digits of a number. -/
def decimalDigits (n : Nat) : List Char :=
  Nat.toDigits 10 n

/-- A whole number followed by as many zeros, or cut by a point before its last places. -/
def positional
    (digits : Nat) :
    Int → List Char
  | .ofNat zeros => decimalDigits digits ++ List.replicate zeros '0'
  | .negSucc k =>
      let written := decimalDigits digits
      let places := k + 1
      if places < written.length then
        written.take (written.length - places) ++ '.' :: written.drop (written.length - places)
      else
        '0' :: '.' :: (List.replicate (places - written.length) '0' ++ written)

end MathBlocks
