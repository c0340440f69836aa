/-!
# Sources of names

What the writing of code needs to know about names: a variable has one identifier for a whole
pass, and everything else gets an identifier that nothing else has.
-/

namespace MathBlocks

/-- A service that hands out identifiers and remembers which. -/
class NameSource (ν : Type) where
  /-- The identifier of a variable. -/
  identify : String → ν → String × ν
  /-- A new identifier close to the one asked for. -/
  invent : String → ν → String × ν
  /-- Forgets every identifier handed out. -/
  forget : ν → ν

end MathBlocks
