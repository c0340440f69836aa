import MathBlocks.Names.Source

/-!
# Numbered names

A source of names that adds the number of the pass to every name and looks at nothing else. It
keeps no list of what is in use, which makes visible when a source is asked and when it forgets.
-/

namespace MathBlocks

/-- The number of times that the source was made to forget. -/
structure NumberedNames where
  pass : Nat
  deriving DecidableEq

namespace NumberedNames

/-- A name behind a letter and the number of the pass. -/
def mark
    (letter name : String)
    (names : NumberedNames) : String × NumberedNames :=
  (letter ++ Nat.repr names.pass ++ "_" ++ name, names)

instance : NameSource NumberedNames where
  identify := mark "v"
  invent := mark "h"
  forget names := ⟨names.pass + 1⟩

end NumberedNames
end MathBlocks
