import Mathlib.Data.Finset.Card
import Mathlib.Order.Bounds.Basic
import MathBlocks.Proofs.Names.Directory

/-!
# The search for a free identifier

As long as the candidate at hand is taken, the next one is the base with a number behind it, and the
number goes up by one. Nothing in this bounds the search but the width of the number, which has 32
bits. The search ends because the candidates are all different, whatever the taken words look like,
and only finitely many words are taken. It takes more than two billion words to use the numbers up;
where these take every candidate up to there, a checked search stops with no identifier.
-/

namespace MathBlocks
namespace NameDirectory

/-- The words that are in use or that are never handed out. -/
def taken (names : NameDirectory) : Finset String :=
  names.used.toFinset ∪ names.reserved.toFinset

/-- What comes of a sum that does not fit into its width. -/
inductive Arithmetic where
  /-- The program stops. -/
  | checked
  /-- The sum wraps around. -/
  | wrapping
  deriving DecidableEq

/-- The next number, if the program goes on with one. -/
def Arithmetic.next? (number : Int32) : Arithmetic → Option Int32
  | .checked => if number = Int32.maxValue then none else some (number + 1)
  | .wrapping => some (number + 1)

/-- Where a search is: the candidate to be tried, and the number to go behind the base next. -/
structure Search where
  candidate : String
  suffix : Int32
  deriving DecidableEq

/-- How many candidates can be tried before the number has to leave its width: `2 ^ 31 - 2`. -/
def candidateLimit : Nat :=
  2147483646

/-- Whether one of the candidates that can be tried is free. -/
def HasRoom
    (names : NameDirectory)
    (base : String) : Prop :=
  ∃ n < candidateLimit, names.isFree (candidate base n) = true

namespace Search

variable {arithmetic : Arithmetic} {names : NameDirectory} {base : String}

/-- The base itself is tried first, and two is the first number. -/
def start (base : String) : Search :=
  ⟨base, 2⟩

/-- Where a search goes on if its candidate is taken. -/
def next?
    (arithmetic : Arithmetic)
    (base : String)
    (search : Search) : Option Search :=
  (arithmetic.next? search.suffix).map fun suffix => ⟨base ++ toString search.suffix, suffix⟩

/-- Whether a search goes through these places and ends at the last one, with a free candidate. -/
inductive Visits
    (arithmetic : Arithmetic)
    (names : NameDirectory)
    (base : String) :
    Search → List Search → Prop where
  | free
      {search : Search}
      (hfree : names.isFree search.candidate = true) :
      Visits arithmetic names base search [search]
  | taken
      {search next : Search}
      {visited : List Search}
      (htaken : names.isFree search.candidate = false)
      (hnext : search.next? arithmetic base = some next)
      (hrest : Visits arithmetic names base next visited) :
      Visits arithmetic names base search (search :: visited)

/-- A search goes one way only. -/
theorem Visits.unique
    {search : Search}
    {visited other : List Search}
    (hvisited : Visits arithmetic names base search visited)
    (hother : Visits arithmetic names base search other) :
    visited = other := by
  induction hvisited generalizing other with
  | free hfree =>
      cases hother with
      | free _ =>
          rfl
      | taken htaken _ _ =>
          rw [hfree] at htaken
          cases htaken
  | taken htaken hnext _ ih =>
      cases hother with
      | free hfree =>
          rw [htaken] at hfree
          cases hfree
      | taken _ hstep hrest =>
          rw [hnext] at hstep
          cases hstep
          rw [ih hrest]

/-- Where a search is after some rounds. -/
def after
    (base : String)
    (rounds : Nat) : Search :=
  ⟨NameDirectory.candidate base rounds, Int32.ofNat (rounds + 2)⟩

end Search

end NameDirectory
end MathBlocks
