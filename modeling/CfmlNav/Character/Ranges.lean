/-!
# Ranges of code points

Properties of characters are given by increasing lists of closed ranges of code points, and
maps between characters by lists of runs of evenly spaced code points that move together.
Both lists are read from the front and left as soon as an entry starts above the code point
in question, so the common characters at the low end are found at once.
-/

namespace CfmlNav.Character

/-- Whether `n` lies in one of the closed ranges of an increasing list. -/
def inRanges (n : Nat) : List (Nat × Nat) → Bool
  | [] => false
  | (low, high) :: ranges => if n < low then false else n ≤ high || inRanges n ranges

/-- A run of code points `first, first + step, …, last` that is carried, in order and at the
same distances, to the run that starts at `image`. -/
structure Run where
  first : Nat
  last : Nat
  step : Nat
  image : Nat

namespace Run

/-- The code point that `n` is carried to, if it is a member of the run. -/
def carry? (run : Run) (n : Nat) : Option Nat :=
  if run.first ≤ n ∧ n ≤ run.last ∧ (n - run.first) % run.step = 0 then
    some (run.image + (n - run.first))
  else none

/-- The members of the run, each with the code point that it is carried to. -/
def pairs (run : Run) : List (Nat × Nat) :=
  (List.range ((run.last - run.first) / run.step + 1)).map fun i =>
    (run.first + i * run.step, run.image + i * run.step)

end Run

/-- The image of `n` under a list of runs with increasing starts; a code point outside every
run stays where it is. -/
def carry (n : Nat) : List Run → Nat
  | [] => n
  | run :: runs => if n < run.first then n else (run.carry? n).getD (carry n runs)

end CfmlNav.Character
