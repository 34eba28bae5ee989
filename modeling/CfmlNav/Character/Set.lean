import CfmlNav.Character.Digit
import CfmlNav.Character.Fold
import CfmlNav.Character.Space
import CfmlNav.Character.Word

/-!
# Sets of characters

A set of characters is kept as an increasing list of closed ranges of code points, and the
operations on sets are operations on such lists. Ranges that overlap or touch are joined.

The surrogates are code points but no characters. A range may pass over them, and counts as one
range; ranges that only come up to them from both sides are not joined, although no character
lies between. So the ranges are part of what a set is, beside its characters: sets with other
ranges are other sets, and where two ranges come up to the surrogates, a complement takes the
gap between them by its outer ends.
-/

namespace CfmlNav

/-- A set of characters, as increasing closed ranges of code points. -/
structure CharacterSet where
  ranges : List (Nat × Nat)
  deriving DecidableEq, Repr

namespace CharacterSet

open Character

/-! ### Lists of ranges -/

/-- The code point of the character behind one, where the surrogates are passed over. -/
def next (code : Nat) : Nat :=
  if code = 0xD7FF then 0xE000 else code + 1

/-- The code point of the character before one, where the surrogates are passed over. -/
def previous (code : Nat) : Nat :=
  if code = 0xE000 then 0xD7FF else code - 1

/-- The ranges from `current` on, where those that overlap or touch are joined; their starts
do not decrease. -/
def join (current : Nat × Nat) : List (Nat × Nat) → List (Nat × Nat)
  | [] => [current]
  | range :: ranges =>
    if range.1 ≤ current.2 + 1 then join (current.1, max current.2 range.2) ranges
    else current :: join range ranges

/-- The gap between a range that ends with `high` and one that starts with `low`. Between the
characters on both sides of the surrogates nothing is left, and the gap is the two of them. -/
def gap (high low : Nat) : Nat × Nat :=
  (min (next high) (previous low), max (next high) (previous low))

/-- The gaps behind a range that ends with `high`, with further ranges behind it. -/
def gapsBehind (high : Nat) : List (Nat × Nat) → List (Nat × Nat)
  | [] => if high < 0x10FFFF then [(next high, 0x10FFFF)] else []
  | range :: ranges => gap high range.1 :: gapsBehind range.2 ranges

/-- The gaps before, between and behind some increasing ranges. -/
def gaps : List (Nat × Nat) → List (Nat × Nat)
  | [] => [(0, 0x10FFFF)]
  | range :: ranges =>
    if 0 < range.1 then (0, previous range.1) :: gapsBehind range.2 ranges
    else gapsBehind range.2 ranges

/-- The parts that two lists of increasing ranges have in common. -/
def common : (a b : List (Nat × Nat)) → List (Nat × Nat)
  | (low, high) :: a, (low', high') :: b =>
    let rest := if high < high' then common a ((low', high') :: b)
      else common ((low, high) :: a) b
    if max low low' ≤ min high high' then (max low low', min high high') :: rest else rest
  | _, _ => []
  termination_by a b => a.length + b.length

/-- The parts of some increasing ranges that lie outside others. -/
def outside : (a b : List (Nat × Nat)) → List (Nat × Nat)
  | [], _ => []
  | a, [] => a
  | (low, high) :: a, (low', high') :: b =>
    if high' < low then outside ((low, high) :: a) b
    else if high < low' then (low, high) :: outside a ((low', high') :: b)
    else
      let rest := if high' < high then outside ((next high', high) :: a) b
        else outside a ((low', high') :: b)
      if low < low' then (low, previous low') :: rest else rest
  termination_by a b => a.length + b.length

/-- The set of all characters in some ranges, in any order. -/
def ofRanges (ranges : List (Nat × Nat)) : CharacterSet :=
  match ranges.mergeSort fun a b => decide (a.1 ≤ b.1) with
  | [] => ⟨[]⟩
  | range :: ranges => ⟨join range ranges⟩

/-! ### Sets -/

/-- Whether a character belongs to the set. -/
def contains (set : CharacterSet) (c : Char) : Bool :=
  inRanges c.toNat set.ranges

/-- The set without characters. -/
def empty : CharacterSet := ⟨[]⟩

/-- The set of all characters. -/
def all : CharacterSet := ⟨[(0, 0x10FFFF)]⟩

/-- The set of one character. -/
def singleton (c : Char) : CharacterSet := ⟨[(c.toNat, c.toNat)]⟩

/-- The characters from `low` to `high`. -/
def between (low high : Char) : CharacterSet := ⟨[(low.toNat, high.toNat)]⟩

/-- The characters outside a set, as the gaps between its ranges. -/
def complement (set : CharacterSet) : CharacterSet := ⟨gaps set.ranges⟩

/-- The characters of either set. -/
def union (a b : CharacterSet) : CharacterSet :=
  ofRanges (a.ranges ++ b.ranges)

/-- The characters of both sets. -/
def intersection (a b : CharacterSet) : CharacterSet :=
  ⟨common a.ranges b.ranges⟩

/-- The characters of one set that are not in the other. -/
def difference (a b : CharacterSet) : CharacterSet :=
  ⟨outside a.ranges b.ranges⟩

/-- The characters of exactly one of two sets. -/
def symmetricDifference (a b : CharacterSet) : CharacterSet :=
  (a.union b).difference (a.intersection b)

/-- The set with all case variants of its characters: first what they fold to, and then
everything that folds to the same. -/
def closeCase (set : CharacterSet) : CharacterSet :=
  let close (pairs : List (Nat × Nat)) (set : CharacterSet) : CharacterSet :=
    ofRanges (set.ranges ++ (imagesIn pairs set.ranges).map fun image => (image, image))
  close unfoldPairs (close foldPairs set)

/-- The set with the other case of its ASCII letters. -/
def closeAsciiCase (set : CharacterSet) : CharacterSet :=
  let capitals := set.intersection ⟨[(0x41, 0x5A)]⟩
  let smalls := set.intersection ⟨[(0x61, 0x7A)]⟩
  .ofRanges (set.ranges ++ capitals.ranges.map (fun (low, high) => (low + 32, high + 32)) ++
    smalls.ranges.map fun (low, high) => (low - 32, high - 32))

/-- Whether a set holds ASCII characters only. -/
def isAscii (set : CharacterSet) : Bool :=
  set.ranges.all fun range => range.2 < 128

/-! ### Classes -/

/-- The decimal digits. -/
def digits : CharacterSet := ⟨digitRanges⟩

/-- The white space. -/
def spaces : CharacterSet := ⟨spaceRanges⟩

/-- The word characters. -/
def wordCharacters : CharacterSet := ⟨wordRanges⟩

end CharacterSet

end CfmlNav
