import CfmlNav.Character.Set

/-!
# Encoded characters

The encoded forms of the characters of a set, as sequences of ranges of byte values. Together
the sequences give every character of the set once, and they come in increasing order.
-/

namespace CfmlNav

/-- Byte values that may follow one another, as closed ranges. -/
abbrev ByteSequence := List (Nat × Nat)

namespace CharacterSet

/-- The number of values that `n` bytes behind the first can take. -/
def tailValues : (n : Nat) → Nat
  | 0 => 1
  | n + 1 => 64 * tailValues n

/-- Puts one digit in front of some sequences. -/
def lead (digit : Nat) (sequences : List ByteSequence) : List ByteSequence :=
  sequences.map ((digit, digit) :: ·)

/-- Splits the numbers from `low` to `high`, written with `tail` digits of base 64 behind the
first, into products of ranges of digits, in increasing order. A first digit under which not
all numbers are wanted stands apart; those between the ends go together. -/
def digitProducts : (tail low high : Nat) → List ByteSequence
  | 0, low, high => [[(low, high)]]
  | tail + 1, low, high =>
    let block := tailValues (tail + 1)
    let first := low / block
    let last := high / block
    if first = last then lead first (digitProducts tail (low % block) (high % block))
    else
      let cutsFirst := low % block != 0
      let cutsLast := high % block != block - 1
      let start := if cutsFirst then first + 1 else first
      let stop := if cutsLast then last - 1 else last
      (if cutsFirst then lead first (digitProducts tail (low % block) (block - 1)) else []) ++
      (if start ≤ stop then [(start, stop) :: List.replicate (tail + 1) (0, 63)] else []) ++
      (if cutsLast then lead last (digitProducts tail 0 (high % block)) else [])

/-- The bytes of digits: the first digit is increased by `mark`, the others by 128. -/
def digitBytes (mark : Nat) : ByteSequence → ByteSequence
  | [] => []
  | (low, high) :: rest =>
    (low + mark, high + mark) :: rest.map fun (low, high) => (low + 128, high + 128)

/-- The characters by the length of their encoding, with a gap for the surrogates: the first
and the last code point, the number of bytes behind the first, and what the first byte is
increased by. -/
def encodings : List (Nat × Nat × Nat × Nat) :=
  [(0, 0x7F, 0, 0), (0x80, 0x7FF, 1, 0xC0), (0x800, 0xD7FF, 2, 0xE0), (0xE000, 0xFFFF, 2, 0xE0),
   (0x10000, 0x10FFFF, 3, 0xF0)]

/-- The encoded forms of the characters of a set, in increasing order. -/
def byteSequences (set : CharacterSet) : List ByteSequence :=
  set.ranges.flatMap fun (low, high) =>
    encodings.flatMap fun (first, last, tail, mark) =>
      if low ≤ last ∧ first ≤ high then
        (digitProducts tail (max low first) (min high last)).map (digitBytes mark)
      else []

end CharacterSet

end CfmlNav
