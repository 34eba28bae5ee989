import CfmlNav.Expression.Escape

/-!
# Bracketed character classes

A class in brackets lists characters, ranges, escapes, named classes and further classes in
brackets, may be negated, and may combine two lists by intersection and by the two kinds of
difference, all of the same rank and read from the left. Where case is ignored, case variants
are added before anything is combined or negated. Within ASCII nothing may be listed or result
that lies outside.

A class also has a depth, because written patterns may not be nested too deeply: brackets, a
list of several items and an operation count one level each.
-/

namespace CfmlNav.Expression

/-- A way to combine two classes. -/
inductive ClassOperation where
  | intersection
  | difference
  | symmetricDifference
  deriving DecidableEq, Repr

/-- The combination of two sets. -/
def ClassOperation.apply : ClassOperation → CharacterSet → CharacterSet → CharacterSet
  | intersection => .intersection
  | difference => .difference
  | symmetricDifference => .symmetricDifference

/-- A set of characters with the depth of the class that describes it. -/
structure DeepSet where
  set : CharacterSet
  depth : Nat

/-- A class whose closing bracket is still to come: what stands to the left of the last
operation, the ranges that have been listed since, the number of items that list them, and the
greatest depth of an item. -/
structure OpenClass where
  negated : Bool
  left : Option (ClassOperation × DeepSet) := none
  ranges : List (Nat × Nat) := []
  count : Nat := 0
  depth : Nat := 0

namespace OpenClass

/-- The class with one more item. -/
def add (current : OpenClass) (item : DeepSet) : OpenClass :=
  { current with
    ranges := item.set.ranges ++ current.ranges
    count := current.count + 1
    depth := max current.depth item.depth }

/-- The class with one more character. -/
def addChar (current : OpenClass) (c : Char) : OpenClass :=
  current.add ⟨.singleton c, 0⟩

/-- What the class describes so far, without a negation. -/
def content (flags : Flags) (current : OpenClass) : DeepSet :=
  let right : DeepSet := ⟨flags.close (.ofRanges current.ranges),
    if current.count ≥ 2 then current.depth + 1 else current.depth⟩
  match current.left with
  | none => right
  | some (operation, left) =>
    ⟨operation.apply left.set right.set, max left.depth right.depth + 1⟩

/-- The class with an operation behind what was read so far. -/
def operate (flags : Flags) (current : OpenClass) (operation : ClassOperation) : OpenClass :=
  { negated := current.negated, left := some (operation, current.content flags) }

/-- The finished class. -/
def finish? (flags : Flags) (current : OpenClass) : Option DeepSet := do
  let content := current.content flags
  return ⟨← flags.negate? current.negated content.set, content.depth + 1⟩

end OpenClass

/-- The ASCII classes with a name, as ranges. -/
def namedClass? (name : String) : Option (List (Char × Char)) :=
  match name with
  | "alnum" => some [('0', '9'), ('A', 'Z'), ('a', 'z')]
  | "alpha" => some [('A', 'Z'), ('a', 'z')]
  | "ascii" => some [('\x00', '\x7f')]
  | "blank" => some [('\t', '\t'), (' ', ' ')]
  | "cntrl" => some [('\x00', '\x1f'), ('\x7f', '\x7f')]
  | "digit" => some [('0', '9')]
  | "graph" => some [('!', '~')]
  | "lower" => some [('a', 'z')]
  | "print" => some [(' ', '~')]
  | "punct" => some [('!', '/'), (':', '@'), ('[', '\x60'), ('\x7b', '~')]
  | "space" => some [('\t', '\r'), (' ', ' ')]
  | "upper" => some [('A', 'Z')]
  | "word" => some [('0', '9'), ('A', 'Z'), ('_', '_'), ('a', 'z')]
  | "xdigit" => some [('0', '9'), ('A', 'F'), ('a', 'f')]
  | _ => none

/-- Reads a named class behind its opening bracket: the characters that the name speaks of, and
whether all others are asked for instead. -/
def readNamedClass (flags : Flags) : Text → Option (CharacterSet × Bool × Text)
  | ':' :: rest => do
    let (negated, rest) := match rest with
      | '^' :: rest => (true, rest)
      | _ => (false, rest)
    let name := rest.takeWhile (· != ':')
    match rest.drop name.length with
    | ':' :: ']' :: behind =>
      let ranges ← namedClass? (String.ofList name)
      let set := flags.close (.ofRanges (ranges.map fun (low, high) => (low.toNat, high.toNat)))
      return (set, negated, behind)
    | _ => none
  | _ => none

/-- Reads one character or escape of a class. -/
def readClassItem (flags : Flags) : Text → Option (Escape × Text)
  | [] => none
  | '\\' :: rest => readEscape flags rest
  | c :: rest => some (.literal c false, rest)

/-- Reads a character, an escape or a range of a class. A minus sign is a range sign unless
the closing bracket or another minus sign follows. -/
def readClassRange (flags : Flags) (text : Text) : Option (CharacterSet × Text) := do
  let (first, rest) ← readClassItem flags text
  let rest := flags.skip rest
  let isRange := match rest with
    | '-' :: behind => flags.peek behind != some ']' && flags.peek behind != some '-'
    | _ => false
  if isRange then
    let (last, behind) ← readClassItem flags (flags.skip (rest.drop 1))
    match first, last with
    | .literal low _, .literal high _ =>
      if low ≤ high then return (← flags.negate? false (.between low high), behind) else none
    | _, _ => none
  else
    match first with
    | .literal c _ => return (← flags.negate? false (.singleton c), rest)
    | .charClass set => some (set, rest)
    | .anchor _ => none

/-- Reads minus signs that stand for themselves. -/
def readSigns (flags : Flags) : (bound : Nat) → OpenClass → Text → OpenClass × Text
  | bound + 1, current, '-' :: rest =>
    readSigns flags bound (current.addChar '-') (flags.skip rest)
  | _, current, text => (current, text)

/-- Reads the start of a class behind its opening bracket: a negation, minus signs that stand
for themselves, and, only if there are none of these, a closing bracket that does. -/
def readClassStart (flags : Flags) (text : Text) : OpenClass × Text :=
  let (negated, text) := match flags.skip text with
    | '^' :: rest => (true, flags.skip rest)
    | text => (false, text)
  match readSigns flags text.length { negated } text with
  | (current, ']' :: rest) =>
    if current.count = 0 then (current.addChar ']', rest) else (current, ']' :: rest)
  | start => start

/-- Reads a class to its closing bracket; `outer` are the classes around the open one. Every
step takes a character, so the length of the text is a bound on their number. -/
def readClassWithin (flags : Flags) : (bound : Nat) → (outer : List OpenClass) → OpenClass →
    Text → Option (DeepSet × Text)
  | 0, _, _, _ => none
  | bound + 1, outer, current, text =>
    match flags.skip text with
    | [] => none
    | ']' :: rest => do
      let finished ← current.finish? flags
      match outer with
      | [] => some (finished, rest)
      | parent :: outer => readClassWithin flags bound outer (parent.add finished) rest
    | '[' :: rest =>
      match readNamedClass flags rest with
      | some (set, negated, behind) => do
        let set ← flags.negate? negated set
        readClassWithin flags bound outer (current.add ⟨set, 0⟩) behind
      | none =>
        let (inner, behind) := readClassStart flags rest
        readClassWithin flags bound (current :: outer) inner behind
    | '&' :: '&' :: rest =>
      readClassWithin flags bound outer (current.operate flags .intersection) rest
    | '-' :: '-' :: rest =>
      readClassWithin flags bound outer (current.operate flags .difference) rest
    | '~' :: '~' :: rest =>
      readClassWithin flags bound outer (current.operate flags .symmetricDifference) rest
    | text => do
      let (set, behind) ← readClassRange flags text
      readClassWithin flags bound outer (current.add ⟨set, 0⟩) behind

/-- Reads a class behind its opening bracket. -/
def readClass (flags : Flags) (text : Text) : Option (DeepSet × Text) :=
  let (current, rest) := readClassStart flags text
  readClassWithin flags text.length [] current rest

end CfmlNav.Expression
