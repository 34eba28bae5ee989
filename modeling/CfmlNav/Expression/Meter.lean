import CfmlNav.Character.Encoding

/-!
# Measuring automata over bytes

A meter counts the memory of an automaton over bytes while the automaton is put together state
by state. A state takes 32 bytes, and beside that every byte range of a state with several takes
8 and every alternative of a state without any takes 4.

A set of characters is many states. Some of them are shared: read forwards, byte sequences that
end in the same way share the end, and read backwards, those that start in the same way share
the start. What can be shared is remembered in a table with a fixed number of places, where a
newer state displaces an older one of the same place, so that not all is shared that could be.
-/

namespace CfmlNav

/-- What an automaton takes so far: its states, and the bytes beside them. -/
structure Meter where
  states : Nat
  heap : Nat
  deriving DecidableEq, Repr

namespace Meter

/-- The memory taken, in bytes. -/
def used (meter : Meter) : Nat :=
  32 * meter.states + meter.heap

/-- The greatest size that is allowed. -/
def limit : Nat := 10485760

/-- Whether more is taken than is allowed. -/
def isFull (meter : Meter) : Bool :=
  meter.used > limit

/-- Adds some states and some bytes beside them. -/
def add (states heap : Nat) (meter : Meter) : Meter :=
  ⟨meter.states + states, meter.heap + heap⟩

/-- Adds `n` rounds of something, or as many as are allowed. -/
def repeats (round : Meter → Meter) : (n : Nat) → Meter → Meter
  | 0, meter => meter
  | n + 1, meter => if meter.isFull then meter else repeats round n (round meter)

/-! ### Places for shared states -/

/-- States by what they do, each at one of a fixed number of places. Of what falls to the same
place only the newest is known. -/
structure Places (α : Type) where
  entries : Array (Option (α × Nat))

namespace Places

/-- The table with `size` places and no entry. -/
def empty {α : Type} (size : Nat) : Places α := ⟨Array.replicate size none⟩

/-- The place for something with a hash. -/
def index {α : Type} (places : Places α) (hash : UInt64) : Nat :=
  hash.toNat % places.entries.size

/-- The state that does what `key` says, if it is known at a place. -/
def find? {α : Type} [BEq α] (places : Places α) (index : Nat) (key : α) : Option Nat :=
  match places.entries[index]? with
  | some (some (known, state)) => if known == key then some state else none
  | _ => none

/-- Makes a state known at a place. -/
def insert {α : Type} (places : Places α) (index : Nat) (key : α) (state : Nat) : Places α :=
  ⟨places.entries.setIfInBounds index (some (key, state))⟩

end Places

/-- The hash of nothing. -/
def hashStart : UInt64 := 14695981039346656037

/-- Mixes a number into a hash. -/
def mix (hash : UInt64) (n : Nat) : UInt64 :=
  (hash ^^^ n.toUInt64) * 1099511628211

/-- A state that does what `key` says: a known one, or else a new one, which adds `heap` bytes
beside it. -/
def share {α : Type} [BEq α] (key : α) (hash : UInt64) (heap : Nat) (places : Places α)
    (meter : Meter) : Nat × Places α × Meter :=
  let index := places.index hash
  match places.find? index key with
  | some state => (state, places, meter)
  | none => (meter.states, places.insert index key meter.states, meter.add 1 heap)

/-! ### Sets of characters -/

/-- The byte ranges that lead out of a state, with the states they lead to. -/
abbrev Edges := List ((Nat × Nat) × Nat)

/-- The hash of byte ranges with the states they lead to. -/
def hashEdges (hash : UInt64) : Edges → UInt64
  | [] => hash
  | ((low, high), next) :: edges => hashEdges (mix (mix (mix hash low) high) next) edges

/-- Adds the states for sequences of at most `depth` ranges that all lead to the state `stop`.
The answer is the state to start with. -/
def addSequences (stop : Nat) : (depth : Nat) → List ByteSequence → Places Edges → Meter →
    Nat × Places Edges × Meter
  | 0, _, places, meter => (stop, places, meter)
  | depth + 1, sequences, places, meter =>
    if sequences.all List.isEmpty then (stop, places, meter)
    else
      let groups := sequences.splitBy fun a b => a.head? == b.head?
      let (edges, places, meter) := groups.foldl (fun (edges, places, meter) group =>
        let (next, places, meter) :=
          addSequences stop depth (group.map List.tail) places meter
        (((group.head?.bind List.head?).getD (0, 0), next) :: edges, places, meter))
        (([] : Edges), places, meter)
      let edges := edges.reverse
      share edges (hashEdges hashStart edges) (8 * edges.length) places meter

/-- Adds a set of characters that is read forwards. -/
def addForwards (sequences : List ByteSequence) (meter : Meter) : Meter :=
  let (_, _, filled) := addSequences meter.states 4 sequences (.empty 10000) (meter.add 1 0)
  filled

/-- Adds one sequence that is read backwards to the state `next`. -/
def addBackwardSequence (next : Nat) (places : Places (Nat × Nat × Nat)) (meter : Meter) :
    ByteSequence → Places (Nat × Nat × Nat) × Meter
  | [] => (places, meter.add 0 4)
  | (low, high) :: rest =>
    let hash := mix (mix (mix hashStart next) low) high
    let (state, places, meter) := share (next, low, high) hash 0 places meter
    addBackwardSequence state places meter rest

/-- Adds some sequences that are read backwards to the state `stop`. -/
def addBackwardSequences (stop : Nat) (places : Places (Nat × Nat × Nat)) (meter : Meter) :
    List ByteSequence → Meter
  | [] => meter
  | sequence :: rest =>
    let (places, meter) := addBackwardSequence stop places meter sequence
    addBackwardSequences stop places meter rest

/-- Adds a set of characters that is read backwards. -/
def addBackwards (sequences : List ByteSequence) (meter : Meter) : Meter :=
  addBackwardSequences (meter.states + 1) (.empty 1000) (meter.add 2 0) sequences

/-! ### Choices between texts -/

/-- What can follow some bytes, where `groups` are the continuations by their first byte, the
latest first. A word that ends closes a part; the continuations before and behind such a place
are not put together. -/
structure Parts where
  closed : List (List (UInt8 × List (List UInt8))) := []
  groups : List (UInt8 × List (List UInt8)) := []

namespace Parts

/-- The continuations by first byte, with one more behind `byte`. -/
def insert (byte : UInt8) (rest : List UInt8) :
    List (UInt8 × List (List UInt8)) → List (UInt8 × List (List UInt8))
  | [] => [(byte, [rest])]
  | (known, rests) :: groups =>
    if known == byte then (known, rests ++ [rest]) :: groups
    else (known, rests) :: insert byte rest groups

/-- The parts with one more word. Before anything can follow, words that end count once. -/
def add (parts : Parts) : List UInt8 → Parts
  | [] =>
    let nothingFollows := parts.groups.isEmpty && parts.closed.all List.isEmpty
    if nothingFollows && !parts.closed.isEmpty then parts
    else { closed := parts.groups :: parts.closed }
  | byte :: rest => { parts with groups := insert byte rest parts.groups }

end Parts

/-- Adds the states behind a place from which some words go on, in this order of preference.
There is one state for all parts and one for each part that is not empty. -/
def addWords : (depth : Nat) → List (List UInt8) → Meter → Meter
  | 0, _, meter => meter
  | depth + 1, words, meter =>
    if words.all List.isEmpty then meter
    else
      let parts := words.foldl Parts.add {}
      let groups := (parts.groups :: parts.closed).filter (!·.isEmpty)
      let meter := meter.add (1 + groups.length) (4 * (groups.length + parts.closed.length))
      groups.foldl (fun meter group =>
        let meter := meter.add 0 (if group.length ≥ 2 then 8 * group.length else 0)
        group.foldl (fun meter (_, rests) => addWords depth rests meter) meter) meter

/-- Adds a choice between words, in their order of preference. -/
def addChoice (words : List (List UInt8)) (meter : Meter) : Meter :=
  let depth := words.foldl (fun depth word => max depth word.length) 0
  addWords depth words (meter.add 1 0)

end Meter

end CfmlNav
