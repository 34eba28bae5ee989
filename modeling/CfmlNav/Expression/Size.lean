import CfmlNav.Expression.Basic
import CfmlNav.Expression.Meter

/-!
# The size of an expression

A written pattern must not grow too large. Its size is the memory of the automaton over bytes
that recognises the encoded text, once read forwards with all its groups and once read
backwards without them. Repetitions with a count are copied so often, which is what makes sizes
grow; copying stops as soon as the allowed size is passed.
-/

namespace CfmlNav.Expression

/-- In which order an automaton reads a text. -/
inductive Direction where
  | forwards
  | backwards
  deriving DecidableEq, Repr

/-- Whether an expression can begin at the start of a text only. -/
def beginsAtStart : Expression → Bool
  | anchor a => a == .textStart
  | group _ _ body => body.beginsAtStart
  | repeated count _ body => count.low > 0 && body.beginsAtStart
  | seq p q => p.beginsAtStart || (p.takesNothing && q.beginsAtStart)
  | alt p q => p.beginsAtStart && q.beginsAtStart
  | _ => false

/-- Whether an expression can finish at the end of a text only. -/
def finishesAtEnd : Expression → Bool
  | anchor a => a == .textEnd
  | group _ _ body => body.finishesAtEnd
  | repeated count _ body => count.low > 0 && body.finishesAtEnd
  | seq p q => q.finishesAtEnd || (q.takesNothing && p.finishesAtEnd)
  | alt p q => p.finishesAtEnd && q.finishesAtEnd
  | _ => false

/-- The bytes of a literal. -/
def bytes? : Expression → Option (List UInt8)
  | literal text => some (text.flatMap String.utf8EncodeChar)
  | _ => none

/-- What an automaton consists of, in the order in which it is put together. -/
inductive Layout where
  /-- Some states, with some bytes beside them. -/
  | states (count heap : Nat)
  /-- A set of characters, by its encoded forms, which are found when they are first needed. -/
  | characters (sequences : Thunk (List ByteSequence))
  /-- One layout, then the other. -/
  | seq (first second : Layout)
  /-- Some copies. -/
  | copies (n : Nat) (layout : Layout)

namespace Layout

/-- Adds a layout to what a meter has counted. When more is taken than is allowed, what sets
would add is not counted any more. -/
def measure (direction : Direction) : Layout → Meter → Meter
  | states count heap, meter => meter.add count heap
  | characters sequences, meter =>
    if meter.isFull then meter
    else match direction with
      | .forwards => meter.addForwards sequences.get
      | .backwards => meter.addBackwards sequences.get
  | seq p q, meter => q.measure direction (p.measure direction meter)
  | copies n layout, meter => meter.repeats (layout.measure direction) n

/-- The layout of a set of characters. A set of ASCII characters is a state with a byte range
for each range of characters, and the state behind it. -/
def ofSet (set : CharacterSet) : Layout :=
  if set.isAscii then .states 2 (8 * set.ranges.length)
  else .characters (Thunk.mk fun _ => set.byteSequences)

/-- What an alternative of a choice takes beside itself, given how many come before it: the
state that leads to all alternatives and the one behind them come with the second. -/
def closeBranch (layout : Layout) : (branch : Option Nat) → Layout
  | none | some 0 => layout
  | some 1 => layout.seq (.states 2 8)
  | some (_ + 2) => layout.seq (.states 0 4)

/-- The layout of an expression; `branch` tells how many alternatives come before it in the
choice that it ends. -/
def ofExpression (direction : Direction) : Expression → (branch : Option Nat) → Layout
  | .empty, branch | .anchor _, branch => (states 1 0).closeBranch branch
  | .literal text, branch => (states text.byteSize 0).closeBranch branch
  | .oneOf set _, branch => (ofSet set).closeBranch branch
  | .group _ _ body, branch =>
    let body := ofExpression direction body none
    (match direction with
      | .forwards => (states 1 0).seq (body.seq (.states 1 0))
      | .backwards => body).closeBranch branch
  | .seq p q, branch =>
    let p := ofExpression direction p none
    let q := ofExpression direction q none
    (match direction with
      | .forwards => p.seq q
      | .backwards => q.seq p).closeBranch branch
  | .alt p q, some branch =>
    ((ofExpression direction p none).closeBranch (some branch)).seq
      (ofExpression direction q (some (branch + 1)))
  | .alt p q, none =>
    match (Expression.alt p q).alternatives.mapM bytes? with
    | some words =>
      let choice := Meter.addChoice (match direction with
        | .forwards => words
        | .backwards => words.map List.reverse) ⟨0, 0⟩
      states choice.states choice.heap
    | none => (ofExpression direction p none).seq (ofExpression direction q (some 1))
  | .repeated count _ body, branch =>
    let round := ofExpression direction body none
    (match count.low, count.high with
      | 0, some 1 => (states 1 8).seq (round.seq (.states 1 0))
      | 0, none =>
        if body.minLength.any (· > 0) then (states 1 8).seq round else round.seq (.states 3 16)
      | low, none => (copies low round).seq (.states 1 8)
      | low, some high =>
        if low = high then copies low round
        else
          let start := if low = 0 then states 1 0 else copies low round
          (start.seq (.states 1 0)).seq
            (copies (high - low) ((states 1 8).seq round))).closeBranch branch

end Layout

/-- What an expression takes in one direction. An automaton that is not bound to one end of the
text starts with three states that pass over the text before a match, any other with one. -/
def memory (direction : Direction) (e : Expression) : Meter :=
  let bound := match direction with
    | .forwards => e.beginsAtStart
    | .backwards => e.finishesAtEnd
  let start : Meter := if bound then ⟨1, 0⟩ else ⟨3, 16⟩
  (Layout.ofExpression direction e none).measure direction start

/-- Whether an expression is small enough, with the state for a match and forwards with those
for the group that is the whole match. -/
def fits (e : Expression) : Bool :=
  !((e.memory .backwards).add 1 0).isFull && !((group 0 none e).memory .forwards |>.add 1 0).isFull

end CfmlNav.Expression
