import CfmlNav.Match
import CfmlNav.Pattern.Basic

/-!
# Matching patterns

A pattern is run on the text behind a cursor with a continuation that says what has to hold
behind it. Alternatives are tried in the order of preference, and the first on which the
continuation succeeds is the answer. A search takes the first place of the text at which the
pattern fits, and the search for all matches goes on behind each match, where an empty match
that would touch the previous one is passed over.
-/

namespace CfmlNav

/-- How far a run has come, with the parts captured so far, the latest first. -/
structure Progress extends Cursor where
  captures : List Capture
  deriving DecidableEq, Repr

namespace Pattern

variable {α : Type}

/-- Further rounds of a repetition. Each has to take at least one character, so the text that
was left before the first of them bounds their number. -/
def rounds (greedy : Bool) (round : Progress → (Progress → Option α) → Option α) :
    (bound : Text) → Progress → (Progress → Option α) → Option α
  | [], here, next => next here
  | _ :: bound, here, next =>
    let more (_ : Unit) := round here fun there =>
      if here.offset < there.offset then rounds greedy round bound there next else none
    if greedy then more () <|> next here else next here <|> more ()

/-- Runs a pattern and then the continuation `next`; the answer is that of the first way to
fit the pattern on which the continuation succeeds. A repetition whose first round takes
nothing ends with that round. -/
def run : Pattern → Progress → (Progress → Option α) → Option α
  | empty, here, next => next here
  | one accepts, here, next =>
    match here.rest with
    | [] => none
    | c :: rest =>
      if accepts c then next { here with toCursor := here.toCursor.advance c rest } else none
  | anchor a, here, next => if here.satisfies a then next here else none
  | seq p q, here, next => p.run here fun there => q.run there next
  | alt p q, here, next => p.run here next <|> q.run here next
  | plus greedy p, here, next =>
    p.run here fun there =>
      if here.offset < there.offset then
        rounds greedy (fun progress behind => p.run progress behind) there.rest there next
      else next there
  | capture name p, here, next =>
    p.run here fun there =>
      next { there with captures := ⟨name, here.offset, there.offset⟩ :: there.captures }

/-- The preferred match at a cursor. -/
def matchAt (p : Pattern) (cursor : Cursor) : Option Match :=
  p.run ⟨cursor, []⟩ fun there => some ⟨cursor.offset, there.toCursor, there.captures⟩

/-- The first match at or behind a place of a text. An empty match at the place itself is
passed over unless `emptyHere`. -/
def findFrom (p : Pattern) : (emptyHere : Bool) → (before : Option Char) → (offset : Nat) →
    (rest : Text) → Option Match
  | emptyHere, before, offset, [] =>
    (p.matchAt ⟨before, offset, []⟩).filter fun found => emptyHere || !found.isEmpty
  | emptyHere, before, offset, c :: rest =>
    (p.matchAt ⟨before, offset, c :: rest⟩).filter (fun found => emptyHere || !found.isEmpty) <|>
      p.findFrom true (some c) (offset + c.utf8Size) rest

/-- The first match in a text. -/
def find? (p : Pattern) (text : Text) : Option Match :=
  p.findFrom true none 0 text

/-- Whether a pattern fits some part of a text. -/
def matchesIn (p : Pattern) (text : Text) : Bool :=
  (p.find? text).isSome

/-- All matches in a text, one behind the other. -/
def findAll (p : Pattern) (text : Text) : List Match :=
  Match.all (fun emptyHere cursor => p.findFrom emptyHere cursor.before cursor.offset cursor.rest)
    text

end Pattern

end CfmlNav
