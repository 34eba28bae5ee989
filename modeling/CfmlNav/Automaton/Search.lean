import CfmlNav.Automaton.Basic
import CfmlNav.Automaton.Visited
import CfmlNav.Match

/-!
# Searching with an automaton

The search follows the ways through an automaton one by one, the preferred ones first, and
keeps those that are still to be tried on a stack. It never goes on from a state twice at the
same place of the text: the second time is either part of the first, and goes round in a circle
without taking anything, or comes after it has failed, and would fail again. So the way it
finds is the most preferred one that does not go round in a circle, and the number of steps
is at most the number of states times the number of places.

The search for the next match starts where the last match ends. What the last search tried
behind that place has all failed, since the way that succeeded never came so far; it is
remembered, and not tried again. What it tried at that place itself is forgotten.
-/

namespace CfmlNav

/-- A way through an automaton that is still to be tried: how far it has come, the byte offset
at which it started, the groups that are open with the byte offsets at which they were opened,
and the parts captured so far, the latest first. -/
structure Thread where
  state : Nat
  cursor : Cursor
  start : Nat
  opened : List (Text × Nat)
  captures : List Capture
  deriving DecidableEq, Repr

namespace Thread

/-- The thread at another state. -/
def moveTo (thread : Thread) (state : Nat) : Thread :=
  { thread with state }

/-- The thread with the group closed that was opened last. -/
def closeGroup (thread : Thread) : Thread :=
  match thread.opened with
  | [] => thread
  | (name, start) :: opened =>
    { thread with
      opened
      captures := ⟨name, start, thread.cursor.offset⟩ :: thread.captures }

/-- The match that a thread has found when it comes to the end. -/
def toMatch (thread : Thread) : Match :=
  ⟨thread.start, thread.cursor, thread.captures⟩

end Thread

/-- The cursor behind one character of each of some sets, in their order, if they follow. -/
def Cursor.takeEach? (cursor : Cursor) : List CharacterSet → Option Cursor
  | [] => some cursor
  | set :: sets =>
    match cursor.rest with
    | [] => none
    | c :: rest => if set.contains c then (cursor.advance c rest).takeEach? sets else none

namespace Automaton

/-- The way that starts at a cursor. -/
def thread (automaton : Automaton) (cursor : Cursor) : Thread :=
  ⟨automaton.start, cursor, cursor.offset, [], []⟩

/-- The ways on from a thread, the preferred one first. -/
def step (automaton : Automaton) (thread : Thread) : List Thread :=
  match automaton.states[thread.state]? with
  | none | some .accept => []
  | some (.take sets next) =>
    match thread.cursor.takeEach? sets with
    | none => []
    | some cursor => [{ thread with state := next, cursor }]
  | some (.check a next) => if thread.cursor.satisfies a then [thread.moveTo next] else []
  | some (.fork preferred other) => [thread.moveTo preferred, thread.moveTo other]
  | some (.enter name next) =>
    [{ thread.moveTo next with opened := (name, thread.cursor.offset) :: thread.opened }]
  | some (.leave next) => [thread.closeGroup.moveTo next]

/-- Whether a state is the end. -/
def isEnd (automaton : Automaton) (state : Nat) : Bool :=
  automaton.states[state]? matches some .accept

/-- Searches in at most `bound` steps: first along the ways on the stack, then along those that
start behind the cursor. The answer includes what was entered. -/
def searchWithin (automaton : Automaton) : (bound : Nat) → Visited → Cursor →
    (stack : List Thread) → Option Match × Visited
  | 0, visited, _, _ => (none, visited)
  | bound + 1, visited, cursor, [] =>
    match cursor.rest with
    | [] => (none, visited)
    | c :: rest =>
      let cursor := cursor.advance c rest
      searchWithin automaton bound visited cursor [automaton.thread cursor]
  | bound + 1, visited, cursor, thread :: stack =>
    let isJoin := automaton.isJoin thread.state
    if isJoin && visited.contains thread.state thread.cursor.offset then
      searchWithin automaton bound visited cursor stack
    else if automaton.isEnd thread.state then (some thread.toMatch, visited)
    else
      let visited :=
        if isJoin then visited.insert automaton.states.size thread.state thread.cursor.offset
        else visited
      searchWithin automaton bound visited cursor (automaton.step thread ++ stack)

/-- A bound on the number of steps of a search in a text: every state is entered once at each
place and leaves at most two ways. -/
def stepBound (automaton : Automaton) (text : Text) : Nat :=
  (2 * automaton.states.size + 2) * (text.length + 1)

/-- The first match at or behind a cursor. An empty match at the cursor itself is passed over
unless `emptyHere`. -/
def findFrom (automaton : Automaton) (bound : Nat) (emptyHere : Bool) (visited : Visited)
    (cursor : Cursor) : Option Match × Visited :=
  let search (visited : Visited) (cursor : Cursor) : Option Match × Visited :=
    automaton.searchWithin bound (visited.forget cursor.offset) cursor [automaton.thread cursor]
  match search visited cursor with
  | (none, visited) => (none, visited)
  | (some found, visited) =>
    if emptyHere || !found.isEmpty || found.start != cursor.offset then (some found, visited)
    else match cursor.rest with
      | [] => (none, visited)
      | c :: rest => search visited (cursor.advance c rest)

/-- At most `count` matches at or behind a cursor, one behind the other, each found in at most
`bound` steps. -/
def matchesWithin (automaton : Automaton) (bound : Nat) :
    (count : Nat) → (emptyHere : Bool) → Visited → Cursor → List Match
  | 0, _, _, _ => []
  | count + 1, emptyHere, visited, cursor =>
    match automaton.findFrom bound emptyHere visited cursor with
    | (none, _) => []
    | (some found, visited) =>
      found :: matchesWithin automaton bound count false visited found.after

/-- All matches in a text, one behind the other. Each starts behind the start of the one
before it, so there is at most one more than there are characters. -/
def findAll (automaton : Automaton) (text : Text) : List Match :=
  if text.length < automaton.least then []
  else
    automaton.matchesWithin (automaton.stepBound text) (text.length + 1) true (.empty text)
      (.start text)

end Automaton

end CfmlNav
