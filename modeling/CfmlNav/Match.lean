import CfmlNav.Cursor

/-!
# Matches

A match is a part of a text that some description fits, with the parts of it that the
description reports under a name. All matches of a text are found one behind the other, where
an empty match that would touch the previous one is passed over.
-/

namespace CfmlNav

/-- A part of a text that was reported under a name. -/
structure Capture where
  name : Text
  range : ByteRange
  deriving DecidableEq, Repr

/-- A part of a text that fits: from the byte offset `start` to the cursor `after`, with the
parts captured on the way, the latest first. -/
structure Match where
  start : Nat
  after : Cursor
  captures : List Capture
  deriving DecidableEq, Repr

namespace Match

/-- Whether the matched part holds no character. -/
def isEmpty (found : Match) : Bool :=
  found.start == found.after.offset

/-- The part reported under a name; of several, the last one captured. -/
def capture? (found : Match) (name : Text) : Option ByteRange :=
  (found.captures.find? fun capture => capture.name == name).map Capture.range

/-- At most `bound` matches at or behind a cursor, one behind the other, where `first` finds
the first of them and is told whether an empty match at the cursor itself counts. -/
def chain (first : (emptyHere : Bool) → Cursor → Option Match) :
    (bound : Nat) → (emptyHere : Bool) → Cursor → List Match
  | 0, _, _ => []
  | bound + 1, emptyHere, cursor =>
    match first emptyHere cursor with
    | none => []
    | some found => found :: chain first bound false found.after

/-- All matches in a text, one behind the other. Each starts behind the start of the one
before it, so there is at most one more than there are characters. -/
def all (first : (emptyHere : Bool) → Cursor → Option Match) (text : Text) : List Match :=
  chain first (text.length + 1) true (.start text)

end Match

end CfmlNav
