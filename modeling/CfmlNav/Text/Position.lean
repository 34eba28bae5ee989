import CfmlNav.Text.Basic
import CfmlNav.Position

/-!
# Offsets and positions of a text

The two directions between byte offsets and positions. Both are total: an offset past the end
stands for the end, an offset inside a character for the start of that character's line, a
line past the last one for the end of the text, and a column past the end of a line for the
place before the line feed.
-/

namespace CfmlNav.Text

/-- The number of lines: one more than there are line feeds. -/
def lineCount (text : Text) : Nat :=
  text.count '\n' + 1

/-- The position `offset` bytes further on, for a text that starts at `here`. -/
def positionFrom (here : Position) : Text → Nat → Position
  | [], _ => here
  | c :: rest, offset =>
    if offset = 0 then here
    else if offset < c.utf8Size then ⟨here.line, 0⟩
    else positionFrom (here.after c) rest (offset - c.utf8Size)

/-- The position of a byte offset. -/
def positionAt (text : Text) (offset : Nat) : Position :=
  positionFrom .origin text offset

/-- The positions of a span given by byte offsets. -/
def spanAt (text : Text) (range : ByteRange) : Span :=
  ⟨text.positionAt range.start, text.positionAt range.stop⟩

/-- The number of bytes before a column of the line that the text starts with. -/
def columnOffset : Text → Nat → Nat
  | [], _ => 0
  | _ :: _, 0 => 0
  | c :: rest, column + 1 => if c = '\n' then 0 else c.utf8Size + columnOffset rest column

/-- The number of bytes before a column of the line that is `line` lines down. -/
def offsetFrom : Text → (line column : Nat) → Nat
  | text, 0, column => columnOffset text column
  | [], _ + 1, _ => 0
  | c :: rest, line + 1, column =>
    c.utf8Size + offsetFrom rest (if c = '\n' then line else line + 1) column

/-- The byte offset of a position. -/
def offsetAt (text : Text) (position : Position) : Nat :=
  text.offsetFrom position.line position.column

end CfmlNav.Text
