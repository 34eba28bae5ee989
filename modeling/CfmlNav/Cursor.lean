import CfmlNav.Text.Basic
import CfmlNav.Character.Word

/-!
# Places in a text

A cursor is a place between two characters of a text. It knows the character before it and
the text behind it, which is all that a condition on the place can ask for.
-/

namespace CfmlNav

/-- What is asked of the word characters on the two sides of a place. -/
inductive WordEdge where
  /-- A word character on exactly one side. -/
  | boundary
  /-- A word character on both sides or on neither. -/
  | notBoundary
  /-- A word character behind the place and none before it. -/
  | start
  /-- A word character before the place and none behind it. -/
  | stop
  /-- No word character before the place. -/
  | noneBefore
  /-- No word character behind the place. -/
  | noneBehind
  deriving DecidableEq, Repr

/-- Whether an edge is between two sides, given for each whether it is a word character. -/
def WordEdge.isBetween (before behind : Bool) : WordEdge → Bool
  | boundary => before != behind
  | notBoundary => before == behind
  | start => !before && behind
  | stop => before && !behind
  | noneBefore => !before
  | noneBehind => !behind

/-- A condition on a place between two characters. -/
inductive Anchor where
  /-- The start of the text. -/
  | textStart
  /-- The end of the text. -/
  | textEnd
  /-- The start of the text or of a line. -/
  | lineStart
  /-- The end of the text or of a line. -/
  | lineEnd
  /-- The start of the text or of a line, where a carriage return ends a line too. -/
  | returnLineStart
  /-- The end of the text or of a line, where a carriage return ends a line too. -/
  | returnLineEnd
  /-- The edge of a word, where possibly only ASCII characters count as word characters. -/
  | word (edge : WordEdge) (asciiOnly : Bool)
  deriving DecidableEq, Repr

/-- A place between two characters of a text: the character before it, its byte offset and
the text behind it. -/
structure Cursor where
  before : Option Char
  offset : Nat
  rest : Text
  deriving DecidableEq, Repr

namespace Cursor

/-- The cursor at the start of a text. -/
def start (text : Text) : Cursor := ⟨none, 0, text⟩

/-- The cursor behind a character. -/
def advance (cursor : Cursor) (c : Char) (rest : Text) : Cursor :=
  ⟨some c, cursor.offset + c.utf8Size, rest⟩

/-- Whether there is a character on a side, and a word character. -/
def isWordSide (asciiOnly : Bool) (side : Option Char) : Bool :=
  side.any fun c => Character.isWord c && (!asciiOnly || c.toNat < 128)

/-- Whether an anchor holds at the cursor. A carriage return with a line feed behind it ends
one line, so neither anchor of a line holds between the two. -/
def satisfies (cursor : Cursor) : Anchor → Bool
  | .textStart => cursor.before.isNone
  | .textEnd => cursor.rest.isEmpty
  | .lineStart => cursor.before.isNone || cursor.before == some '\n'
  | .lineEnd => cursor.rest.isEmpty || cursor.rest.head? == some '\n'
  | .returnLineStart =>
    cursor.before.isNone || cursor.before == some '\n' ||
      (cursor.before == some '\r' && cursor.rest.head? != some '\n')
  | .returnLineEnd =>
    cursor.rest.isEmpty || cursor.rest.head? == some '\r' ||
      (cursor.rest.head? == some '\n' && cursor.before != some '\r')
  | .word edge asciiOnly =>
    edge.isBetween (isWordSide asciiOnly cursor.before) (isWordSide asciiOnly cursor.rest.head?)

end Cursor

end CfmlNav
