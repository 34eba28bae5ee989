import CfmlNav.Cursor
import CfmlNav.Character.Space
import CfmlNav.Character.Fold

/-!
# Patterns

A pattern describes texts by characters, anchors, sequence, choice and repetition, and names
the parts of a text to be reported. Choice and repetition have a preferred side: the first
alternative before the second, and for a greedy repetition one more round before leaving it.
Only one kind of repetition is primitive, one or more rounds; the others are built from it.
The forms of the language are patterns; what users write is a `CfmlNav.Expression`.
-/

namespace CfmlNav

/-- A pattern for parts of a text. -/
inductive Pattern where
  /-- Nothing. -/
  | empty
  /-- One character of a class. -/
  | one (accepts : Char → Bool)
  /-- A condition on the place. -/
  | anchor (anchor : Anchor)
  /-- One pattern, then the other. -/
  | seq (first second : Pattern)
  /-- One pattern, or failing that the other. -/
  | alt (first second : Pattern)
  /-- One or more rounds; a greedy repetition prefers more rounds, any other fewer. -/
  | plus (greedy : Bool) (body : Pattern)
  /-- A part to be reported under a name. -/
  | capture (name : Text) (body : Pattern)

namespace Pattern

/-! ### Derived patterns -/

/-- Patterns one after the other. -/
def sequence : List Pattern → Pattern
  | [] => empty
  | [p] => p
  | p :: q :: rest => seq p (sequence (q :: rest))

/-- The first of some patterns that fits; without alternatives, nothing is asked. -/
def choice : List Pattern → Pattern
  | [] => empty
  | [p] => p
  | p :: q :: rest => alt p (choice (q :: rest))

/-- The pattern or nothing; a greedy one prefers the pattern. -/
def optional (greedy : Bool) (p : Pattern) : Pattern :=
  if greedy then alt p empty else alt empty p

/-- Any number of rounds. -/
def star (greedy : Bool) (p : Pattern) : Pattern :=
  optional greedy (plus greedy p)

/-! ### Characters and words -/

/-- One given character. -/
def char (c : Char) : Pattern := one (· == c)

/-- One of some characters. -/
def oneOf (cs : Text) : Pattern := one cs.contains

/-- Any character but some. -/
def noneOf (cs : Text) : Pattern := one fun c => !cs.contains c

/-- One given character in any case. -/
def letter (c : Char) : Pattern :=
  let code := Character.foldCode c
  one fun d => Character.foldCode d == code

/-- A word in any case. -/
def word (w : Text) : Pattern := sequence (w.map letter)

/-- One of some words in any case. -/
def anyWord (words : List Text) : Pattern := choice (words.map word)

/-- White space, as much as there is. -/
def spaces : Pattern := star true (one Character.isSpace)

/-- White space, as much as there is and at least one character. -/
def someSpaces : Pattern := plus true (one Character.isSpace)

/-- A boundary of a word. -/
def boundary : Pattern := anchor (.word .boundary false)

/-- A quote of either kind. -/
def quote : Pattern := oneOf ['\'', '"']

/-- Whether a pattern takes `c` for a part of an identifier. -/
def isNamePart (c : Char) : Bool :=
  c == '$' || Character.isWord c

/-- An identifier. -/
def identifier : Pattern := plus true (one isNamePart)

end Pattern

end CfmlNav
