import CfmlNav.Expression.Basic

/-!
# Flags of written patterns

The flags that hold for a part of a written pattern say what its characters stand for, and
whether white space and comments between them count. All readers of written patterns pass over
what does not count by the functions of this module.
-/

namespace CfmlNav.Expression

/-- What the flags of a written pattern say about the part they hold for. -/
structure Flags where
  /-- Letters stand for all their case variants. -/
  ignoreCase : Bool := false
  /-- The line anchors hold at every line, not only at the ends of the text. -/
  multiLine : Bool := false
  /-- The dot accepts line ends too. -/
  dotAll : Bool := false
  /-- A carriage return ends a line too. -/
  returnEndsLine : Bool := false
  /-- Repetitions prefer fewer rounds, and marked ones more. -/
  swapGreed : Bool := false
  /-- White space and comments of the written form do not count. -/
  ignoreSpace : Bool := false
  /-- Classes, case and words go beyond ASCII. -/
  unicode : Bool := true
  deriving DecidableEq, Repr

/-- The text behind white space and behind comments, which reach from a number sign to the end
of the line. -/
def skipSpace : (inComment : Bool) → Text → Text
  | _, [] => []
  | true, c :: rest => skipSpace (c != '\n') rest
  | false, c :: rest =>
    if c == '#' then skipSpace true rest
    else if Character.isSpace c then skipSpace false rest
    else c :: rest

namespace Flags

/-- Switches the flag of a letter on or off. -/
def set (flags : Flags) (letter : Char) (value : Bool) : Option Flags :=
  match letter with
  | 'i' => some { flags with ignoreCase := value }
  | 'm' => some { flags with multiLine := value }
  | 's' => some { flags with dotAll := value }
  | 'R' => some { flags with returnEndsLine := value }
  | 'U' => some { flags with swapGreed := value }
  | 'x' => some { flags with ignoreSpace := value }
  | 'u' => some { flags with unicode := value }
  | _ => none

/-! ### What does not count -/

/-- The text behind all that does not count. -/
def skip (flags : Flags) (text : Text) : Text :=
  if flags.ignoreSpace then skipSpace false text else text

/-- A quick look at the next character that counts. It passes over white space and over one
number sign, but not over the comment that the sign begins; where nothing else is left, it
gives the very next character. -/
def peek (flags : Flags) (text : Text) : Option Char :=
  if flags.ignoreSpace then
    match text.dropWhile Character.isSpace with
    | '#' :: rest => (rest.dropWhile Character.isSpace).head? <|> text.head?
    | c :: _ => some c
    | [] => text.head?
  else text.head?

/-- The characters at the start of a text that `accepts` holds for, and the text behind them;
what does not count is passed over behind each of them. There are at most `bound`. -/
def takeWhile (flags : Flags) (accepts : Char → Bool) : (bound : Nat) → Text → Text × Text
  | bound + 1, c :: rest =>
    if accepts c then
      let (taken, behind) := takeWhile flags accepts bound (flags.skip rest)
      (c :: taken, behind)
    else ([], c :: rest)
  | _, text => ([], text)

/-- The first `n` characters of a text and the text behind them, if there are so many; what
does not count is passed over behind each of them. -/
def take? (flags : Flags) : (n : Nat) → Text → Option (Text × Text)
  | 0, text => some ([], text)
  | _ + 1, [] => none
  | n + 1, c :: rest => (take? flags n (flags.skip rest)).map fun (taken, behind) =>
    (c :: taken, behind)

/-! ### What characters stand for -/

/-- A set of characters with all case variants, if case is ignored. -/
def close (flags : Flags) (set : CharacterSet) : CharacterSet :=
  if !flags.ignoreCase then set
  else if flags.unicode then set.closeCase
  else set.closeAsciiCase

/-- The set itself or all other characters. Within ASCII there may be no others. -/
def negate? (flags : Flags) (negated : Bool) (set : CharacterSet) : Option CharacterSet :=
  let set := if negated then set.complement else set
  if flags.unicode || set.isAscii then some set else none

/-- What a class that belongs to the pattern language stands for. -/
def builtIn? (flags : Flags) (negated : Bool) (set : CharacterSet) : Option CharacterSet :=
  flags.negate? negated (if flags.unicode then set else set.intersection ⟨[(0, 127)]⟩)

/-- One character of a set. -/
def oneOf (flags : Flags) (set : CharacterSet) : Expression :=
  ofSet set !flags.unicode

/-- What one character of a written pattern stands for. Within ASCII, one that was given as a
byte has to belong to it. -/
def literal? (flags : Flags) (c : Char) (isByte : Bool) : Option Expression :=
  if isByte && !flags.unicode && c.toNat ≥ 128 then none
  else some (flags.oneOf (flags.close (.singleton c)))

/-- What a dot stands for, which always goes beyond ASCII. -/
def dot? (flags : Flags) : Option Expression :=
  if !flags.unicode then none
  else if flags.dotAll then some (flags.oneOf .all)
  else if flags.returnEndsLine then
    some (flags.oneOf (CharacterSet.ofRanges [(10, 10), (13, 13)]).complement)
  else some (flags.oneOf (CharacterSet.singleton '\n').complement)

/-- What the anchor for a start stands for. -/
def startAnchor (flags : Flags) : Expression :=
  anchor <|
    if !flags.multiLine then .textStart
    else if flags.returnEndsLine then .returnLineStart
    else .lineStart

/-- What the anchor for an end stands for. -/
def endAnchor (flags : Flags) : Expression :=
  anchor <|
    if !flags.multiLine then .textEnd
    else if flags.returnEndsLine then .returnLineEnd
    else .lineEnd

end Flags

/-- Reads the flags of a group up to the colon or the parenthesis that ends them, which stay.
Every letter and the minus sign may stand once, and the minus sign not at the end. `seen` are
the characters read so far. -/
def readFlags : (seen : Text) → (value : Bool) → Flags → Text → Option (Flags × Text)
  | _, _, _, [] => none
  | seen, value, flags, c :: rest =>
    if c = ':' ∨ c = ')' then
      if seen.head? = some '-' then none else some (flags, c :: rest)
    else if seen.contains c then none
    else if c = '-' then readFlags (c :: seen) false flags rest
    else do readFlags (c :: seen) value (← flags.set c value) rest

end CfmlNav.Expression
