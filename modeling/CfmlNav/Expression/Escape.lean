import CfmlNav.Expression.Flags
import CfmlNav.Expression.Property

/-!
# Numbers and escapes of written patterns

The small parts of the written form of a pattern. Every reader takes a text and gives what it
read with the text behind it, or nothing if the text is not of its form.
-/

namespace CfmlNav.Expression

/-! ### Numbers -/

/-- The value of hexadecimal digits, of which there is at least one. -/
def hexValue? (digits : Text) : Option Nat :=
  if digits.isEmpty then none
  else digits.foldlM (fun value c => (Character.hexDigit? c).map (value * 16 + ·)) 0

/-- The character with a code point, if there is one. -/
def codeChar? (code : Nat) : Option Char :=
  if code.isValidChar then some (Char.ofNat code) else none

/-- Whether `c` is a decimal digit of the written form of numbers. -/
def isDecimalDigit (c : Char) : Bool :=
  decide ('0' ≤ c ∧ c ≤ '9')

/-- Reads a decimal number below `2 ^ 32` with white space around it. Without digits there is
no number, which the count of a repetition takes note of. -/
def readDecimal (flags : Flags) (text : Text) : Option Nat × Text :=
  let text := text.dropWhile Character.isSpace
  let (digits, behind) := flags.takeWhile isDecimalDigit text.length text
  let value := digits.foldl (fun value c => value * 10 + (c.toNat - '0'.toNat)) 0
  (if digits.isEmpty || value ≥ 0x100000000 then none else some value,
    behind.dropWhile Character.isSpace)

/-- Reads a count behind its opening brace. -/
def readCount (flags : Flags) (text : Text) : Option (Count × Text) := do
  let (low?, behind) := readDecimal flags (flags.skip text)
  let low ← low?
  match behind with
  | '}' :: rest => some (⟨low, some low⟩, rest)
  | ',' :: rest =>
    match flags.skip rest with
    | '}' :: rest => some (⟨low, none⟩, rest)
    | rest =>
      let (high?, behind) := readDecimal flags rest
      let high ← high?
      match behind with
      | '}' :: rest => if low ≤ high then some (⟨low, some high⟩, rest) else none
      | _ => none
  | _ => none

/-! ### Escapes -/

/-- What a backslash with the characters behind it stands for. -/
inductive Escape where
  /-- One character, which may have been given as a byte. -/
  | literal (c : Char) (isByte : Bool)
  /-- One character of a set. -/
  | charClass (set : CharacterSet)
  /-- A condition on the place. -/
  | anchor (anchor : Anchor)

/-- Whether a backslash takes the special meaning from `c`: any ASCII character that is
neither a letter nor a digit, the angle brackets apart. -/
def isEscapable (c : Char) : Bool :=
  c.toNat < 128 && !c.isAlphanum && c != '<' && c != '>'

/-- Reads a character given by its code point behind the letter of its escape: digits in braces,
or exactly `width` digits. Two digits without braces are a byte. -/
def readHex (flags : Flags) (width : Nat) (text : Text) : Option (Escape × Text) := do
  match flags.skip text with
  | '{' :: rest =>
    match flags.takeWhile (· != '}') rest.length (flags.skip rest) with
    | (digits, '}' :: behind) =>
      return (.literal (← codeChar? (← hexValue? digits)) false, flags.skip behind)
    | _ => none
  | text =>
    let (digits, behind) ← flags.take? width text
    return (.literal (← codeChar? (← hexValue? digits)) (width == 2), behind)

/-- Reads the name of a property behind the letter of its escape: a single character, or
several in braces. -/
def readProperty (flags : Flags) (negated : Bool) (text : Text) : Option (Escape × Text) := do
  let (name, behind) ← match flags.skip text with
    | '{' :: rest =>
      match flags.takeWhile (· != '}') rest.length (flags.skip rest) with
      | (name, '}' :: behind) => some (name, behind)
      | _ => none
    | c :: rest => if c = '\\' then none else some ([c], rest)
    | [] => none
  let (set, others) ← propertySet? name
  if flags.unicode then
    return (.charClass (← flags.negate? (negated != others) (flags.close set)), behind)
  else none

/-- The kinds of word boundary with a name. -/
def namedBoundary? (name : String) : Option WordEdge :=
  match name with
  | "start" => some .start
  | "end" => some .stop
  | "start-half" => some .noneBefore
  | "end-half" => some .noneBehind
  | _ => none

/-- Reads a word boundary behind its letter. A name in braces asks for a kind of boundary; a
brace without a letter behind it starts the count of a repetition and stays. -/
def readBoundary (flags : Flags) (text : Text) : Option (WordEdge × Text) :=
  let isNamePart (c : Char) : Bool := c.isAlpha || c == '-'
  match text with
  | '{' :: rest =>
    match flags.skip rest with
    | [] => none
    | c :: rest =>
      if isNamePart c then
        match flags.takeWhile isNamePart (rest.length + 1) (c :: rest) with
        | (name, '}' :: behind) => (namedBoundary? (String.ofList name)).map (·, behind)
        | _ => none
      else some (.boundary, text)
  | _ => some (.boundary, text)

/-- Reads an escape behind its backslash. -/
def readEscape (flags : Flags) : Text → Option (Escape × Text)
  | [] => none
  | c :: rest =>
    let literal (c : Char) : Option (Escape × Text) := some (.literal c false, rest)
    let builtIn (negated : Bool) (set : CharacterSet) : Option (Escape × Text) :=
      (flags.builtIn? negated set).map fun set => (.charClass set, rest)
    let edge (edge : WordEdge) : Escape := .anchor (.word edge !flags.unicode)
    match c with
    | 'd' => builtIn false .digits
    | 'D' => builtIn true .digits
    | 's' => builtIn false .spaces
    | 'S' => builtIn true .spaces
    | 'w' => builtIn false .wordCharacters
    | 'W' => builtIn true .wordCharacters
    | 'a' => literal '\x07'
    | 'f' => literal '\x0c'
    | 'n' => literal '\n'
    | 'r' => literal '\r'
    | 't' => literal '\t'
    | 'v' => literal '\x0b'
    | 'x' => readHex flags 2 rest
    | 'u' => readHex flags 4 rest
    | 'U' => readHex flags 8 rest
    | 'p' => readProperty flags false rest
    | 'P' => readProperty flags true rest
    | 'A' => some (.anchor .textStart, rest)
    | 'z' => some (.anchor .textEnd, rest)
    | 'b' => (readBoundary flags rest).map fun (kind, behind) => (edge kind, behind)
    | 'B' => some (edge .notBoundary, rest)
    | '<' => some (edge .start, rest)
    | '>' => some (edge .stop, rest)
    | c => if isEscapable c then literal c else none

end CfmlNav.Expression
