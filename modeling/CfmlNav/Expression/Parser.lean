import CfmlNav.Character.Letter
import CfmlNav.Expression.CharacterClass
import CfmlNav.Expression.Size

/-!
# Reading written patterns

Users write patterns as text. The reader goes through the text once and keeps the groups that
are still open. It accepts literals, escapes, the dot, classes, groups with and without a name,
flags, alternatives, counted and uncounted repetitions and their lazy forms, and the usual
anchors. It refuses what is malformed, what is nested too deeply or grows too large, and
everything that would look around or back: a pattern only ever describes the text it takes.
-/

namespace CfmlNav.Expression

/-- Something that was read, with its depth: a repetition, a group, and a list of several parts
or alternatives count one level each. A directive that only changes flags is empty, and cannot
be repeated. -/
structure Part where
  expression : Expression
  depth : Nat := 0
  isDirective : Bool := false

/-- The depth of a list of parts. -/
def listDepth (parts : List Part) : Nat :=
  let depth := parts.foldl (fun depth part => max depth part.depth) 0
  if parts.length ≥ 2 then depth + 1 else depth

/-- What has been read of a group, or of the whole pattern: the alternatives that are complete,
and the parts of the current one, each list with the latest first. -/
structure Branches where
  complete : List Part := []
  parts : List Part := []

namespace Branches

/-- The current alternative. -/
def current (branches : Branches) : Part :=
  ⟨sequence (branches.parts.reverse.map Part.expression), listDepth branches.parts, false⟩

/-- All alternatives together. -/
def toPart (branches : Branches) : Part :=
  let alternatives := branches.current :: branches.complete
  ⟨choice (alternatives.reverse.map Part.expression), listDepth alternatives, false⟩

/-- The branches with one more part. -/
def push (branches : Branches) (part : Part) : Branches :=
  { branches with parts := part :: branches.parts }

/-- The branches with a new alternative begun. -/
def alternate (branches : Branches) : Branches :=
  { complete := branches.current :: branches.complete }

end Branches

/-- A group whose closing parenthesis is still to come: its number and name, unless it only
holds parts together, and the flags and branches around it. -/
structure OpenGroup where
  label : Option (Nat × Option Text)
  flags : Flags
  branches : Branches

/-- What the reader keeps: the flags that hold, the branches of the innermost open group, the
open groups from the inside outwards, the number of numbered groups and all names given so
far. -/
structure Reading where
  flags : Flags := {}
  branches : Branches := {}
  groups : List OpenGroup := []
  groupCount : Nat := 0
  names : List Text := []

/-- Whether a character may stand in the name of a group; the first one may be neither a number
nor a sign other than the underscore. -/
def isNameCharacter (first : Bool) (c : Char) : Bool :=
  c == '_' || Character.isLetter c ||
    (!first && (Character.isNumber c || c == '.' || c == '[' || c == ']'))

/-- Reads the name of a group up to the angle bracket that ends it. -/
def readName (text : Text) : Option (Text × Text) :=
  let name := text.takeWhile (· != '>')
  match name, text.drop name.length with
  | c :: rest, '>' :: behind =>
    if isNameCharacter true c && rest.all (isNameCharacter false) then some (name, behind)
    else none
  | _, _ => none

namespace Reading

/-- The reading with one more part. -/
def push (reading : Reading) (expression : Expression) : Reading :=
  { reading with branches := reading.branches.push { expression } }

/-- The reading with a group opened that only holds parts together, in which `flags` hold. -/
def openPlain (reading : Reading) (flags : Flags) : Reading :=
  { reading with
    flags
    branches := {}
    groups := ⟨none, reading.flags, reading.branches⟩ :: reading.groups }

/-- The reading with a numbered group opened. -/
def openNumbered (reading : Reading) (name : Option Text) : Reading :=
  let index := reading.groupCount + 1
  { reading with
    branches := {}
    groups := ⟨some (index, name), reading.flags, reading.branches⟩ :: reading.groups
    groupCount := index
    names := name.toList ++ reading.names }

/-- Opens a group with a name, which has to be new. -/
def openNamed (reading : Reading) (text : Text) : Option (Reading × Text) := do
  let (name, rest) ← readName text
  if reading.names.contains name then none else some (reading.openNumbered (some name), rest)

/-- Reads what stands behind an opening parenthesis: a name, flags or nothing special. Looking
ahead or behind is refused. -/
def readGroup (reading : Reading) (text : Text) : Option (Reading × Text) :=
  match text with
  | '?' :: 'P' :: '<' :: rest => reading.openNamed rest
  | '?' :: '<' :: '=' :: _ => none
  | '?' :: '<' :: '!' :: _ => none
  | '?' :: '<' :: rest => reading.openNamed rest
  | '?' :: rest => do
    match ← readFlags [] true reading.flags rest with
    | (flags, ':' :: behind) => some (reading.openPlain flags, behind)
    | (flags, ')' :: behind) =>
      if rest.head? = some ')' then none
      else
        let directive : Part := { expression := empty, isDirective := true }
        some ({ reading with flags, branches := reading.branches.push directive }, behind)
    | _ => none
  | rest => some (reading.openNumbered none, rest)

/-- Closes the innermost group. -/
def closeGroup (reading : Reading) : Option Reading :=
  match reading.groups with
  | [] => none
  | innermost :: groups =>
    let inner := reading.branches.toPart
    let expression := match innermost.label with
      | none => inner.expression
      | some (index, name) => group index name inner.expression
    let branches := innermost.branches.push { expression, depth := inner.depth + 1 }
    some { reading with flags := innermost.flags, branches, groups }

/-- Repeats the last part. A question mark behind the count asks for few rounds. -/
def readRepetition (reading : Reading) (count : Count) (text : Text) :
    Option (Reading × Text) :=
  let (lazy, rest) := match text with
    | '?' :: rest => (true, rest)
    | _ => (false, text)
  match reading.branches.parts with
  | [] => none
  | part :: parts =>
    if part.isDirective then none
    else
      let expression := repetition count (lazy == reading.flags.swapGreed) part.expression
      let part : Part := { expression, depth := part.depth + 1 }
      some ({ reading with branches := { reading.branches with parts := part :: parts } }, rest)

/-- Reads what starts with the character `c`. -/
def step (reading : Reading) (c : Char) (rest : Text) : Option (Reading × Text) :=
  match c with
  | '(' => reading.readGroup (reading.flags.skip rest)
  | ')' => reading.closeGroup.map (·, rest)
  | '|' => some ({ reading with branches := reading.branches.alternate }, rest)
  | '*' => reading.readRepetition ⟨0, none⟩ rest
  | '+' => reading.readRepetition ⟨1, none⟩ rest
  | '?' => reading.readRepetition ⟨0, some 1⟩ rest
  | '{' => do
    let (count, rest) ← readCount reading.flags rest
    reading.readRepetition count (reading.flags.skip rest)
  | '[' => do
    let (found, rest) ← readClass reading.flags rest
    let part : Part := { expression := reading.flags.oneOf found.set, depth := found.depth }
    return ({ reading with branches := reading.branches.push part }, rest)
  | '\\' => do
    match ← readEscape reading.flags rest with
    | (.literal c isByte, rest) => return (reading.push (← reading.flags.literal? c isByte), rest)
    | (.charClass set, rest) => return (reading.push (reading.flags.oneOf set), rest)
    | (.anchor a, rest) => return (reading.push (anchor a), rest)
  | '.' => reading.flags.dot?.map fun dot => (reading.push dot, rest)
  | '^' => some (reading.push reading.flags.startAnchor, rest)
  | '$' => some (reading.push reading.flags.endAnchor, rest)
  | c => (reading.flags.literal? c false).map fun literal => (reading.push literal, rest)

/-- Reads a text to its end, where no group may be open. Every step takes a character, so the
length of the text is a bound on their number. -/
def finishWithin : (bound : Nat) → Reading → Text → Option Part
  | bound, reading, text =>
    match bound, reading.flags.skip text with
    | _, [] => if reading.groups.isEmpty then some reading.branches.toPart else none
    | 0, _ :: _ => none
    | bound + 1, c :: rest => do
      let (reading, rest) ← reading.step c rest
      reading.finishWithin bound rest

end Reading

/-- The greatest depth that is allowed. -/
def depthLimit : Nat := 250

/-- The expression that a text describes, if it is well formed, not nested too deeply and not
too large. -/
def parse? (text : Text) : Option Expression := do
  let part ← ({} : Reading).finishWithin text.length text
  if part.depth ≤ depthLimit && part.expression.fits then some part.expression else none

end CfmlNav.Expression
