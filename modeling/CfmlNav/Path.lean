import CfmlNav.Text.Basic

/-!
# File paths

Paths are texts with `/` between their pieces. They are compared by their parts: the root, a
leading dot, steps up and names; empty pieces and other dots do not count. Cutting off the last
part keeps the rest as it was written.
-/

namespace CfmlNav

/-- A path to a file, as written. -/
abbrev Path := Text

/-- A part of a path that counts. -/
inductive PathPart where
  /-- The slash at the start. -/
  | root
  /-- A dot at the start. -/
  | here
  /-- Two dots. -/
  | up
  /-- A name. -/
  | name (name : Text)
  deriving DecidableEq, Repr

namespace Text

/-- The pieces of a text between the places of a character; one more than there are places. -/
def splitOnChar (separator : Char) : Text → List Text
  | [] => [[]]
  | c :: rest =>
    if c = separator then [] :: splitOnChar separator rest
    else match splitOnChar separator rest with
      | [] => [[c]]
      | piece :: pieces => (c :: piece) :: pieces

/-- The pieces of a text joined by a character. -/
def joinWithChar (separator : Char) : List Text → Text
  | [] => []
  | [piece] => piece
  | piece :: next :: pieces => piece ++ separator :: joinWithChar separator (next :: pieces)

end Text

namespace Path

/-- Whether a path starts at the root. -/
def isAbsolute (path : Path) : Bool :=
  path.head? == some '/'

/-- Whether a piece of a path does not count: nothing, or one dot. -/
def isBlank (piece : Text) : Bool :=
  piece.isEmpty || piece == ['.']

/-- The first character of a path and the rest, if it is the slash of the root or a dot that
is a piece of its own. -/
def splitLead (path : Path) : Text × Text :=
  match path with
  | '/' :: body => (['/'], body)
  | ['.'] => (['.'], [])
  | '.' :: '/' :: body => (['.'], '/' :: body)
  | body => ([], body)

/-- The pieces behind the lead of a path, those that do not count included. -/
def pieces (path : Path) : List Text :=
  path.splitLead.2.splitOnChar '/'

/-- The part that a piece stands for, if it counts. -/
def part? (piece : Text) : Option PathPart :=
  if isBlank piece then none
  else if piece = ['.', '.'] then some .up
  else some (.name piece)

/-- The parts of a path. -/
def parts (path : Path) : List PathPart :=
  (match path.splitLead.1 with
    | '/' :: _ => [.root]
    | '.' :: _ => [.here]
    | _ => []) ++ path.pieces.filterMap part?

/-- Whether a path lies at or under another one. -/
def isUnder (path root : Path) : Bool :=
  root.parts.isPrefixOf path.parts

/-- Whether two paths have the same parts. -/
def sameParts (path other : Path) : Bool :=
  path.parts == other.parts

/-- The pieces without those at the end that do not count. -/
def trimBlank (pieces : List Text) : List Text :=
  (pieces.reverse.dropWhile isBlank).reverse

/-- The path without its last part. The root and the empty path have none to cut off. -/
def parent? (path : Path) : Option Path :=
  let (lead, _) := path.splitLead
  match (trimBlank path.pieces).reverse with
  | _ :: before => some (lead ++ Text.joinWithChar '/' (trimBlank before.reverse))
  | [] => if lead = ['.'] then some [] else none

/-- The proper ancestors of a path, the nearest first; at most `bound` of them. -/
def ancestorsWithin : (bound : Nat) → Path → List Path
  | 0, _ => []
  | bound + 1, path =>
    match path.parent? with
    | none => []
    | some parent => parent :: ancestorsWithin bound parent

/-- The proper ancestors of a path, the nearest first. Every one is shorter than the one before
it, so the length of the path is a bound on their number. -/
def ancestors (path : Path) : List Path :=
  ancestorsWithin path.length path

/-- The last part of a path, if it is a name. -/
def fileName? (path : Path) : Option Text :=
  match path.parts.getLast? with
  | some (.name name) => some name
  | _ => none

/-- A name cut at its last dot, if there is one with something before it. -/
def splitExtension (name : Text) : Text × Option Text :=
  let extension := name.reverse.takeWhile (· != '.') |>.reverse
  let stem := name.take (name.length - extension.length - 1)
  if extension.length = name.length ∨ stem = [] then (name, none) else (stem, some extension)

/-- The part of the last name behind its last dot. -/
def extension? (path : Path) : Option Text :=
  path.fileName?.bind fun name => (splitExtension name).2

/-- The path with another extension; a path without a name stays as it is. What follows the
name is cut off. -/
def withExtension (path : Path) (extension : Text) : Path :=
  match path.fileName? with
  | none => path
  | some name =>
    let (lead, _) := path.splitLead
    let before := (trimBlank path.pieces).dropLast
    lead ++ Text.joinWithChar '/' (before ++ [(splitExtension name).1]) ++ '.' :: extension

/-- A path continued by another one. An absolute path starts anew. -/
def join (path other : Path) : Path :=
  if other.isAbsolute then other
  else if path.isEmpty || path.getLast? == some '/' then path ++ other
  else path ++ '/' :: other

end Path

end CfmlNav
