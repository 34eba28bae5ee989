import CfmlNav.Error
import CfmlNav.Path

/-!
# Files and directories

What a program reads of its surroundings is whether a path leads to a file, and the text of the
file. A `FileSystem` is any way to answer these two questions. A `FileTree` answers them from the
files and directories that there are, by their names from the root on, and from the directory
among them in which relative paths start. A path is followed piece by piece, as the system does: a
step up goes to the real parent, and only a directory can be stepped into.
-/

namespace CfmlNav

/-! ### File systems -/

/-- What is asked about files. -/
structure FileSystem where
  /-- Whether a path leads to a file. -/
  isFile : Path → Bool
  /-- The text of the file that a path leads to. -/
  read : Path → Except ReadError Text

/-! ### Trees -/

/-- What names lead to. A file whose bytes are no text has no content to read. -/
inductive FileNode where
  | file (content : Option Text)
  | directory
  deriving DecidableEq, Repr

/-- The files and directories of a system, by their names from the root on, the last name first.
The working directory and those above it are always there; by default it is one in the root. -/
structure FileTree where
  nodes : List (List Text × FileNode) := []
  workingDirectory : List Text := ["session".toList]
  deriving DecidableEq, Repr

/-- What a path leads to: a file, or the directory with some names, the last name first. -/
inductive Found where
  | file (content : Option Text)
  | directory (names : List Text)
  deriving DecidableEq, Repr

namespace FileTree

/-- The most bytes that a name can have. -/
def nameLimit : Nat := 255

/-- The most bytes that a path can have. -/
def pathLimit : Nat := 4095

/-- What stands at some names. -/
def node? (tree : FileTree) (names : List Text) : Option FileNode :=
  if names.isSuffixOf tree.workingDirectory then some .directory else tree.nodes.lookup names

/-- What a name leads to in a directory. -/
def lookup (tree : FileTree) (names : List Text) (name : Text) : Except ReadError Found :=
  if name.byteSize > nameLimit then .error .nameTooLong
  else match tree.node? (name :: names) with
    | none => .error .notFound
    | some (.file content) => .ok (.file content)
    | some .directory => .ok (.directory (name :: names))

/-- Follows one piece of a path. The root is above itself. -/
def follow (tree : FileTree) (found : Found) (piece : Text) : Except ReadError Found :=
  match found with
  | .file _ => .error .notDirectory
  | .directory names =>
    match Path.part? piece with
    | none | some .root | some .here => .ok (.directory names)
    | some .up => .ok (.directory names.tail)
    | some (.name name) => tree.lookup names name

/-- The directory in which a path starts: the root or the working directory. -/
def startOf (tree : FileTree) (path : Path) : List Text :=
  if path.isAbsolute then [] else tree.workingDirectory

/-- What a path leads to. -/
def find (tree : FileTree) (path : Path) : Except ReadError Found :=
  if path.contains '\x00' then .error .nulInName
  else if path.byteSize > pathLimit then .error .nameTooLong
  else if path.isEmpty then .error .notFound
  else (path.splitOnChar '/').foldlM tree.follow (.directory (tree.startOf path))

/-- Whether a path leads to a file. -/
def isFile (tree : FileTree) (path : Path) : Bool :=
  match tree.find path with
  | .ok (.file _) => true
  | _ => false

/-- The text of the file that a path leads to. -/
def read (tree : FileTree) (path : Path) : Except ReadError Text :=
  match tree.find path with
  | .error cause => .error cause
  | .ok (.directory _) => .error .isDirectory
  | .ok (.file none) => .error .notText
  | .ok (.file (some text)) => .ok text

/-- The file system of a tree. -/
def fileSystem (tree : FileTree) : FileSystem where
  isFile := tree.isFile
  read := tree.read

/-! ### Changes -/

/-- The tree with a node in place of any other at its names. -/
def put (tree : FileTree) (names : List Text) (node : FileNode) : FileTree :=
  { tree with nodes := (names, node) :: tree.nodes.filter fun entry => entry.1 != names }

/-- Follows one piece of a path from a directory and makes the directory it leads to if there is
nothing. -/
def make (state : FileTree × List Text) (piece : Text) : FileTree × List Text :=
  let (tree, names) := state
  match Path.part? piece with
  | some .up => (tree, names.tail)
  | some (.name name) =>
    let names := name :: names
    if (tree.node? names).isSome then (tree, names) else (tree.put names .directory, names)
  | _ => (tree, names)

/-- The tree with a directory and all those above it. -/
def makeDirectory (tree : FileTree) (path : Path) : FileTree :=
  ((path.splitOnChar '/').foldl make (tree, tree.startOf path)).1

/-- The directory and the name of what a path leads to. -/
def target? (tree : FileTree) (path : Path) : Option (List Text) := do
  let name ← path.fileName?
  let parent ← path.parent?
  match (parent.splitOnChar '/').foldlM tree.follow (.directory (tree.startOf path)) with
  | .ok (.directory names) => some (name :: names)
  | _ => none

/-- The tree with a file and the directories above it. -/
def write (tree : FileTree) (path : Path) (content : Option Text) : FileTree :=
  let tree := match path.parent? with
    | some parent => tree.makeDirectory parent
    | none => tree
  match tree.target? path with
  | some names => tree.put names (.file content)
  | none => tree

/-- The tree without what a path leads to, and without all that is in it. -/
def remove (tree : FileTree) (path : Path) : FileTree :=
  match tree.target? path with
  | some names =>
    { tree with nodes := tree.nodes.filter fun entry => !names.isSuffixOf entry.1 }
  | none => tree

end FileTree

end CfmlNav
