import CfmlNav.Name
import CfmlNav.Path
import CfmlNav.Position

/-!
# Known files

Files get numbers in the order in which they become known. Two paths that differ only in case,
or in the direction of slashes, are one file, which keeps the path it was first known by.
-/

namespace CfmlNav

/-- A known file: its key and the path it was first known by. -/
structure FileEntry where
  key : Text
  path : Path
  deriving DecidableEq, Repr

/-- The known files; the number of a file is its place in the list. -/
structure FileSet where
  entries : List FileEntry := []
  deriving DecidableEq, Repr

namespace FileSet

/-- What the spellings of one path have in common. -/
def key (path : Path) : Text :=
  Text.lowercase (path.map fun c => if c = '\\' then '/' else c)

/-- No files. -/
def empty : FileSet := {}

/-- The number of known files. -/
def size (files : FileSet) : Nat :=
  files.entries.length

/-- The file of a path, if it is known. -/
def find? (files : FileSet) (path : Path) : Option FileId :=
  (files.entries.findIdx? fun entry => entry.key == key path).map FileId.mk

/-- The path of a file, if it is known. -/
def path? (files : FileSet) (file : FileId) : Option Path :=
  files.entries[file.index]?.map FileEntry.path

/-- The file of a path, which becomes known if it is not. -/
def intern (files : FileSet) (path : Path) : FileId × FileSet :=
  match files.find? path with
  | some file => (file, files)
  | none => (⟨files.size⟩, ⟨files.entries ++ [⟨key path, path⟩]⟩)

end FileSet

end CfmlNav
