import CfmlNav.Registry

/-!
# Workspaces

The known files, the components of those that have been read, and the directories in which
dotted paths are looked up besides the directory of the referring file.
-/

namespace CfmlNav

/-- The files and components of a project. -/
structure Workspace where
  files : FileSet := {}
  components : List (FileId × Component) := []
  roots : List Path := []
  deriving DecidableEq, Repr

namespace Workspace

/-- The extension of component files. -/
def componentExtension : Text := "cfc".toList

/-- The component of a file, if it has been read. -/
def component? (workspace : Workspace) (file : FileId) : Option Component :=
  workspace.components.lookup file

/-- The workspace with a component in place of any other of its file. -/
def insert (workspace : Workspace) (component : Component) : Workspace :=
  { workspace with
    components := (component.file, component) ::
      workspace.components.filter fun entry => entry.1 != component.file }

/-- The workspace without the component of a file. -/
def invalidate (workspace : Workspace) (file : FileId) : Workspace :=
  { workspace with components := workspace.components.filter fun entry => entry.1 != file }

/-- The number of components that have been read. -/
def size (workspace : Workspace) : Nat :=
  workspace.components.length

/-- The number of a file, which becomes known if it is not. -/
def intern (workspace : Workspace) (path : Path) : FileId × Workspace :=
  let (file, files) := workspace.files.intern path
  (file, { workspace with files })

/-- The relative path of the component file that a dotted path names: its segments that are
not empty, with the extension of component files. -/
def relativePath (path : Text) : Path :=
  let segments := (path.splitOnChar '.').filter fun segment => !segment.isEmpty
  Path.withExtension (segments.foldl Path.join []) componentExtension

/-- The directories in which a dotted path of a file is looked up: its own first, then the
roots. -/
def directories (workspace : Workspace) (referrer : FileId) : List Path :=
  ((workspace.files.path? referrer).bind Path.parent?).toList ++ workspace.roots

/-- The paths that a dotted path of a file can mean, the preferred one first. -/
def candidates (workspace : Workspace) (path : Text) (referrer : FileId) : List Path :=
  (workspace.directories referrer).map fun directory => Path.join directory (relativePath path)

/-- The known file that a dotted path means in a file. A path of dots alone means none. -/
def resolve? (workspace : Workspace) (path : Text) (referrer : FileId) : Option FileId :=
  if path.all (· == '.') then none
  else (workspace.candidates path referrer).findSome? workspace.files.find?

/-- What requests see of a workspace. -/
def registry (workspace : Workspace) : Registry where
  component? := workspace.component?
  resolve? := workspace.resolve?

end Workspace

end CfmlNav
