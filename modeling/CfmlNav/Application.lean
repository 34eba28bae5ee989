import CfmlNav.Dialect
import CfmlNav.FileSet
import CfmlNav.FileTree
import CfmlNav.Workspace

/-!
# Application files

An application keeps its variables in a settings file in one of the directories above its
files. `ApplicationFiles` says how such a file is located and loaded; to locate one may make a
new file known. The search on disk takes the nearest directory with an application file and,
if there is a root, does not go above it.
-/

namespace CfmlNav

/-- The text of an application file with its dialect. -/
structure ApplicationSource where
  text : Text
  dialect : Dialect
  deriving DecidableEq, Repr

/-- The source of a file. A component file is script unless it holds a component tag, and
every other file is markup. -/
def ApplicationSource.ofFile (path : Path) (text : Text) : ApplicationSource :=
  let isComponent := (path.extension?.map (·.asciiLowercase)) == some Workspace.componentExtension
  let isScript := isComponent && !Text.containsIgnoringCase "<cfcomponent".toList text
  ⟨text, .ofScript isScript⟩

/-- How application files are located and loaded, given the known files. -/
structure ApplicationFiles where
  /-- The application file of a file, and the known files after the search. -/
  locate : FileSet → FileId → Option FileId × FileSet
  /-- The source of an application file. -/
  load : FileSet → FileId → Except Error ApplicationSource

namespace ApplicationFiles

/-- No application files at all. -/
def none : ApplicationFiles where
  locate files _ := (.none, files)
  load _ file := .error (.unknownFile file)

/-- One application file for all files, if it has a path. Without a source, loading fails. -/
def fixed (path : Option Path) (source : Option ApplicationSource) : ApplicationFiles where
  locate files _ :=
    match path with
    | .none => (.none, files)
    | some path => let (file, files) := files.intern path; (some file, files)
  load _ file :=
    match source with
    | .none => .error (.unknownFile file)
    | some source => .ok source

/-- The names of application files, the preferred one first. -/
def names : List Text :=
  ["Application.cfc".toList, "application.cfc".toList, "Application.cfm".toList,
    "application.cfm".toList]

/-- The directories of a list up to and with the root, or all if the root is not among
them. -/
def upTo (root : Option Path) : List Path → List Path
  | [] => []
  | directory :: rest =>
    if (root.map directory.sameParts).getD false then [directory]
    else directory :: upTo root rest

/-- The first application file in one of some directories. -/
def findIn (disk : FileSystem) (directories : List Path) : Option Path :=
  (directories.flatMap fun directory => names.map directory.join).find? disk.isFile

/-- The path of the application file of a path. A path that is not under the root has none. -/
def findAbove (disk : FileSystem) (root : Option Path) (path : Path) : Option Path :=
  if (root.map path.isUnder).getD true then findIn disk (upTo root path.ancestors) else .none

/-- The application files on disk, not searched for above the root. -/
def onDisk (disk : FileSystem) (root : Option Path) : ApplicationFiles where
  locate files file :=
    match (files.path? file).bind (findAbove disk root) with
    | .none => (.none, files)
    | some path => let (file, files) := files.intern path; (some file, files)
  load files file :=
    match files.path? file with
    | .none => .error (.unknownFile file)
    | some path =>
      match disk.read path with
      | .error cause => .error (.unreadable path cause)
      | .ok text => .ok (.ofFile path text)

end ApplicationFiles

end CfmlNav
