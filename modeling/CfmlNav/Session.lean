import CfmlNav.Definition.Request

/-!
# Sessions

A session keeps a workspace, the files on disk and the way application files are found, and
answers requests one after the other. Of what a request does only this stays: an application
file that it located is a known file from then on.
-/

namespace CfmlNav

/-- Where the application files of a session come from. -/
inductive ApplicationMode where
  /-- There are none. -/
  | absent
  /-- One file for all, if it has a path; without a source it cannot be loaded. -/
  | fixed (path : Option Path) (source : Option ApplicationSource)
  /-- They are searched for on disk, not above a root if there is one. -/
  | onDisk (root : Option Path)
  deriving DecidableEq, Repr

/-- The state of a session. -/
structure Session where
  workspace : Workspace := {}
  tree : FileTree := {}
  mode : ApplicationMode := .absent
  deriving DecidableEq, Repr

namespace Session

/-- The application files of a session. -/
def applicationFiles (session : Session) : ApplicationFiles :=
  match session.mode with
  | .absent => .none
  | .fixed path source => .fixed path source
  | .onDisk root => .onDisk session.tree.fileSystem root

/-- The application file of a file. -/
def locate (session : Session) (file : FileId) : Option FileId × Session :=
  let (located, files) := session.applicationFiles.locate session.workspace.files file
  (located, { session with workspace := { session.workspace with files } })

/-- The source of an application file. -/
def load (session : Session) (file : FileId) : Except Error ApplicationSource :=
  session.applicationFiles.load session.workspace.files file

/-- The context of a position in a document. A dialect that is given makes it a document
without a component; otherwise it belongs to the component that is given, or else to the one
read for its file, and is script if there is none. -/
def context (session : Session) (file : FileId) (dialect : Option Dialect)
    (component : Option Component) (text : Text) (position : Position) : Context :=
  match dialect with
  | some dialect => .ofDocument file dialect text position
  | none =>
    match component.or (session.workspace.component? file) with
    | some component => .ofComponent component text position
    | none => .ofDocument file .script text position

/-- Answers a request. -/
def define (session : Session) (options : Options) (context : Context)
    (cancellation : Cancellation) : Outcome × Session :=
  let lookup : Lookup := ⟨context, session.workspace.registry, options⟩
  let outcome := lookup.run session.applicationFiles session.workspace.files cancellation
  (outcome, { session with workspace := { session.workspace with files := outcome.files } })

end Session

end CfmlNav
