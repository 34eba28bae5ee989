import CfmlNav.Application
import CfmlNav.Definition.Functions
import CfmlNav.Definition.References
import CfmlNav.Definition.Variables

/-!
# Definition requests

A request first searches the document and then, for a word that `application` qualifies, the
application file. It can be cancelled at any moment, and a cancelled request has no targets at
all, not even those it had found. In a comment there is nothing to search for. The outcome
records which calls were made to locate and load the application file.
-/

namespace CfmlNav

/-- When a request is cancelled, if it is. -/
inductive Cancellation where
  | never
  /-- Before the request starts. -/
  | atStart
  /-- While the application file is located. -/
  | inLocate
  /-- While the application file is loaded; the load may still complete or never do. -/
  | inLoad (completes : Bool)
  deriving DecidableEq, Repr

/-- A call to the application files. -/
inductive ApplicationCall where
  | locate (file : FileId)
  | load (file : FileId)
  deriving DecidableEq, Repr

/-- A call as it is shown to people. -/
def ApplicationCall.label : ApplicationCall → String
  | locate file => "locate " ++ file.label
  | load file => "load " ++ file.label

/-- The answer to a request. -/
structure Answer where
  inComment : Bool
  targets : List Target
  deriving DecidableEq, Repr

namespace Answer

/-- The answer of a request without result. -/
def empty : Answer := ⟨false, []⟩

/-- The answer to a cursor in a comment. -/
def comment : Answer := ⟨true, []⟩

/-- The answer with some targets. -/
def found (targets : List Target) : Answer := ⟨false, targets⟩

end Answer

/-- What a request comes to: its answer, the calls it made and the known files behind it. -/
structure Outcome where
  answer : Answer
  calls : List ApplicationCall
  files : FileSet
  deriving DecidableEq, Repr

namespace Lookup

/-- The targets in the document itself and in the components it can see. -/
def documentTargets (lookup : Lookup) : List Target :=
  lookup.referenced ++
    match lookup.context.component with
    | none => []
    | some component =>
      lookup.calledFunction component ++ lookup.declaredTypes component ++
        lookup.functionVariables component ++ lookup.generatedAccessors component ++
        lookup.componentVariables component

/-- Whether the application file is searched. -/
def wantsApplication (lookup : Lookup) : Bool :=
  lookup.options.applicationScope && lookup.hasWord && lookup.requires [.application]

/-- The application variables of the word in the source of an application file. -/
def applicationTargets (lookup : Lookup) (file : FileId) (source : ApplicationSource) :
    List Target :=
  ((Variable.assignedIn file source.dialect source.text).filter fun v =>
    v.scope == .application && v.isNamed lookup.word).map Target.ofVariable

/-- Searches the application file behind the targets of the document. -/
def runApplication (lookup : Lookup) (application : ApplicationFiles) (files : FileSet)
    (cancellation : Cancellation) (targets : List Target) : Outcome :=
  let file := lookup.context.file
  let (located, files) := application.locate files file
  if cancellation = .inLocate then ⟨.empty, [.locate file], files⟩
  else match located with
    | none => ⟨.found targets, [.locate file], files⟩
    | some applicationFile =>
      let calls := [.locate file, .load applicationFile]
      match cancellation with
      | .inLoad _ => ⟨.empty, calls, files⟩
      | _ =>
        match application.load files applicationFile with
        | .error _ => ⟨.found targets, calls, files⟩
        | .ok source =>
          ⟨.found (targets ++ lookup.applicationTargets applicationFile source), calls, files⟩

/-- Runs a request. -/
def run (lookup : Lookup) (application : ApplicationFiles) (files : FileSet)
    (cancellation : Cancellation) : Outcome :=
  if lookup.context.inComment then ⟨.comment, [], files⟩
  else if cancellation = .atStart then ⟨.empty, [], files⟩
  else
    let targets := lookup.documentTargets
    if lookup.wantsApplication then lookup.runApplication application files cancellation targets
    else ⟨.found targets, [], files⟩

end Lookup

end CfmlNav
