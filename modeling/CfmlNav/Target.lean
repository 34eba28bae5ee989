import CfmlNav.Component

/-!
# Targets

What a cursor leads to: a declaration with its kind, name and location.
-/

namespace CfmlNav

/-- The kind of a declaration; for a variable also its scope. -/
inductive TargetKind where
  | component
  | function
  | parameter
  | property
  | variableOf (scope : Scope)
  deriving DecidableEq, Repr

namespace TargetKind

/-- The word for a kind. -/
def keyword : TargetKind → String
  | component => "component"
  | function => "function"
  | parameter => "argument"
  | property => "property"
  | variableOf _ => "variable"

/-- The scope of a variable. -/
def scope? : TargetKind → Option Scope
  | variableOf scope => some scope
  | _ => none

end TargetKind

/-- A declaration that a cursor leads to. -/
structure Target where
  kind : TargetKind
  name : Text
  location : Location
  deriving DecidableEq, Repr

namespace Target

/-- The declaration of a component. -/
def ofComponent (component : Component) : Target :=
  ⟨.component, component.name, component.file, component.range⟩

/-- The declaration of a function in a file. -/
def ofFunction (file : FileId) (f : Function) : Target :=
  ⟨.function, f.name, file, f.nameRange⟩

/-- The declaration of a parameter in a file. -/
def ofParameter (file : FileId) (p : Parameter) : Target :=
  ⟨.parameter, p.name, file, p.nameRange⟩

/-- The declaration of a property in a file. -/
def ofProperty (file : FileId) (p : Property) : Target :=
  ⟨.property, p.name, file, p.nameRange⟩

/-- A declaration of a variable. -/
def ofVariable (v : Variable) : Target :=
  ⟨.variableOf v.scope, v.identifier, v.declaration⟩

end Target

end CfmlNav
