import CfmlNav.Dialect
import CfmlNav.Variable

/-!
# Components

A component is the class-like content of a file: functions, properties and variables, and
possibly a base component. Functions and properties are kept in the order of their declaration
and found by name without regard to case; of several with one name the first counts.
-/

namespace CfmlNav

/-- A reference to a component by a dotted path. The file it stands for may be known already;
otherwise the path is resolved from the file that holds the reference. -/
structure ComponentRef where
  path : Text
  target : Option FileId
  range : Span
  deriving DecidableEq, Repr

/-- Who may call a function. -/
inductive Access where
  | publicAccess
  | privateAccess
  | packageAccess
  | remoteAccess
  deriving DecidableEq, Repr

namespace Access

/-- The access level that a word names, whatever the case of its ASCII letters. -/
def parse? (value : Text) : Option Access :=
  match String.ofList value.asciiLowercase with
  | "public" => some publicAccess
  | "private" => some privateAccess
  | "package" => some packageAccess
  | "remote" => some remoteAccess
  | _ => none

/-- The word for an access level. -/
def keyword : Access → String
  | publicAccess => "public"
  | privateAccess => "private"
  | packageAccess => "package"
  | remoteAccess => "remote"

end Access

/-- A parameter of a function, with its type if that is a component. -/
structure Parameter where
  name : Text
  nameRange : Span
  type : Option ComponentRef
  deriving DecidableEq, Repr

/-- A function of a component. It may have several parameter lists. -/
structure Function where
  name : Text
  nameRange : Span
  access : Access
  signatures : List (List Parameter)
  body : Option Span
  returns : Option ComponentRef
  deriving DecidableEq, Repr

namespace Function

/-- The parameters of all signatures, in order. -/
def parameters (f : Function) : List Parameter :=
  f.signatures.flatten

/-- Whether a position lies in the body of a function. -/
def bodyContains (f : Function) (position : Position) : Bool :=
  (f.body.map (·.contains position)).getD false

end Function

/-- What a property says about its getter or its setter. -/
inductive AccessorFlag where
  /-- Nothing: the component decides. -/
  | inherit
  | enabled
  | disabled
  deriving DecidableEq, Repr

namespace AccessorFlag

/-- The flag of an attribute that may be absent. -/
def ofAttribute : Option Bool → AccessorFlag
  | none => inherit
  | some true => enabled
  | some false => disabled

/-- The word for a flag. -/
def keyword : AccessorFlag → String
  | inherit => "inherit"
  | enabled => "enabled"
  | disabled => "disabled"

end AccessorFlag

/-- A property of a component, with its type if that is a component. -/
structure Property where
  name : Text
  nameRange : Span
  type : Option ComponentRef
  getter : AccessorFlag
  setter : AccessorFlag
  deriving DecidableEq, Repr

/-- The content of a component file. -/
structure Component where
  file : FileId
  name : Text
  range : Span
  base : Option ComponentRef := none
  /-- The functions with the keys of their names, in the order of declaration. -/
  functions : List (Text × Function) := []
  /-- The properties with the keys of their names, in the order of declaration. -/
  properties : List (Text × Property) := []
  /-- The variables that are assigned in the component. -/
  assigned : List Variable := []
  /-- Whether getters and setters are generated for properties. -/
  accessors : Bool := false
  dialect : Dialect := .script
  deriving DecidableEq, Repr

namespace Component

/-- Adds an entry under a key unless there is one. -/
def addFirst {α : Type} (key : Text) (value : α) (entries : List (Text × α)) : List (Text × α) :=
  if (entries.lookup key).isSome then entries else entries ++ [(key, value)]

/-- The component with one more function; the first function of a name stays. -/
def addFunction (component : Component) (f : Function) : Component :=
  { component with functions := addFirst (Name.key f.name) f component.functions }

/-- The component with one more property; the first property of a name stays. -/
def addProperty (component : Component) (p : Property) : Component :=
  { component with properties := addFirst (Name.key p.name) p component.properties }

/-- The component with one more variable. -/
def addVariable (component : Component) (v : Variable) : Component :=
  { component with assigned := component.assigned ++ [v] }

/-- The function of a name. -/
def function? (component : Component) (name : Text) : Option Function :=
  component.functions.lookup (Name.key name)

/-- The property of a name. -/
def property? (component : Component) (name : Text) : Option Property :=
  component.properties.lookup (Name.key name)

/-- The first function whose body contains a position. -/
def functionAt? (component : Component) (position : Position) : Option Function :=
  (component.functions.map Prod.snd).find? (·.bodyContains position)

/-- The references to components that a component declares: for every function the type it
returns and those of its parameters, then the types of the properties, then the base. -/
def references (component : Component) : List ComponentRef :=
  (component.functions.flatMap fun (_, f) =>
    f.returns.toList ++ f.parameters.filterMap Parameter.type) ++
  component.properties.filterMap (fun (_, p) => p.type) ++
  component.base.toList

end Component

end CfmlNav
