import CfmlNav.Definition.Lookup
import CfmlNav.Variable.Assignment

/-!
# Parameters, variables and generated accessors

A parameter is found through `arguments` only. A local variable is found alone or through
`local`, from its declaration on. A variable of the component is found alone or through
`variables`. A getter or setter that is generated for a property is found through `this`, unless
it is switched off or written out as a function.
-/

namespace CfmlNav.Lookup

/-- The parameters and local variables of the function that contains the cursor. -/
def functionVariables (lookup : Lookup) (component : Component) : List Target :=
  let position := lookup.context.position
  if lookup.hasWord then
    match component.functionAt? position with
    | none => []
    | some f =>
      let parameters :=
        if lookup.requires [.arguments] then
          (f.parameters.filter fun p => Name.same p.name lookup.word).map
            (Target.ofParameter component.file)
        else []
      let locals :=
        if lookup.allows [.locals] then
          ((Variable.localsIn lookup.context f.body).filter fun v =>
            decide (v.declaration.range.start ≤ position) && v.isNamed lookup.word).map
              Target.ofVariable
        else []
      parameters ++ locals
  else []

/-- The names of the accessors that can be generated for a property, with their flags. -/
def accessorNames (p : Property) : List (Text × AccessorFlag) :=
  [("get".toList ++ p.name, p.getter), ("set".toList ++ p.name, p.setter)]

/-- Whether an accessor is generated and has the name `word`: its flag does not switch it off,
and no function of its name is written out. -/
def isGenerated (component : Component) (word : Text) (accessor : Text × AccessorFlag) : Bool :=
  accessor.2 != .disabled && (component.function? accessor.1).isNone &&
    Name.same accessor.1 word

/-- The properties whose generated accessor is called. -/
def generatedAccessors (lookup : Lookup) (component : Component) : List Target :=
  if lookup.hasWord && component.accessors && lookup.requires [.this] && lookup.context.isCall then
    component.properties.flatMap fun (_, p) =>
      ((accessorNames p).filter (isGenerated component lookup.word)).map fun _ =>
        Target.ofProperty component.file p
  else []

/-- The assignments of a variable in the component. -/
def componentVariables (lookup : Lookup) (component : Component) : List Target :=
  if lookup.hasWord && lookup.allows [.vars] then
    (component.assigned.filter (·.isNamed lookup.word)).map Target.ofVariable
  else []

end CfmlNav.Lookup
