import CfmlNav.Definition.Lookup

/-!
# Components that the document refers to

A cursor on the last segment of a dotted path leads to the component of that path. A cursor on
a type of a declaration, or on the base, leads to that component.
-/

namespace CfmlNav.Lookup

/-- Whether the cursor is on the last segment of a dotted path. -/
def isOn (lookup : Lookup) (reference : Reference) : Bool :=
  (lookup.context.text.spanAt ⟨reference.nameStart, reference.nameStop⟩).contains
    lookup.context.position

/-- The component that a dotted path of the document stands for. -/
def componentOf? (lookup : Lookup) (reference : Reference) : Option Component :=
  (lookup.registry.resolve? reference.path lookup.context.file).bind lookup.registry.component?

/-- The components of the dotted paths whose last segment contains the cursor. -/
def referenced (lookup : Lookup) : List Target :=
  let references := ReferencePattern.findAll lookup.options.references lookup.context.text
  (references.filter lookup.isOn).filterMap fun reference =>
    (lookup.componentOf? reference).map Target.ofComponent

/-- The components of the declared references that contain the cursor. -/
def declaredTypes (lookup : Lookup) (component : Component) : List Target :=
  let here := component.references.filter (·.range.contains lookup.context.position)
  here.filterMap fun reference =>
    (lookup.registry.referenced? reference component.file).map Target.ofComponent

end CfmlNav.Lookup
