import CfmlNav.Definition.Lookup

/-!
# Functions along the inheritance chain

A call leads to the function of that name in the component of the document or in the nearest of
its ancestors that has one and lets it be called so. A private function can be called alone or
through `variables`, any other also through `this`. A call through `super` starts at the base and
asks for nothing more. The walk ends where a file comes up again, at the depth limit, or where
there is no base.
-/

namespace CfmlNav

/-- The scopes through which a function can be called in its own component. -/
def Access.callableScopes : Access → List Scope
  | .privateAccess => [.vars]
  | .publicAccess | .packageAccess | .remoteAccess => [.vars, .this]

namespace Lookup

/-- The first component from `component` upwards with a function of the word that `reachable`
accepts, in at most `depth` steps and without coming back to a file. -/
def inheritedFunction? (lookup : Lookup) (reachable : Function → Bool) :
    (depth : Nat) → (visited : List FileId) → Component → Option (Component × Function)
  | 0, _, _ => none
  | depth + 1, visited, component =>
    if visited.contains component.file then none
    else
      match (component.function? lookup.word).filter reachable with
      | some f => some (component, f)
      | none =>
        match lookup.registry.base? component with
        | none => none
        | some base => lookup.inheritedFunction? reachable depth (component.file :: visited) base

/-- Where the walk starts, and which functions it accepts. -/
def walkStart (lookup : Lookup) (component : Component) : Option Component × (Function → Bool) :=
  if component.base.isSome && lookup.requires [.super] then
    (lookup.registry.base? component, fun _ => true)
  else (some component, fun f => lookup.allows f.access.callableScopes)

/-- The function that a call leads to. -/
def calledFunction (lookup : Lookup) (component : Component) : List Target :=
  if lookup.hasWord && lookup.context.isCall then
    let (start, reachable) := lookup.walkStart component
    let found := start.bind fun start =>
      lookup.inheritedFunction? reachable lookup.options.inheritanceDepth [] start
    (found.map fun (owner, f) => Target.ofFunction owner.file f).toList
  else []

end Lookup

end CfmlNav
