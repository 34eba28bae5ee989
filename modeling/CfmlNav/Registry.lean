import CfmlNav.Component
import CfmlNav.FileSet

/-!
# Looking up components

What a request needs to know about other components: the component of a file, and the file
that a dotted path means in some other file.
-/

namespace CfmlNav

/-- The components that a request can see. -/
structure Registry where
  /-- The component of a file. -/
  component? : FileId → Option Component
  /-- The file that a dotted path means in a file. -/
  resolve? : (path : Text) → (referrer : FileId) → Option FileId

namespace Registry

/-- The component that a reference in a file stands for. -/
def referenced? (registry : Registry) (reference : ComponentRef) (referrer : FileId) :
    Option Component :=
  (reference.target.or (registry.resolve? reference.path referrer)).bind registry.component?

/-- The base of a component. -/
def base? (registry : Registry) (component : Component) : Option Component :=
  component.base.bind fun base => registry.referenced? base component.file

end Registry

end CfmlNav
