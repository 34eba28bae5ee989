import CfmlNav.Position
import CfmlNav.Scope

/-!
# Variables

A variable that is declared or assigned at some location.
-/

namespace CfmlNav

/-- A declaration or assignment of a variable. -/
structure Variable where
  identifier : Text
  scope : Scope
  declaration : Location
  deriving DecidableEq, Repr

namespace Variable

/-- Whether the variable has a name, up to case. -/
def isNamed (v : Variable) (name : Text) : Bool :=
  Name.same v.identifier name

/-- Variables in the order of the places of their declarations. -/
def sort (vs : List Variable) : List Variable :=
  Position.sortBy (·.declaration.range.start) vs

end Variable

end CfmlNav
