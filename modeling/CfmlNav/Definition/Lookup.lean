import CfmlNav.Context
import CfmlNav.Qualifier
import CfmlNav.Registry
import CfmlNav.Settings.Basic
import CfmlNav.Target

/-!
# Lookups

What the search for a definition starts from: the cursor, the components it can see and the
options. Each kind of definition is searched for by its own function on a lookup.
-/

namespace CfmlNav

/-- The input of a search for the definition of the word at a cursor. -/
structure Lookup where
  context : Context
  registry : Registry
  options : Options

namespace Lookup

/-- The word at the cursor. -/
def word (lookup : Lookup) : Text :=
  lookup.context.word

/-- Whether there is a word at the cursor. -/
def hasWord (lookup : Lookup) : Bool :=
  !lookup.word.isEmpty

/-- Whether one of some scopes qualifies the word. -/
def requires (lookup : Lookup) (scopes : List Scope) : Bool :=
  (Qualifier.required scopes).accepts lookup.context.before

/-- Whether one of some scopes qualifies the word, or the word stands alone. -/
def allows (lookup : Lookup) (scopes : List Scope) : Bool :=
  (Qualifier.optional scopes).accepts lookup.context.before

end Lookup

end CfmlNav
