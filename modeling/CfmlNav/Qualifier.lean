import CfmlNav.Scope
import CfmlNav.Pattern.Match

/-!
# Scope qualifiers before a word

Whether the text before a word ends in a qualifier of one of some scopes, written with a dot or
with a bracket and a quote. The qualifier must not itself be a member, so `foo.variables.` does
not qualify by `variables`. Where a qualifier is optional the word may also stand alone, but not
as a member of something else.
-/

namespace CfmlNav

/-- What may stand before a word: a qualifier of one of some scopes, or nothing as well if the
qualifier is optional. -/
structure Qualifier where
  scopes : List Scope
  isOptional : Bool
  deriving DecidableEq, Repr

namespace Qualifier

open Pattern

/-- One of the scopes has to be named. -/
def required (scopes : List Scope) : Qualifier := ⟨scopes, false⟩

/-- One of the scopes may be named. -/
def optional (scopes : List Scope) : Qualifier := ⟨scopes, true⟩

/-- A keyword with the dot, or the bracket and the quote, that joins it to the word. -/
def written (scopes : List Scope) : Pattern :=
  sequence [boundary, anyWord (scopes.map Scope.word), spaces,
    alt (seq (char '.') spaces) (sequence [char '[', spaces, quote])]

/-- The end of a text that the qualifier asks for. What stands before it, white space apart,
is no dot. -/
def pattern (qualifier : Qualifier) : Pattern :=
  let keyword := written qualifier.scopes
  sequence [
    alt (anchor .textStart) (one fun c => c != '.' && !Character.isSpace c),
    spaces,
    if qualifier.isOptional then Pattern.optional true keyword else keyword,
    anchor .textEnd]

/-- Whether the text before a word is as the qualifier asks. -/
def accepts (qualifier : Qualifier) (before : Text) : Bool :=
  qualifier.pattern.matchesIn before

end Qualifier

end CfmlNav
