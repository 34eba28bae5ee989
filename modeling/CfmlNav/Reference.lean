import CfmlNav.Error
import CfmlNav.Automaton.Search
import CfmlNav.Expression.Parser
import CfmlNav.Pattern.Match

/-!
# References to components

A document refers to components by dotted paths in many forms: after `new`, in calls that
create objects, in imports, in the clauses of a declaration. Each form is a named pattern that
captures the path. Users can add forms of their own, written as text. The forms of the
language are run as they stand; what users write is run as an automaton, because it may be
nested in such a way that trying one alternative after the other would never end.
-/

namespace CfmlNav

/-- How the occurrences of a form are found. -/
inductive ReferenceForm where
  /-- A form of the language. -/
  | builtIn (pattern : Pattern)
  /-- A form that a user wrote. -/
  | written (automaton : Automaton)

/-- All occurrences of a form in a text, one behind the other. -/
def ReferenceForm.findAll : ReferenceForm → Text → List Match
  | builtIn pattern => pattern.findAll
  | written automaton => automaton.findAll

/-- A form in which a document refers to a component. -/
structure ReferencePattern where
  name : Text
  form : ReferenceForm

/-- A dotted path found in a document. -/
structure Reference where
  /-- The name of the pattern that found it. -/
  pattern : Text
  path : Text
  /-- The last segment of the path. -/
  name : Text
  /-- The byte offset of the last segment. -/
  nameStart : Nat
  deriving DecidableEq, Repr

/-- The byte offset behind the last segment. -/
def Reference.nameStop (reference : Reference) : Nat :=
  reference.nameStart + reference.name.byteSize

namespace ReferencePattern

open Pattern

/-- The name under which a pattern captures the path. -/
def pathGroup : Text := "path".toList

/-- Reads a pattern that a user wrote. It has to capture a path. -/
def compile (name written : Text) : Except Error ReferencePattern :=
  match Expression.parse? written with
  | none => .error (.invalidPattern name)
  | some expression =>
    if expression.groupNames.contains pathGroup then
      .ok ⟨name, .written (.ofExpression expression)⟩
    else .error (.missingPathGroup name)

/-! ### The forms of the language -/

/-- Names with single dots between them, captured. -/
def dottedPath : Pattern :=
  capture pathGroup (seq identifier (star true (seq (char '.') identifier)))

/-- Names and dots in any order, captured. -/
def loosePath : Pattern :=
  capture pathGroup (plus true (one fun c => isNamePart c || c == '.'))

/-- A quote, if there is one. -/
def maybeQuote : Pattern := optional true quote

/-- A path between quotes. -/
def quotedPath : Pattern := sequence [quote, loosePath, quote]

/-- The name of a call with its opening parenthesis. -/
def call (name : String) : Pattern :=
  sequence [boundary, word name.toList, spaces, char '(']

/-- A clause of a declaration, as a word or as an attribute. -/
def clause (name : String) : Pattern :=
  sequence [boundary, word name.toList, spaces, optional true (seq (char '=') spaces),
    maybeQuote, dottedPath]

/-- The patterns of the language itself, with their names. -/
def languageForms : List (String × Pattern) :=
  [("new",
      sequence [boundary, word "new".toList, someSpaces, maybeQuote, dottedPath, maybeQuote, spaces,
        char '(']),
    ("create-object",
      sequence [call "createObject", spaces, quote, word "component".toList, quote, spaces,
        char ',', spaces, quotedPath]),
    ("create-object-short",
      sequence [call "createObject", spaces, quotedPath, spaces, char ')']),
    ("import", sequence [boundary, word "import".toList, someSpaces, maybeQuote, dottedPath]),
    ("extends", clause "extends"),
    ("implements", clause "implements"),
    ("cfinvoke",
      sequence [word "<cfinvoke".toList, boundary, star false (one (· != '>')), boundary,
        word "component".toList, spaces, char '=', spaces, quotedPath]),
    ("is-instance-of",
      sequence [call "isInstanceOf", star true (noneOf [',', ')']), char ',', spaces,
        quotedPath])]

/-- The forms of reference of the language itself. -/
def builtIn : List ReferencePattern :=
  languageForms.map fun (name, pattern) => ⟨name.toList, .builtIn pattern⟩

/-! ### Finding references -/

/-- The reference of a captured path: dots at its end do not count, and a path of dots alone
is none. -/
def reference? (form : ReferencePattern) (text : Text) (captured : ByteRange) :
    Option Reference :=
  let path := (text.slice captured).reverse.dropWhile (· == '.') |>.reverse
  let name := path.reverse.takeWhile (· != '.') |>.reverse
  if name.isEmpty then none
  else
    let parents := path.take (path.length - name.length)
    some ⟨form.name, path, name, captured.start + Text.byteSize parents⟩

/-- The references of one form in a text. -/
def find (form : ReferencePattern) (text : Text) : List Reference :=
  (form.form.findAll text).filterMap fun found =>
    (found.capture? pathGroup).bind (form.reference? text)

/-- The references of all forms in a text, form by form. -/
def findAll (forms : List ReferencePattern) (text : Text) : List Reference :=
  forms.flatMap (·.find text)

end ReferencePattern

end CfmlNav
