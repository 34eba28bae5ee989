import CfmlNav.Context
import CfmlNav.Pattern.Match

/-!
# Assignments of variables

Variables are found by the forms in which they are declared or assigned: `var name =`,
`var name in`, `local.name =`, `scope.name =`, `scope["name"] =` and, in markup, a parameter
tag. Each form is a pattern that captures the name and, where it is written, the scope. The
patterns are run on the document with its comments blanked out.
-/

namespace CfmlNav.Variable

open Pattern

/-! ### The forms -/

/-- The name under which the identifier is captured. -/
def nameGroup : Text := "name".toList

/-- The name under which the scope is captured. -/
def scopeGroup : Text := "scope".toList

/-- An identifier, captured. -/
def name : Pattern := capture nameGroup Pattern.identifier

/-- The scopes whose assignments are found. -/
def assignedScopes : List Scope :=
  [.application, .vars, .this, .request, .session, .server, .client, .cookie, .form, .url]

/-- The keyword of a scope, captured. -/
def scopeKeyword : Pattern := capture scopeGroup (anyWord (assignedScopes.map Scope.word))

/-- The start of the text, or a character that makes what follows neither a member nor the
rest of a longer identifier. -/
def freshStart : Pattern :=
  alt (anchor .textStart) (one fun c => !(c == '.' || isNamePart c))

/-- An equals sign that is not the first half of a comparison. -/
def equals : Pattern :=
  seq (char '=') (alt (one (· != '=')) (anchor .textEnd))

/-- A dot with white space around it. -/
def dot : Pattern := sequence [spaces, char '.', spaces]

/-- `var name =` and `var name in`. -/
def varDeclaration : Pattern :=
  sequence [boundary, word "var".toList, someSpaces, name, spaces,
    alt equals (seq (word "in".toList) boundary)]

/-- `local.name =`. -/
def localAssignment : Pattern :=
  sequence [freshStart, word "local".toList, dot, name, spaces, equals]

/-- `scope.name =`. -/
def scopedAssignment : Pattern :=
  sequence [freshStart, scopeKeyword, dot, name, spaces, equals]

/-- `scope["name"] =`. -/
def bracketAssignment : Pattern :=
  sequence [freshStart, scopeKeyword, spaces, char '[', spaces, quote, name, quote, spaces,
    char ']', spaces, equals]

/-- `<cfparam name="scope.name"`, where the scope may be missing. -/
def paramTag : Pattern :=
  sequence [word "<cfparam".toList, someSpaces, word "name".toList, spaces, char '=', spaces,
    quote, optional true (seq scopeKeyword (char '.')), name, quote]

/-! ### Collecting -/

/-- The variables that a form finds in `part`, which stands at the byte offset `base` of
`text`. Where the form captures no scope it is `scope`. -/
def collect (file : FileId) (text : Text) (base : Nat) (part : Text) (form : Pattern)
    (scope : Scope) : List Variable :=
  (form.findAll part).filterMap fun found =>
    (found.capture? nameGroup).map fun name =>
      { identifier := part.slice name
        scope := ((found.capture? scopeGroup).map fun keyword => .parse (part.slice keyword)).getD
          scope
        declaration := ⟨file, text.spanAt ⟨base + name.start, base + name.stop⟩⟩ }

/-- The variables with a scope that a document assigns, in the order of their places. -/
def assignedIn (file : FileId) (dialect : Dialect) (raw : Text) : List Variable :=
  let text := Comment.strip dialect raw
  let found := collect file text 0 text
  sort (found scopedAssignment .unknown ++ found bracketAssignment .unknown ++
    if dialect.isScript then [] else found paramTag .vars)

/-- The bytes of a document between the ends of a span; none if they are not in order. -/
def bodyBytes (text : Text) (body : Span) : ByteRange :=
  let start := text.offsetAt body.start
  ⟨start, max (text.offsetAt body.stop) start⟩

/-- The local variables that are declared in the body of a function, in the order of their
places. A function without a body has none. -/
def localsIn (context : Context) (body : Option Span) : List Variable :=
  match body with
  | none => []
  | some body =>
    let range := bodyBytes context.text body
    let part := context.text.slice range
    let found := collect context.file context.text range.start part
    sort (found varDeclaration .locals ++ found localAssignment .locals)

end CfmlNav.Variable
