import CfmlNav.Comment.Lexer
import CfmlNav.Text.Position
import CfmlNav.Text.Word
import CfmlNav.Character.Space
import CfmlNav.Component

/-!
# A cursor in a document

What a request knows about the cursor: the document with its comments blanked out, the word at
the cursor, whether the cursor is in a comment, and the component that the document declares.
Blanking keeps lines and columns, so a position means the same place before and after it.
-/

namespace CfmlNav

/-- A document as seen from a cursor. -/
structure Context where
  file : FileId
  /-- The document with its comments blanked out. -/
  text : Text
  position : Position
  /-- The bytes of the word at the cursor in `text`; empty if there is none. -/
  wordBytes : ByteRange
  /-- The span of the word; the empty span at the cursor if there is none. -/
  wordRange : Span
  inComment : Bool
  dialect : Dialect
  component : Option Component
  deriving DecidableEq, Repr

namespace Context

/-- The context of a position in a document. -/
def build (file : FileId) (dialect : Dialect) (component : Option Component) (raw : Text)
    (position : Position) : Context :=
  let comments := Comment.findAll dialect raw
  let rawOffset := raw.offsetAt position
  let text := Comment.blank comments raw
  let offset := text.offsetAt position
  let found := text.wordRangeAt offset
  { file, text, position, dialect, component
    wordBytes := found.getD ⟨offset, offset⟩
    wordRange := (found.map text.spanAt).getD (.empty position)
    inComment := comments.any (·.contains rawOffset) }

/-- The context of a position in a document without a component. -/
def ofDocument (file : FileId) (dialect : Dialect) (raw : Text) (position : Position) : Context :=
  build file dialect none raw position

/-- The context of a position in the document of a component, whose file and dialect it has. -/
def ofComponent (component : Component) (raw : Text) (position : Position) : Context :=
  build component.file component.dialect (some component) raw position

/-- The word at the cursor; empty if there is none. -/
def word (context : Context) : Text :=
  context.text.slice context.wordBytes

/-- The text before the word. -/
def before (context : Context) : Text :=
  context.text.slice ⟨0, context.wordBytes.start⟩

/-- The text behind the word. -/
def behind (context : Context) : Text :=
  context.text.slice ⟨context.wordBytes.stop, context.text.byteSize⟩

/-- Whether the word is called: the next character behind it that is not white space is an
opening parenthesis. -/
def isCall (context : Context) : Bool :=
  (context.behind.dropWhile Character.isSpace).head? == some '('

end Context

end CfmlNav
