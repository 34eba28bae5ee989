import CfmlNav.Text.Basic

/-!
# Comments

A comment is a byte range of a document together with its kind. Blanking a document's comments
replaces their characters one for one by spaces and leaves the line ends, so that every
line and column of the result is that of the document.
-/

namespace CfmlNav

/-- The three ways to write a comment. -/
inductive CommentKind where
  /-- From two slashes to the end of the line. -/
  | line
  /-- Between slash-star and star-slash. -/
  | block
  /-- A markup comment with three dashes; such comments nest. -/
  | tag
  deriving DecidableEq, Repr

/-- A comment of a document. -/
structure Comment where
  kind : CommentKind
  range : ByteRange
  deriving DecidableEq, Repr

namespace Comment

/-- Whether a cursor at an offset is inside the comment. A cursor at the end of a line comment
would still write into it; behind a closing delimiter it touches the code that follows. -/
def contains (comment : Comment) (offset : Nat) : Bool :=
  decide (comment.range.start ≤ offset ∧ offset < comment.range.stop) ||
    (comment.kind == .line && offset == comment.range.stop)

/-- Blanks the characters of a text that starts at `offset`. The comments are taken in the
order given: one that ends at or before the current character is dropped for good, and the
first that remains decides. -/
def blankFrom : (offset : Nat) → List Comment → Text → Text
  | _, _, [] => []
  | offset, comments, c :: rest =>
    let ahead := comments.dropWhile fun comment => decide (comment.range.stop ≤ offset)
    let inside := match ahead with
      | [] => false
      | comment :: _ => decide (comment.range.start ≤ offset)
    let kept := if inside && c != '\n' && c != '\r' then ' ' else c
    kept :: blankFrom (offset + c.utf8Size) ahead rest

/-- The text with its comments blanked out. -/
def blank (comments : List Comment) (text : Text) : Text :=
  blankFrom 0 comments text

end Comment

end CfmlNav
