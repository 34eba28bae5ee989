import CfmlNav.Comment.Basic
import CfmlNav.Text.Ascii
import CfmlNav.Dialect

/-!
# Finding comments

A document is cut into lexemes, each either a comment, a string, the boundary of a script block
or a single character. Every step says how many characters it takes, so the lexemes joined are
the document. In script, strings are taken whole, so that what looks like a comment in a string
is none; in markup there are no strings, only comments, which nest, and the tags that open a
script block.
-/

namespace CfmlNav

/-- The rules that hold at a place of a document. -/
inductive LexMode where
  /-- Script to the end of the document. -/
  | script
  /-- Markup. -/
  | markup
  /-- Script to the closing tag of the block. -/
  | block
  deriving DecidableEq, Repr

/-- The mode that a document starts in. -/
def Dialect.startMode : Dialect → LexMode
  | .script => .script
  | .tag => .markup

/-- What one step of the lexer takes: a comment or not, how many characters, and the mode
behind them. -/
structure LexStep where
  comment : Option CommentKind
  length : Nat
  mode : LexMode
  deriving DecidableEq, Repr

/-- A piece of a document, with its kind if it is a comment. -/
structure Lexeme where
  comment : Option CommentKind
  text : Text
  deriving DecidableEq, Repr

namespace Text

/-- The number of characters of a string literal behind its opening quote, the closing quote
included. A doubled quote stands for the quote itself; a string may run to the end. -/
def stringLength (quote : Char) : Text → Nat
  | [] => 0
  | [_] => 1
  | c :: d :: rest =>
    if c = quote then
      if d = quote then 2 + stringLength quote rest else 1
    else 1 + stringLength quote (d :: rest)

/-- The number of characters of a line comment: up to the line feed or the end, without a
carriage return that stands there. -/
def lineCommentLength (text : Text) : Nat :=
  let line := text.takeWhile (· != '\n')
  if line.getLast? = some '\r' then line.length - 1 else line.length

/-- The number of characters of a block comment behind its opening delimiter, the closing one
included; an open comment runs to the end. -/
def blockCommentLength : Text → Nat
  | [] => 0
  | [_] => 1
  | c :: d :: rest =>
    if c = '*' ∧ d = '/' then 2 else 1 + blockCommentLength (d :: rest)

/-- The delimiter that opens a markup comment. -/
def tagCommentOpen : Text := "<!---".toList

/-- The delimiter that closes a markup comment. -/
def tagCommentClose : Text := "--->".toList

/-- The number of characters of a markup comment at nesting depth `depth`, to the delimiter
that closes the outermost comment, or to the end. The first `skip` characters belong to a
delimiter that has been counted. -/
def tagCommentLength : (skip depth : Nat) → Text → Nat
  | _, _, [] => 0
  | skip + 1, depth, _ :: rest => 1 + tagCommentLength skip depth rest
  | 0, depth, c :: rest =>
    if tagCommentOpen.isPrefixOf (c :: rest) then
      1 + tagCommentLength 4 (depth + 1) rest
    else if tagCommentClose.isPrefixOf (c :: rest) then
      if depth ≤ 1 then 4 else 1 + tagCommentLength 3 (depth - 1) rest
    else 1 + tagCommentLength 0 depth rest

/-- The number of characters up to and with the first `>`, or to the end. -/
def tagLength : Text → Nat
  | [] => 0
  | c :: rest => if c = '>' then 1 else 1 + tagLength rest

/-- The start of the tag that opens a script block. -/
def scriptOpen : Text := "<cfscript".toList

/-- The start of the tag that closes a script block. -/
def scriptClose : Text := "</cfscript".toList

end Text

namespace LexMode

open Text

/-- The step at a character of script. -/
def scriptStep (mode : LexMode) (c : Char) (rest : Text) : LexStep :=
  if c = '"' ∨ c = '\'' then ⟨none, 1 + stringLength c rest, mode⟩
  else if "//".toList.isPrefixOf (c :: rest) then
    ⟨some .line, lineCommentLength (c :: rest), mode⟩
  else if "/*".toList.isPrefixOf (c :: rest) then
    ⟨some .block, 2 + blockCommentLength (rest.drop 1), mode⟩
  else ⟨none, 1, mode⟩

/-- The step at a character of markup. -/
def markupStep (c : Char) (rest : Text) : LexStep :=
  if tagCommentOpen.isPrefixOf (c :: rest) then
    ⟨some .tag, tagCommentLength 0 0 (c :: rest), .markup⟩
  else if startsWithIgnoringCase scriptOpen (c :: rest) then
    ⟨none, tagLength (c :: rest), .block⟩
  else ⟨none, 1, .markup⟩

/-- The step at a character, in the mode that holds there. -/
def step (mode : LexMode) (c : Char) (rest : Text) : LexStep :=
  match mode with
  | script => scriptStep script c rest
  | markup => markupStep c rest
  | block =>
    if startsWithIgnoringCase scriptClose (c :: rest) then
      ⟨none, scriptClose.length, .markup⟩
    else scriptStep block c rest

/-- The lexemes of a text. As every step takes a character, a bound on the length of the text
is a bound on the number of steps. -/
def lexemesWithin : (bound : Nat) → LexMode → Text → List Lexeme
  | 0, _, _ => []
  | _ + 1, _, [] => []
  | bound + 1, mode, c :: rest =>
    let taken := mode.step c rest
    ⟨taken.comment, (c :: rest).take taken.length⟩ ::
      lexemesWithin bound taken.mode ((c :: rest).drop taken.length)

/-- The lexemes of a text that starts in a mode. -/
def lexemes (mode : LexMode) (text : Text) : List Lexeme :=
  lexemesWithin text.length mode text

end LexMode

namespace Comment

/-- The comments among lexemes, the first of which starts at `offset`. -/
def ofLexemes : (offset : Nat) → List Lexeme → List Comment
  | _, [] => []
  | offset, lexeme :: lexemes =>
    let stop := offset + lexeme.text.byteSize
    match lexeme.comment with
    | some kind => ⟨kind, offset, stop⟩ :: ofLexemes stop lexemes
    | none => ofLexemes stop lexemes

/-- The comments of a document, in order. -/
def findAll (dialect : Dialect) (text : Text) : List Comment :=
  ofLexemes 0 (dialect.startMode.lexemes text)

/-- The document with its comments blanked out. -/
def strip (dialect : Dialect) (text : Text) : Text :=
  blank (findAll dialect text) text

end Comment

end CfmlNav
