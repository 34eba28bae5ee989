import CfmlNav.Proofs.Comment.Reading

/-!
# Comments of script documents

A script document is written as a list of items, each a piece of code, a string, a line comment
with the line end behind it or a block comment, and possibly an unfinished item at its end. The
items carry what makes them readable, so every document of this form is one that can be written.
Finding the comments of a written document inverts writing it: the comments found are exactly the
comment items, in order, with their kinds and bytes (`findAll_render_script`). What the strings
contain and which items stand side by side does not matter.
-/

namespace CfmlNav

open Text Comment

/-! ### Items -/

/-- A quote that opens and closes strings. -/
inductive Quote where
  | single
  | double
  deriving DecidableEq, Repr

/-- The character of a quote. -/
def Quote.char : Quote → Char
  | single => '\''
  | double => '"'

theorem Quote.char_eq (quote : Quote) : quote.char = '"' ∨ quote.char = '\'' := by
  cases quote with
  | single => exact .inr rfl
  | double => exact .inl rfl

/-- The end of a line inside a document. -/
inductive LineEnd where
  | lineFeed
  | carriageReturn
  deriving DecidableEq, Repr

/-- The characters of the end of a line. -/
def LineEnd.text : LineEnd → Text
  | lineFeed => ['\n']
  | carriageReturn => ['\r', '\n']

/-- A complete piece of script, as it can be read in a mode. -/
inductive ScriptItem (mode : LexMode) where
  /-- Text without strings and comments. -/
  | code (text : Text) (isCode : IsCode mode text)
  /-- A string with any content. -/
  | string (quote : Quote) (content : Text)
  /-- A line comment and the end of its line. -/
  | line (body : Text) (isBody : IsLineBody body) (lineEnd : LineEnd)
  /-- A block comment. -/
  | block (body : Text) (noClose : ¬ ['*', '/'] <:+: body)

namespace ScriptItem

variable {mode : LexMode}

/-- An item as it is written. -/
def render : ScriptItem mode → Text
  | code text _ => text
  | string quote content => quote.char :: (doubled quote.char content ++ [quote.char])
  | line body _ lineEnd => '/' :: '/' :: (body ++ lineEnd.text)
  | block body _ => '/' :: '*' :: (body ++ ['*', '/'])

/-- The comment that an item at a byte offset is. A line comment ends before the end of its
line, a block comment behind its closing delimiter. -/
def comment? (offset : Nat) : ScriptItem mode → Option Comment
  | code _ _ => none
  | string _ _ => none
  | line body _ _ => some ⟨.line, offset, offset + byteSize ('/' :: '/' :: body)⟩
  | block body _ => some ⟨.block, offset, offset + byteSize ('/' :: '*' :: (body ++ ['*', '/']))⟩

/-- Items as they are written, one behind the other. -/
def renderAll (items : List (ScriptItem mode)) : Text :=
  items.flatMap render

/-- The comments among items, the first of which stands at a byte offset. -/
def comments (offset : Nat) : List (ScriptItem mode) → List Comment
  | [] => []
  | item :: items =>
    (item.comment? offset).toList ++ comments (offset + item.render.byteSize) items

/-- The end of a line is code. -/
theorem isCode_lineEnd (lineEnd : LineEnd) : IsCode mode lineEnd.text := by
  cases lineEnd with
  | lineFeed => exact ⟨by decide, by decide, by decide, by decide, by decide, fun _ => by decide⟩
  | carriageReturn => exact ⟨by decide, by decide, by decide, by decide, by decide, fun _ => by decide⟩

theorem endsLine_lineEnd (lineEnd : LineEnd) (rest : Text) : EndsLine (lineEnd.text ++ rest) := by
  cases lineEnd with
  | lineFeed => exact .lineFeed rest
  | carriageReturn => exact .carriageReturn rest

/-- **One item.** Whatever stands behind an item, reading it lists the comment that it is and
goes on behind it. -/
theorem readFrom_render (hmode : mode ≠ .markup) (offset : Nat) (item : ScriptItem mode)
    (rest : Text) :
    readFrom mode offset (item.render ++ rest) =
      (item.comment? offset).toList ++ readFrom mode (offset + item.render.byteSize) rest := by
  cases item with
  | code text isCode => exact readFrom_code hmode offset isCode rest
  | string quote content =>
    simpa [render, comment?] using
      readFrom_string hmode offset quote.char_eq content rest
  | line body isBody lineEnd =>
    have hcomment := readFrom_lineComment hmode offset isBody (endsLine_lineEnd lineEnd rest)
    rw [readFrom_code hmode _ (isCode_lineEnd lineEnd)] at hcomment
    simpa [render, comment?, Nat.add_assoc] using hcomment
  | block body noClose =>
    simpa [render, comment?] using readFrom_blockComment hmode offset noClose rest

/-- **Many items.** Reading a list of items lists their comments and goes on behind them. -/
theorem readFrom_renderAll (hmode : mode ≠ .markup) (offset : Nat)
    (items : List (ScriptItem mode)) (rest : Text) :
    readFrom mode offset (renderAll items ++ rest) =
      comments offset items ++ readFrom mode (offset + (renderAll items).byteSize) rest := by
  induction items generalizing offset with
  | nil => rfl
  | cons item items ih =>
    have hcons : renderAll (item :: items) = item.render ++ renderAll items := rfl
    rw [hcons, List.append_assoc, readFrom_render hmode, ih, comments, byteSize_append,
      List.append_assoc, Nat.add_assoc]

end ScriptItem

/-! ### Documents -/

/-- What may stand at the end of a script document behind its complete items. -/
inductive ScriptEnd where
  /-- Nothing. -/
  | complete
  /-- A string without its closing quote. -/
  | openString (quote : Quote) (content : Text)
  /-- A line comment on the last line. -/
  | lastLine (body : Text) (isBody : IsLineBody body)
  /-- A block comment without its closing delimiter. -/
  | openBlock (body : Text) (noClose : ¬ ['*', '/'] <:+: body)

namespace ScriptEnd

/-- The end of a document as it is written. -/
def render : ScriptEnd → Text
  | complete => []
  | openString quote content => quote.char :: doubled quote.char content
  | lastLine body _ => '/' :: '/' :: body
  | openBlock body _ => '/' :: '*' :: body

/-- The comment that the end of a document is, from a byte offset to the end of the text. -/
def comment? (offset : Nat) : ScriptEnd → Option Comment
  | complete => none
  | openString _ _ => none
  | lastLine body _ => some ⟨.line, offset, offset + byteSize ('/' :: '/' :: body)⟩
  | openBlock body _ => some ⟨.block, offset, offset + byteSize ('/' :: '*' :: body)⟩

theorem readFrom_render (offset : Nat) (ending : ScriptEnd) :
    readFrom .script offset ending.render = (ending.comment? offset).toList := by
  have hmode : LexMode.script ≠ .markup := by decide
  cases ending with
  | complete => rfl
  | openString quote content =>
    exact readFrom_openString hmode offset quote.char_eq content
  | lastLine body isBody =>
    simpa [render, comment?] using readFrom_lineComment hmode offset isBody .textEnd
  | openBlock body noClose => exact readFrom_openBlockComment hmode offset noClose

end ScriptEnd

/-- A document of script: complete items, and possibly an unfinished one behind them. -/
structure ScriptDocument where
  items : List (ScriptItem .script)
  ending : ScriptEnd

namespace ScriptDocument

/-- A document as it is written. -/
def render (document : ScriptDocument) : Text :=
  ScriptItem.renderAll document.items ++ document.ending.render

/-- The comments of a document, with the bytes they take in its text. -/
def comments (document : ScriptDocument) : List Comment :=
  ScriptItem.comments 0 document.items ++
    (document.ending.comment? (ScriptItem.renderAll document.items).byteSize).toList

/-- **Finding comments inverts writing.** The comments that are found in a written script document
are its comment items. -/
theorem findAll_render_script (document : ScriptDocument) :
    Comment.findAll .script document.render = document.comments := by
  have hmode : LexMode.script ≠ .markup := by decide
  calc Comment.findAll .script document.render
      = readFrom .script 0 (ScriptItem.renderAll document.items ++ document.ending.render) := rfl
    _ = ScriptItem.comments 0 document.items ++
          readFrom .script (0 + (ScriptItem.renderAll document.items).byteSize)
            document.ending.render := ScriptItem.readFrom_renderAll hmode 0 _ _
    _ = document.comments := by rw [ScriptEnd.readFrom_render, Nat.zero_add, comments]

/-- Two strings side by side are written like one with a doubled quote. -/
example :
    render ⟨[.string .double "/*".toList, .string .double "it's".toList,
        .line "x".toList ⟨by decide, by decide⟩ .carriageReturn],
      .openBlock "*".toList (by decide)⟩ = "\"/*\"\"it's\"//x\r\n/**".toList := by
  decide

end ScriptDocument

end CfmlNav
