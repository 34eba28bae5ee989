import CfmlNav.Proofs.Comment.ScriptDocument

/-!
# Comments of markup documents

A markup document is written as a list of items: text without tags, tags, comments, which may
hold further comments, and script blocks with script items in them. The two kinds of rules meet
only at the tags of a script block, which are recognised whatever their case. Finding the comments
of a written document inverts writing it: the comments found are one for each outermost markup
comment, whole, and those of the script items, in order and with their bytes
(`findAll_render_markup`).
-/

namespace CfmlNav

open Text Comment

/-! ### Nested comments -/

/-- What stands in a markup comment: texts and further comments, one behind the other. -/
inductive TagCommentBody where
  | done
  /-- A text without the first characters of the delimiters, and what follows it. -/
  | leaf (content : Text) (noTag : '<' ∉ content) (noDash : '-' ∉ content) (rest : TagCommentBody)
  /-- A comment inside the comment, and what follows it. -/
  | nested (inner rest : TagCommentBody)

/-- The inside of a comment as it is written. -/
def TagCommentBody.render : TagCommentBody → Text
  | done => []
  | leaf content _ _ rest => content ++ rest.render
  | nested inner rest => tagCommentOpen ++ (inner.render ++ (tagCommentClose ++ rest.render))

namespace Text

/-- A delimiter starts with its first character only. -/
theorem not_isPrefixOf_cons {c d : Char} (h : d ≠ c) (delimiter rest : Text) :
    ¬ List.isPrefixOf (d :: delimiter) (c :: rest) := by
  rw [List.isPrefixOf_iff_prefix, List.cons_prefix_cons]
  exact fun hprefix => h hprefix.1

/-- The characters of a delimiter that has been counted are passed over. -/
theorem tagCommentLength_skip (depth : Nat) (delimiter rest : Text) :
    tagCommentLength delimiter.length depth (delimiter ++ rest) =
      delimiter.length + tagCommentLength 0 depth rest := by
  induction delimiter with
  | nil => simp
  | cons c delimiter ih =>
    simp only [List.length_cons, List.cons_append, tagCommentLength, ih]
    omega

/-- An opening delimiter goes one level down. -/
theorem tagCommentLength_open (depth : Nat) (rest : Text) :
    tagCommentLength 0 depth (tagCommentOpen ++ rest) =
      5 + tagCommentLength 0 (depth + 1) rest := by
  have hopen : tagCommentOpen.isPrefixOf ('<' :: ("!---".toList ++ rest)) :=
    List.isPrefixOf_iff_prefix.mpr (List.prefix_append "<!---".toList rest)
  have hskip : tagCommentLength 4 (depth + 1) ("!---".toList ++ rest) =
      4 + tagCommentLength 0 (depth + 1) rest :=
    tagCommentLength_skip (depth + 1) "!---".toList rest
  show tagCommentLength 0 depth ('<' :: ("!---".toList ++ rest)) = _
  rw [tagCommentLength, if_pos hopen, hskip]
  omega

/-- The step at a closing delimiter: at the outermost level it ends the comment. -/
theorem tagCommentLength_close (depth : Nat) (rest : Text) :
    tagCommentLength 0 depth (tagCommentClose ++ rest) =
      if depth ≤ 1 then 4 else 4 + tagCommentLength 0 (depth - 1) rest := by
  have hopen : ¬ tagCommentOpen.isPrefixOf ('-' :: ("-->".toList ++ rest)) :=
    not_isPrefixOf_cons (by decide) "!---".toList _
  have hclose : tagCommentClose.isPrefixOf ('-' :: ("-->".toList ++ rest)) :=
    List.isPrefixOf_iff_prefix.mpr (List.prefix_append "--->".toList rest)
  have hskip : tagCommentLength 3 (depth - 1) ("-->".toList ++ rest) =
      3 + tagCommentLength 0 (depth - 1) rest :=
    tagCommentLength_skip (depth - 1) "-->".toList rest
  show tagCommentLength 0 depth ('-' :: ("-->".toList ++ rest)) = _
  rw [tagCommentLength, if_neg hopen, if_pos hclose, hskip]
  congr 1
  omega

/-- A text without delimiters stays at its level. -/
theorem tagCommentLength_text (depth : Nat) {content : Text} (htag : '<' ∉ content)
    (hdash : '-' ∉ content) (rest : Text) :
    tagCommentLength 0 depth (content ++ rest) =
      content.length + tagCommentLength 0 depth rest := by
  induction content with
  | nil => simp
  | cons c content ih =>
    rw [List.mem_cons, not_or] at htag hdash
    have hopen : ¬ tagCommentOpen.isPrefixOf (c :: (content ++ rest)) :=
      not_isPrefixOf_cons htag.1 "!---".toList _
    have hclose : ¬ tagCommentClose.isPrefixOf (c :: (content ++ rest)) :=
      not_isPrefixOf_cons hdash.1 "-->".toList _
    rw [List.cons_append, tagCommentLength, if_neg hopen, if_neg hclose, ih htag.2 hdash.2,
      List.length_cons]
    omega

/-- The inside of a comment returns to its level, so it does not end the comment. -/
theorem tagCommentLength_render (body : TagCommentBody) (depth : Nat) (rest : Text) :
    tagCommentLength 0 (depth + 1) (body.render ++ rest) =
      body.render.length + tagCommentLength 0 (depth + 1) rest := by
  -- the depth varies, as a comment inside is read one level further down
  induction body generalizing depth rest with
  | done => simp [TagCommentBody.render]
  | leaf content noTag noDash tail ih =>
    rw [TagCommentBody.render, List.append_assoc, tagCommentLength_text _ noTag noDash, ih,
      List.length_append, Nat.add_assoc]
  | nested inner tail ihInner ihTail =>
    have hlength : (TagCommentBody.nested inner tail).render.length =
        5 + (inner.render.length + (4 + tail.render.length)) := by
      rw [TagCommentBody.render, List.length_append, List.length_append, List.length_append]
      rfl
    have hinner : ¬ depth + 1 + 1 ≤ 1 := by omega
    rw [hlength, TagCommentBody.render, List.append_assoc, List.append_assoc, List.append_assoc,
      tagCommentLength_open, ihInner, tagCommentLength_close, if_neg hinner, Nat.add_sub_cancel,
      ihTail]
    omega

/-- A whole comment, up to the delimiter that closes it. -/
theorem tagCommentLength_comment (body : TagCommentBody) (rest : Text) :
    tagCommentLength 0 0 (tagCommentOpen ++ (body.render ++ (tagCommentClose ++ rest))) =
      body.render.length + 9 := by
  rw [tagCommentLength_open, tagCommentLength_render, tagCommentLength_close, if_pos (by decide)]
  omega

end Text

/-! ### Tags -/

/-- What stands between the brackets of a tag that opens neither a comment nor a script block. -/
structure IsTagBody (body : Text) : Prop where
  noTag : '<' ∉ body
  noComment : ¬ tagCommentOpen <+: '<' :: body
  noScript : ¬ scriptOpen <+: asciiLowercase ('<' :: body)

/-- The start of a tag is decided before its closing bracket. -/
theorem prefix_of_prefix_append_bracket {start tag rest : Text} (hstart : '>' ∉ start)
    (h : start <+: tag ++ '>' :: rest) : start <+: tag := by
  rcases List.prefix_or_prefix_of_prefix h (List.prefix_append tag _) with hle | ⟨tail, rfl⟩
  · exact hle
  · rw [List.prefix_append_right_inj] at h
    -- a start that goes on behind the tag has the bracket in it
    rcases tail with _ | ⟨c, tail⟩
    · simp
    · obtain ⟨rfl, -⟩ := List.cons_prefix_cons.mp h
      exact absurd (List.mem_append_right tag List.mem_cons_self) hstart

/-- The number of characters up to a closing bracket. -/
theorem tagLength_append_bracket {tag : Text} (h : '>' ∉ tag) (rest : Text) :
    tagLength (tag ++ '>' :: rest) = tag.length + 1 := by
  induction tag with
  | nil => rfl
  | cons c tag ih =>
    rw [List.mem_cons, not_or] at h
    rw [List.cons_append, tagLength, if_neg (Ne.symm h.1), ih h.2, List.length_cons]
    omega

namespace Comment

/-- Markup without tags is passed over. -/
theorem readFrom_markupText (offset : Nat) {text : Text} (h : '<' ∉ text) (rest : Text) :
    readFrom .markup offset (text ++ rest) = readFrom .markup (offset + text.byteSize) rest := by
  induction text generalizing offset with
  | nil => rfl
  | cons c text ih =>
    rw [List.mem_cons, not_or] at h
    have hcomment : ¬ tagCommentOpen.isPrefixOf (c :: (text ++ rest)) :=
      not_isPrefixOf_cons h.1 "!---".toList _
    have hscript : ¬ startsWithIgnoringCase scriptOpen (c :: (text ++ rest)) :=
      not_startsWithIgnoringCase_tag (Ne.symm h.1) "cfscript".toList _
    have hstep : LexMode.markup.step c (text ++ rest) = ⟨none, 1, .markup⟩ := by
      rw [LexMode.step, LexMode.markupStep, if_neg hcomment, if_neg hscript]
    rw [List.cons_append, readFrom_pass hstep, ih _ h.2, byteSize_cons, Nat.add_assoc]

/-- A tag is passed over. -/
theorem readFrom_tag (offset : Nat) {body : Text} (h : IsTagBody body) (rest : Text) :
    readFrom .markup offset ('<' :: (body ++ ['>']) ++ rest) =
      readFrom .markup (offset + byteSize ('<' :: (body ++ ['>']))) rest := by
  have hcomment : ¬ tagCommentOpen.isPrefixOf ('<' :: (body ++ '>' :: rest)) := by
    rw [List.isPrefixOf_iff_prefix]
    exact fun hopen => h.noComment (prefix_of_prefix_append_bracket (by decide) hopen)
  have hscript : ¬ startsWithIgnoringCase scriptOpen ('<' :: (body ++ '>' :: rest)) := by
    rw [startsWithIgnoringCase_iff, ← List.cons_append, asciiLowercase_append]
    exact fun hopen => h.noScript (prefix_of_prefix_append_bracket (by decide) hopen)
  have hstep : LexMode.markup.step '<' (body ++ '>' :: rest) = ⟨none, 1, .markup⟩ := by
    rw [LexMode.step, LexMode.markupStep, if_neg hcomment, if_neg hscript]
  have hbody : '<' ∉ body ++ ['>'] := by simpa using h.noTag
  have htext : body ++ ['>'] ++ rest = body ++ '>' :: rest := by simp
  rw [List.cons_append, htext, readFrom_pass hstep, ← htext, readFrom_markupText _ hbody,
    byteSize_cons, Nat.add_assoc]

/-- A comment is listed whole, with the comments inside it. -/
theorem readFrom_tagComment (offset : Nat) (body : TagCommentBody) (rest : Text) :
    readFrom .markup offset (tagCommentOpen ++ (body.render ++ tagCommentClose) ++ rest) =
      ⟨.tag, offset, offset + byteSize (tagCommentOpen ++ (body.render ++ tagCommentClose))⟩ ::
        readFrom .markup
          (offset + byteSize (tagCommentOpen ++ (body.render ++ tagCommentClose))) rest := by
  have htext : '<' :: ("!---".toList ++ (body.render ++ tagCommentClose) ++ rest) =
      tagCommentOpen ++ (body.render ++ (tagCommentClose ++ rest)) := by
    rw [List.append_assoc, List.append_assoc]
    rfl
  have hopen : tagCommentOpen.isPrefixOf
      ('<' :: ("!---".toList ++ (body.render ++ tagCommentClose) ++ rest)) := by
    rw [htext]
    exact List.isPrefixOf_iff_prefix.mpr (List.prefix_append _ _)
  have hstep : LexMode.markup.step '<'
      ("!---".toList ++ (body.render ++ tagCommentClose) ++ rest) =
        ⟨some .tag, ("!---".toList ++ (body.render ++ tagCommentClose)).length + 1, .markup⟩ := by
    rw [LexMode.step, LexMode.markupStep, if_pos hopen, htext, tagCommentLength_comment,
      List.length_append, List.length_append]
    congr 1
    show _ = 4 + (body.render.length + 4) + 1
    omega
  exact readFrom_comment hstep

end Comment

/-! ### Script blocks -/

/-- A script block: script items between an opening and a closing tag. -/
structure ScriptBlock where
  /-- The name of the opening tag. -/
  openName : Text
  openName_eq : openName.asciiLowercase = "cfscript".toList
  /-- What stands in the opening tag behind its name. -/
  attributes : Text
  noBracket : '>' ∉ attributes
  items : List (ScriptItem .block)
  /-- The name of the closing tag. -/
  closeName : Text
  closeName_eq : closeName.asciiLowercase = "cfscript".toList

namespace ScriptBlock

variable (block : ScriptBlock)

/-- The opening tag of a block. -/
def openingTag : Text :=
  '<' :: (block.openName ++ block.attributes ++ ['>'])

/-- The closing tag of a block. -/
def closingTag : Text :=
  '<' :: '/' :: (block.closeName ++ ['>'])

/-- A block as it is written. -/
def render : Text :=
  block.openingTag ++ (ScriptItem.renderAll block.items ++ block.closingTag)

/-- Neither a comment delimiter nor the end of a tag is in the name of the opening tag. -/
theorem not_mem_openName : '!' ∉ block.openName ∧ '>' ∉ block.openName := by
  have hmem {c : Char} (h : c ∈ block.openName) : Character.asciiLower c ∈ "cfscript".toList := by
    rw [← block.openName_eq]
    exact List.mem_map_of_mem h
  exact ⟨fun h => absurd (hmem h) (by decide), fun h => absurd (hmem h) (by decide)⟩

/-- The opening tag is taken in one step, to its closing bracket. -/
theorem readFrom_openingTag (offset : Nat) (rest : Text) :
    readFrom .markup offset (block.openingTag ++ rest) =
      readFrom .block (offset + block.openingTag.byteSize) rest := by
  let tag := block.openName ++ block.attributes
  have htext : '<' :: (tag ++ ['>'] ++ rest) = '<' :: tag ++ '>' :: rest := by simp
  have hcomment : ¬ tagCommentOpen.isPrefixOf ('<' :: (tag ++ ['>'] ++ rest)) := by
    rw [List.isPrefixOf_iff_prefix]
    intro hopen
    -- where a comment has its second character, a block has the first of its name
    obtain ⟨c, name, hname⟩ : ∃ c name, block.openName = c :: name := by
      refine List.exists_cons_of_ne_nil fun hnil => ?_
      have hempty := block.openName_eq
      rw [hnil] at hempty
      contradiction
    have hbang : '!' = c := by
      simp only [tag, hname, List.cons_append] at hopen
      exact (List.cons_prefix_cons.mp (List.cons_prefix_cons.mp hopen).2).1
    refine block.not_mem_openName.1 ?_
    rw [hname, hbang]
    exact List.mem_cons_self
  have hscript : startsWithIgnoringCase scriptOpen ('<' :: (tag ++ ['>'] ++ rest)) := by
    rw [startsWithIgnoringCase_iff]
    simp only [tag, asciiLowercase_cons, asciiLowercase_append, block.openName_eq,
      List.append_assoc]
    exact List.prefix_append scriptOpen _
  have hbracket : '>' ∉ '<' :: tag := by
    rw [List.mem_cons, List.mem_append]
    rintro (hstart | hname | hattributes)
    · exact absurd hstart (by decide)
    · exact block.not_mem_openName.2 hname
    · exact block.noBracket hattributes
  have hstep : LexMode.markup.step '<' (tag ++ ['>'] ++ rest) =
      ⟨none, (tag ++ ['>']).length + 1, .block⟩ := by
    rw [LexMode.step, LexMode.markupStep, if_neg hcomment, if_pos hscript, htext,
      tagLength_append_bracket hbracket, List.length_append, List.length_cons]
    rfl
  exact readFrom_skip hstep

/-- The closing tag returns to markup. -/
theorem readFrom_closingTag (offset : Nat) (rest : Text) :
    readFrom .block offset (block.closingTag ++ rest) =
      readFrom .markup (offset + block.closingTag.byteSize) rest := by
  have hclose : startsWithIgnoringCase scriptClose
      ('<' :: ('/' :: block.closeName ++ '>' :: rest)) := by
    rw [startsWithIgnoringCase_iff]
    simp only [asciiLowercase_cons, asciiLowercase_append, block.closeName_eq]
    exact List.prefix_append scriptClose _
  have hstep : LexMode.block.step '<' ('/' :: block.closeName ++ '>' :: rest) =
      ⟨none, ('/' :: block.closeName).length + 1, .markup⟩ := by
    have hlength := congrArg List.length block.closeName_eq
    rw [length_asciiLowercase] at hlength
    rw [LexMode.step, if_pos hclose, List.length_cons, hlength]
    rfl
  have htext : block.closingTag ++ rest = '<' :: ('/' :: block.closeName ++ ('>' :: rest)) := by
    simp [closingTag]
  have hbracket : '<' ∉ ['>'] := by decide
  calc readFrom .block offset (block.closingTag ++ rest)
      = readFrom .markup (offset + byteSize ('<' :: '/' :: block.closeName)) (['>'] ++ rest) := by
        rw [htext, readFrom_skip hstep]
        rfl
    _ = readFrom .markup (offset + block.closingTag.byteSize) rest := by
        rw [readFrom_markupText _ hbracket]
        simp [closingTag, Nat.add_assoc]

/-- Reading a block lists the comments of its script. -/
theorem readFrom_render (offset : Nat) (rest : Text) :
    readFrom .markup offset (block.render ++ rest) =
      ScriptItem.comments (offset + block.openingTag.byteSize) block.items ++
        readFrom .markup (offset + block.render.byteSize) rest := by
  rw [render, List.append_assoc, List.append_assoc, readFrom_openingTag,
    ScriptItem.readFrom_renderAll (by decide), readFrom_closingTag, byteSize_append,
    byteSize_append, Nat.add_assoc, Nat.add_assoc]

end ScriptBlock

/-! ### Documents -/

/-- A piece of a markup document. -/
inductive MarkupItem where
  /-- Text without tags. -/
  | text (content : Text) (noTag : '<' ∉ content)
  /-- A tag that opens neither a comment nor a script block. -/
  | tag (body : Text) (isBody : IsTagBody body)
  /-- A comment, with the comments inside it. -/
  | comment (body : TagCommentBody)
  /-- A script block. -/
  | script (block : ScriptBlock)

namespace MarkupItem

/-- An item as it is written. -/
def render : MarkupItem → Text
  | text content _ => content
  | tag body _ => '<' :: (body ++ ['>'])
  | comment body => tagCommentOpen ++ (body.render ++ tagCommentClose)
  | script block => block.render

/-- The comments of an item at a byte offset: the item itself if it is a comment, and those of
the script in a block. -/
def comments (offset : Nat) : MarkupItem → List Comment
  | text _ _ => []
  | tag _ _ => []
  | comment body => [⟨.tag, offset, offset + (comment body).render.byteSize⟩]
  | script block => ScriptItem.comments (offset + block.openingTag.byteSize) block.items

/-- Items as they are written, one behind the other. -/
def renderAll (items : List MarkupItem) : Text :=
  items.flatMap render

/-- The comments of items, the first of which stands at a byte offset. -/
def allComments (offset : Nat) : List MarkupItem → List Comment
  | [] => []
  | item :: items =>
    item.comments offset ++ allComments (offset + item.render.byteSize) items

/-- **One item.** Whatever stands behind an item, reading it lists its comments and returns to
markup behind it. -/
theorem readFrom_render (offset : Nat) (item : MarkupItem) (rest : Text) :
    readFrom .markup offset (item.render ++ rest) =
      item.comments offset ++ readFrom .markup (offset + item.render.byteSize) rest := by
  cases item with
  | text content noTag => exact readFrom_markupText offset noTag rest
  | tag body isBody => exact readFrom_tag offset isBody rest
  | comment body => exact readFrom_tagComment offset body rest
  | script block => exact block.readFrom_render offset rest

/-- **Many items.** Reading a list of items lists their comments. -/
theorem readFrom_renderAll (offset : Nat) (items : List MarkupItem) :
    readFrom .markup offset (renderAll items) = allComments offset items := by
  induction items generalizing offset with
  | nil => rfl
  | cons item items ih =>
    have hcons : renderAll (item :: items) = item.render ++ renderAll items := rfl
    rw [hcons, readFrom_render, ih, allComments]

/-- **Finding comments inverts writing.** The comments that are found in a written markup document
are its outermost comments and those of its script blocks. -/
theorem findAll_render_markup (items : List MarkupItem) :
    Comment.findAll .tag (renderAll items) = allComments 0 items := by
  rw [findAll_eq_readFrom]
  exact readFrom_renderAll 0 items

/-- A closing tag in a string does not end the block, and a comment inside a comment does not end
the comment around it. -/
example :
    renderAll [.script ⟨"cfScript".toList, by decide, [], by decide,
        [.string .single "</cfscript>".toList, .block "-".toList (by decide)],
        "CFSCRIPT".toList, by decide⟩,
      .comment (.nested (.leaf "x".toList (by decide) (by decide) .done) .done)] =
    "<cfScript>'</cfscript>'/*-*/</CFSCRIPT><!---<!---x--->--->".toList := by
  decide

end MarkupItem

end CfmlNav
