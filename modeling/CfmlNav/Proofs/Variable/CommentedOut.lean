import CfmlNav.Application
import CfmlNav.Proofs.Comment.Extent
import CfmlNav.Proofs.Variable.Neighbour
import CfmlNav.Proofs.Variable.Source

/-!
# Assignments that are commented out

Which comments a document has depends on its dialect, and the dialect of an application file is
guessed: a component file that holds the start of a component tag, wherever it stands, is taken for
markup. In markup the comments of script are code. So where a script mentions the tag, be it in a
string or in a comment, what is commented out in it declares variables all the same
(`exists_withinComment_of_assignment`), and where it does not, no comment holds the declaration of a
variable (`isWrittenIn_of_mem_assignedIn`). `assignedIn_ofFile_comments` states the two together.

The first fact rests on two others. Blanking the comments of one dialect leaves a comment of the
other as it is, if none of them reaches into it (`Comment.exists_parts_of_strip`), so an assignment
in it is still there (`Assignment.exists_moved`). It is found unless another one that touches it is,
and as the delimiter of the comment cannot be a part of an assignment, that one stands in the comment
too (`Assignment.Touches.exists_before`).
-/

namespace CfmlNav

open Text Pattern Character

namespace Comment

variable {dialect : Dialect} {raw lead part rest : Text}

/-- Blanking leaves a part of a document that is apart from all comments. Behind it there is the
character that follows it, or one that is shown for a comment. -/
theorem exists_parts_of_strip (htext : raw = lead ++ (part ++ rest))
    (hapart : ∀ comment ∈ findAll dialect raw,
      comment.range.stop ≤ lead.byteSize ∨ byteSize (lead ++ part) ≤ comment.range.start) :
    ∃ lead' rest', strip dialect raw = lead' ++ (part ++ rest') ∧ lead'.length = lead.length ∧
      ∀ c ∈ rest'.head?, c ∈ rest.head? ∨ c = ' ' ∨ c = '\n' ∨ c = '\r' := by
  let inside := covered (findAll dialect raw)
  have hpart : paint inside lead.byteSize part = part := by
    have hfree : paint inside lead.byteSize part = paint (fun _ => false) lead.byteSize part := by
      refine paint_congr fun place hlow hhigh => ?_
      rw [Bool.eq_false_iff, Ne, covered_iff]
      rintro ⟨comment, hcomment, hstart, hstop⟩
      have hout := hapart comment hcomment
      rw [byteSize_append] at hout
      omega
    rw [hfree, paint_false]
  refine ⟨paint inside 0 lead, paint inside (lead.byteSize + part.byteSize) rest, ?_,
    length_paint 0 lead, ?_⟩
  · rw [strip_eq_paint]
    change paint inside 0 raw = _
    rw [htext, paint_append, paint_append, Nat.zero_add, hpart]
  · intro c hc
    rcases rest with _ | ⟨d, rest⟩
    · simp [paint] at hc
    · obtain rfl : (if inside (lead.byteSize + part.byteSize) then blankChar d else d) = c := by
        simpa [paint] using hc
      split
      next => exact .inr (blankChar_cases d)
      next => exact .inl rfl

end Comment

namespace Assignment

variable {words : List Text} {text : Text}

/-! ### The characters of an assignment -/

/-- The text of an assignment, from the keyword to the equals sign. -/
def written (a : Assignment words text) : Text :=
  a.keyword ++ (a.gapBeforeDot ++ '.' :: (a.gapBehindDot ++ (a.identifier ++
    (a.gapBeforeEquals ++ ['=']))))

theorem upToEquals_eq (a : Assignment words text) : a.upToEquals = a.before ++ a.written := by
  simp [upToEquals, lead, written]

/-- Whether an assignment may contain a character. -/
def mayContain (c : Char) : Bool :=
  isNamePart c || isSpace c || c == '.' || c == '='

theorem mayContain_of_mem_written (hwords : AreLetters words) (a : Assignment words text) :
    ∀ c ∈ a.written, mayContain c = true := by
  have hname {c : Char} (hc : isNamePart c = true) : mayContain c = true := by simp [mayContain, hc]
  have hspace {c : Char} (hc : isSpace c = true) : mayContain c = true := by simp [mayContain, hc]
  intro c hc
  simp only [written, List.mem_append, List.mem_cons, List.not_mem_nil, or_false] at hc
  rcases hc with hc | hc | rfl | hc | hc | hc | rfl
  · exact hname (a.isNamePart_keyword hwords c hc)
  · exact hspace (a.isSpace_beforeDot c hc)
  · decide +kernel
  · exact hspace (a.isSpace_behindDot c hc)
  · exact hname (a.isNamePart_identifier c hc)
  · exact hspace (a.isSpace_beforeEquals c hc)
  · decide +kernel

/-- A delimiter that opens a comment starts with two characters that no assignment contains. -/
theorem exists_opening (kind : CommentKind) : ∃ c d rest, kind.opening = c :: d :: rest ∧
    mayContain c = false ∧ mayContain d = false := by
  have hslash : mayContain '/' = false := by decide +kernel
  cases kind with
  | line => exact ⟨'/', '/', [], rfl, hslash, hslash⟩
  | block => exact ⟨'/', '*', [], rfl, hslash, by decide +kernel⟩
  | tag => exact ⟨'<', '!', "---".toList, rfl, by decide +kernel⟩

theorem written_ne_nil (a : Assignment words text) : a.written ≠ [] := by
  simp [written]

/-- An assignment in a comment stands behind the delimiter that opens the comment. -/
theorem exists_delimiter_before (hwords : AreLetters words) (a : Assignment words text)
    {kind : CommentKind} {part inner tail : Text} (hopening : kind.opening <+: part)
    (hpart : part = inner ++ (a.written ++ tail)) :
    ∃ c d rest, inner = c :: d :: rest ∧ mayContain c = false := by
  obtain ⟨c, d, opening, hkind, hc, hd⟩ := exists_opening kind
  obtain ⟨body, rfl⟩ := hopening
  rw [hkind, List.cons_append, List.cons_append] at hpart
  -- no assignment starts with a character that it may not contain
  have hnot {e : Char} {behind : Text} (he : mayContain e = false) :
      e :: behind ≠ a.written ++ tail := by
    intro h
    have hstart : a.written ++ tail = [] ++ e :: behind := h.symm
    obtain ⟨between, hnil, -⟩ :=
      exists_behind_block hstart (a.mayContain_of_mem_written hwords) he
    exact a.written_ne_nil (List.append_eq_nil_iff.mp hnil.symm).1
  rcases inner with _ | ⟨e, _ | ⟨f, rest⟩⟩
  · exact absurd hpart (hnot hc)
  · exact absurd (List.cons.inj hpart).2 (hnot hd)
  · obtain rfl := (List.cons.inj hpart).1
    exact ⟨c, f, rest, rfl, hc⟩

/-- An assignment that touches one behind a delimiter stands behind the delimiter, too. -/
theorem Touches.exists_before (hwords : AreLetters words) {a b : Assignment words text}
    (h : a.Touches b) {front rest : Text} {c d : Char} (hc : mayContain c = false)
    (hbefore : b.before = front ++ c :: d :: rest) : ∃ inner, a.before = front ++ inner := by
  obtain ⟨between, hbetween, hshort⟩ := h
  have htext : a.before ++ (a.written ++ between) = front ++ c :: d :: rest := by
    rw [← hbefore, hbetween, upToEquals_eq, List.append_assoc]
  rcases List.append_eq_append_iff.mp htext with ⟨skipped, -, hskipped⟩ | ⟨inner, hinner, -⟩
  · obtain ⟨gap, -, rfl⟩ :=
      exists_behind_block hskipped (a.mayContain_of_mem_written hwords) hc
    simp at hshort
    omega
  · exact ⟨inner, hinner⟩

/-- Of the assignments behind a delimiter, each is matched or stands behind one that is. -/
theorem exists_isMatched_behind {keyword : Pattern} (hkeyword : Variable.IsKeyword keyword words)
    (hwords : AreLetters words) {b : Assignment words text} {front rest : Text} {c d : Char}
    (hc : mayContain c = false) (hbefore : b.before = front ++ c :: d :: rest) :
    ∃ a : Assignment words text, a.IsMatched keyword ∧ (∃ behind, a.before = front ++ behind) ∧
      a.upToEquals <+: b.upToEquals := by
  rcases isMatched_or_exists_touches hkeyword hwords b with hmatched | ⟨a, htouches, hmatched⟩
  · exact ⟨b, hmatched, ⟨_, hbefore⟩, List.prefix_refl _⟩
  · refine ⟨a, hmatched, htouches.exists_before hwords hc hbefore, ?_⟩
    obtain ⟨between, hbetween, -⟩ := htouches
    rw [b.upToEquals_eq, hbetween, List.append_assoc]
    exact List.prefix_append _ _

/-! ### Assignments in another text -/

/-- An assignment between two boundaries of a text is a part of what lies between them. -/
theorem exists_around {lead part rest : Text} (a : Assignment words text)
    (htext : text = lead ++ (part ++ rest)) (hstart : lead.byteSize ≤ a.before.byteSize)
    (hstop : a.upToEquals.byteSize ≤ byteSize (lead ++ part)) :
    ∃ inner tail, a.before = lead ++ inner ∧ part = inner ++ (a.written ++ tail) ∧
      a.behind = tail ++ rest := by
  have htext' : text = (lead ++ part) ++ rest := htext.trans (List.append_assoc ..).symm
  obtain ⟨tail, htail, hbehind⟩ :=
    exists_append_of_byteSize_le (a.text_eq_upToEquals.symm.trans htext') hstop
  have hsame : lead ++ part = a.before ++ (a.written ++ tail) := by
    rw [htail, a.upToEquals_eq, List.append_assoc]
  obtain ⟨inner, hinner, hpart⟩ := exists_append_of_byteSize_le hsame hstart
  exact ⟨inner, tail, hinner, hpart, hbehind⟩

/-- An assignment that stands behind other characters of a part of a text is there in every text
with this part, if no other equals sign follows. -/
theorem exists_moved {lead inner tail rest lead' rest' text' : Text} (a : Assignment words text)
    (hbefore : a.before = lead ++ inner) (hinner : inner ≠ []) (hbehind : a.behind = tail ++ rest)
    (htext' : text' = lead' ++ (inner ++ (a.written ++ (tail ++ rest'))))
    (hrest' : ∀ c ∈ rest'.head?, c ∈ rest.head? ∨ c = ' ' ∨ c = '\n' ∨ c = '\r') :
    ∃ b : Assignment words text', b.before = lead' ++ inner ∧ b.written = a.written := by
  obtain ⟨init, c, rfl⟩ := (List.eq_nil_or_concat' inner).resolve_left hinner
  have hfresh : ∀ d ∈ (lead' ++ (init ++ [c])).getLast?, d ≠ '.' ∧ isNamePart d = false := by
    have hc := a.fresh c (by simp [hbefore, ← List.append_assoc])
    simpa [← List.append_assoc] using hc
  have hcomparison : (tail ++ rest').head? ≠ some '=' := by
    have hhead := a.noComparison
    rw [hbehind] at hhead
    rcases tail with _ | ⟨d, tail⟩
    · intro hequals
      rcases hrest' '=' hequals with hsame | hblank
      · exact hhead hsame
      · revert hblank
        decide
    · exact hhead
  exact ⟨{ a with
    before := lead' ++ (init ++ [c])
    behind := tail ++ rest'
    text_eq := by simpa [written] using htext'
    fresh := hfresh
    noComparison := hcomparison }, rfl, rfl⟩

/-- The range that an assignment gives a declaration tells where the identifier is. -/
theorem offsetAt_of_range (a : Assignment words text) {range : Span}
    (h : range = text.spanAt ⟨0 + a.range.start, 0 + a.range.stop⟩) :
    text.offsetAt range.start = a.lead.byteSize ∧
      text.offsetAt range.stop = byteSize (a.lead ++ a.identifier) := by
  have hstart := offsetAt_positionAt_boundary a.lead
    (a.identifier ++ (a.gapBeforeEquals ++ '=' :: a.behind))
  have hstop := offsetAt_positionAt_boundary (a.lead ++ a.identifier)
    (a.gapBeforeEquals ++ '=' :: a.behind)
  rw [List.append_assoc, ← a.text_eq_lead] at hstop
  rw [← a.text_eq_lead] at hstart
  rw [h, spanAt, Nat.zero_add, Nat.zero_add]
  exact ⟨hstart, by simpa [Assignment.range] using hstop⟩

end Assignment

namespace Variable

/-! ### Declarations and comments -/

variable {v : Variable} {file : FileId} {dialect : Dialect} {raw : Text}

/-- Every variable that a document assigns is written in it, apart from its comments. -/
theorem isWrittenIn_of_mem_assignedIn (h : v ∈ assignedIn file dialect raw) :
    v.IsWrittenIn dialect raw := by
  have htext : Comment.strip dialect raw = [] ++ (Comment.strip dialect raw ++ []) := by simp
  rcases mem_assignedIn.mp h with hscoped | hbracket | ⟨-, hparam⟩
  · exact (isWrittenIn_of_mem_collect rfl htext hscoped).2.1
  · exact (isWrittenIn_of_mem_collect rfl htext hbracket).2.1
  · exact (isWrittenIn_of_mem_collect rfl htext hparam).2.1

/-- The range of a declaration, which is not empty, lies within a comment of a document. -/
structure WithinComment (v : Variable) (raw : Text) (comment : Comment) : Prop where
  start_le : comment.range.start ≤ raw.offsetAt v.declaration.range.start
  start_lt_stop : raw.offsetAt v.declaration.range.start < raw.offsetAt v.declaration.range.stop
  stop_le : raw.offsetAt v.declaration.range.stop ≤ comment.range.stop

/-- What is declared in a part of the blanked text is declared in the same part of the document. -/
theorem withinComment_of_offsetAt {lead part rest lead' rest' : Text} {comment : Comment}
    (htext : raw = lead ++ (part ++ rest))
    (hstrip : Comment.strip dialect raw = lead' ++ (part ++ rest'))
    (hlength : lead'.length = lead.length)
    (hrange : comment.range = ⟨lead.byteSize, byteSize (lead ++ part)⟩)
    (hstart : lead'.byteSize ≤ (Comment.strip dialect raw).offsetAt v.declaration.range.start)
    (hlt : (Comment.strip dialect raw).offsetAt v.declaration.range.start <
      (Comment.strip dialect raw).offsetAt v.declaration.range.stop)
    (hstop : (Comment.strip dialect raw).offsetAt v.declaration.range.stop ≤
      byteSize (lead' ++ part)) : v.WithinComment raw comment := by
  have hlayout := Comment.sameLayout_strip dialect raw
  obtain ⟨first, hfirst, hfirst'⟩ := hlayout.exists_position_of_boundary htext hstrip hlength
  obtain ⟨last, hlast, hlast'⟩ := hlayout.exists_position_of_boundary
    (htext.trans (List.append_assoc ..).symm) (hstrip.trans (List.append_assoc ..).symm)
    (by rw [List.length_append, List.length_append, hlength])
  refine ⟨?_, ?_, ?_⟩
  · rw [hrange, ← hfirst, hlayout.offsetAt_le_iff, hfirst']
    exact hstart
  · rw [← Nat.not_le, hlayout.offsetAt_le_iff, Nat.not_le]
    exact hlt
  · rw [hrange, ← hlast, hlayout.offsetAt_le_iff, hlast']
    exact hstop

/-- **A comment of one dialect may be code in the other.** If no comment of the dialect that a
document is read in reaches into some comment of another dialect, and there is an assignment in that
comment, then the document has a variable that is declared in it. -/
theorem exists_withinComment_of_assignment (file : FileId) {other : Dialect} {comment : Comment}
    (hcomment : comment ∈ Comment.findAll other raw)
    (hapart : ∀ c ∈ Comment.findAll dialect raw,
      c.range.stop ≤ comment.range.start ∨ comment.range.stop ≤ c.range.start)
    (a : Assignment scopeWords raw) (hstart : comment.range.start ≤ a.before.byteSize)
    (hstop : a.upToEquals.byteSize ≤ comment.range.stop) :
    ∃ v ∈ assignedIn file dialect raw, v.WithinComment raw comment := by
  obtain ⟨lead, part, rest, htext, hrange, hdelimited⟩ :=
    Comment.exists_delimited_of_mem_findAll hcomment
  rw [hrange] at hapart hstart hstop
  obtain ⟨lead', rest', hstrip, hlength, hrest'⟩ := Comment.exists_parts_of_strip htext hapart
  obtain ⟨inner, tail, hinner, hpart, hbehind⟩ := a.exists_around htext hstart hstop
  obtain ⟨c, d, body, hdelimiter, hc⟩ :=
    a.exists_delimiter_before Assignment.areLetters_scopeWords hdelimited.opening_prefix hpart
  -- the assignment is in the blanked text, too
  have hstrip' : Comment.strip dialect raw =
      lead' ++ (inner ++ (a.written ++ (tail ++ rest'))) := by
    rw [hstrip, hpart, List.append_assoc, List.append_assoc]
  obtain ⟨b, hbefore, hwritten⟩ :=
    a.exists_moved hinner (by simp [hdelimiter]) hbehind hstrip' hrest'
  -- and if it is not found itself, then because of one that stands before it in the comment
  obtain ⟨found, hmatched, ⟨behind, hfound⟩, ⟨between, hbetween⟩⟩ :=
    Assignment.exists_isMatched_behind isKeyword_scopeKeyword Assignment.areLetters_scopeWords hc
      (hbefore.trans (by rw [hdelimiter]))
  have hpartEnd : lead' ++ part = found.upToEquals ++ (between ++ tail) := by
    rw [← List.append_assoc, hbetween, b.upToEquals_eq, hbefore, hwritten, hpart]
    simp
  obtain ⟨v, hv, hdeclared⟩ := (Assignment.isDeclaredIn_assignedIn_iff found).mpr hmatched
  obtain ⟨hoffset, hoffset'⟩ := found.offsetAt_of_range hdeclared
  have hidentifier : found.identifier.byteSize ≠ 0 :=
    mt byteSize_eq_zero_iff.mp found.identifier_ne_nil
  refine ⟨v, hv, withinComment_of_offsetAt htext hstrip hlength hrange ?_ ?_ ?_⟩
  · rw [hoffset, Assignment.lead, hfound]
    simp only [byteSize_append]
    omega
  · rw [hoffset, hoffset', byteSize_append]
    omega
  · rw [hoffset', hpartEnd, Assignment.upToEquals]
    simp only [byteSize_append]
    omega

end Variable

namespace ApplicationSource

/-! ### Main result -/

/-- The tag that makes a component file markup, wherever it starts. -/
def componentTag : Text := "<cfcomponent".toList

theorem dialect_ofFile {path : Path} (text : Text)
    (hpath : path.extension?.map (·.asciiLowercase) = some Workspace.componentExtension) :
    (ofFile path text).dialect =
      if containsIgnoringCase componentTag text = true then .tag else .script := by
  have hisComponent : (path.extension?.map (·.asciiLowercase) ==
      some Workspace.componentExtension) = true := beq_iff_eq.mpr hpath
  simp only [ofFile, hisComponent, Bool.true_and]
  change Dialect.ofScript (!containsIgnoringCase componentTag text) = _
  cases containsIgnoringCase componentTag text <;> rfl

/-- **What is commented out in a component file.** If the file holds no component tag, no variable
is declared in a comment of script. If it does, then also where the tag stands in a string or in a
comment of a script, every comment of script in which there is an assignment has a variable that is
declared in it, as long as no markup comment reaches into it. -/
theorem assignedIn_ofFile_comments (file : FileId) {path : Path} (text : Text)
    (hpath : path.extension?.map (·.asciiLowercase) = some Workspace.componentExtension) :
    let source := ofFile path text
    (containsIgnoringCase componentTag text = false →
      ∀ v ∈ Variable.assignedIn file source.dialect source.text,
        ∀ comment ∈ Comment.findAll .script text,
          comment.range.stop ≤ text.offsetAt v.declaration.range.start ∨
            text.offsetAt v.declaration.range.stop ≤ comment.range.start) ∧
    (containsIgnoringCase componentTag text = true →
      ∀ comment ∈ Comment.findAll .script text,
        (∀ markup ∈ Comment.findAll .tag text,
          markup.range.stop ≤ comment.range.start ∨ comment.range.stop ≤ markup.range.start) →
        ∀ a : Assignment Variable.scopeWords text, comment.range.start ≤ a.before.byteSize →
          a.upToEquals.byteSize ≤ comment.range.stop →
          ∃ v ∈ Variable.assignedIn file source.dialect source.text,
            v.WithinComment text comment) := by
  intro source
  have hdialect : source.dialect =
      if containsIgnoringCase componentTag text = true then .tag else .script :=
    dialect_ofFile text hpath
  refine ⟨?_, ?_⟩
  · intro htag v hv
    have hscript : source.dialect = .script := by rw [hdialect, htag]; rfl
    rw [hscript] at hv
    exact (Variable.isWrittenIn_of_mem_assignedIn hv).isCode
  · intro htag comment hcomment hapart a hstart hstop
    have hmarkup : source.dialect = .tag := by rw [hdialect, htag]; rfl
    rw [hmarkup]
    exact Variable.exists_withinComment_of_assignment file hcomment hapart a hstart hstop

/-- In a component in script that mentions the tag in a comment, the assignment in another comment
declares `old`; in one that does not, only the assignment outside of the comment declares a
variable. -/
theorem assignedIn_ofFile_comments_mention :
    let path : Path := "Application.cfc".toList
    let text : Text := "component \x7b // <cfcomponent>\n// application.old = 1;\n\x7d".toList
    let bare : Text := "component \x7b // url.a = 1;\nurl.b = 2;\n\x7d".toList
    let comment : Comment := ⟨.line, ⟨29, 52⟩⟩
    path.extension?.map (·.asciiLowercase) = some Workspace.componentExtension ∧
      containsIgnoringCase componentTag text = true ∧
      comment ∈ Comment.findAll .script text ∧
      (∃ v ∈ Variable.assignedIn ⟨0⟩ (ofFile path text).dialect text,
        v.WithinComment text comment) ∧
      Variable.assignedIn ⟨0⟩ (ofFile path text).dialect text =
        [⟨"old".toList, .application, ⟨⟨0⟩, ⟨⟨1, 15⟩, ⟨1, 18⟩⟩⟩⟩] ∧
      containsIgnoringCase componentTag bare = false ∧
      (Variable.assignedIn ⟨0⟩ (ofFile path bare).dialect bare).map Variable.identifier =
        ["b".toList] ∧
      ∀ v ∈ Variable.assignedIn ⟨0⟩ (ofFile path bare).dialect bare,
        ∀ comment ∈ Comment.findAll .script bare,
          comment.range.stop ≤ bare.offsetAt v.declaration.range.start ∨
            bare.offsetAt v.declaration.range.stop ≤ comment.range.start := by
  intro path text bare comment
  have hpath : path.extension?.map (·.asciiLowercase) = some Workspace.componentExtension := by
    decide +kernel
  have htag : containsIgnoringCase componentTag text = true := by decide +kernel
  have hbare : containsIgnoringCase componentTag bare = false := by decide +kernel
  have hcomment : comment ∈ Comment.findAll .script text := by decide +kernel
  let old : Assignment Variable.scopeWords text :=
    { before := "component \x7b // <cfcomponent>\n// ".toList
      keyword := "application".toList
      gapBeforeDot := []
      gapBehindDot := []
      identifier := "old".toList
      gapBeforeEquals := " ".toList
      behind := " 1;\n\x7d".toList
      text_eq := by decide +kernel
      fresh := by
        have hlast : "component \x7b // <cfcomponent>\n// ".toList.getLast? = some ' ' := by
          decide +kernel
        rw [hlast]
        rintro c ⟨⟩
        exact ⟨by decide, by decide +kernel⟩
      isKeyword := by decide +kernel
      isSpace_beforeDot := List.forall_mem_nil _
      isSpace_behindDot := List.forall_mem_nil _
      identifier_ne_nil := by decide
      isNamePart_identifier := List.all_eq_true.mp (by decide +kernel)
      isSpace_beforeEquals := List.all_eq_true.mp (by decide +kernel)
      noComparison := by decide }
  refine ⟨hpath, htag, hcomment, ?_, by decide +kernel, hbare, by decide +kernel, ?_⟩
  · exact (assignedIn_ofFile_comments ⟨0⟩ text hpath).2 htag comment hcomment
      (by decide +kernel) old (by decide +kernel) (by decide +kernel)
  · exact (assignedIn_ofFile_comments ⟨0⟩ bare hpath).1 hbare

end ApplicationSource

end CfmlNav
