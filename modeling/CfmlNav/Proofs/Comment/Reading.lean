import CfmlNav.Comment.Lemmas
import CfmlNav.Proofs.LetterCase.Text

/-!
# Reading comments step by step

`readFrom mode offset text` lists the comments of a text that stands at a byte offset of its
document and starts in a mode. The search for all comments is this reading from the start of the
document, and each step of the lexer turns it into the reading of what is left: either nothing is
added (`readFrom_skip`) or one comment is (`readFrom_comment`).

On top of this stand the four laws of script, one for each kind of text: what is neither string
nor comment is passed over (`readFrom_code`), so is a string, whatever it contains and whatever
follows it (`readFrom_string`), and a comment is listed with exactly its own bytes
(`readFrom_lineComment`, `readFrom_blockComment`). None of them asks anything of the text behind,
so they can be chained in any order.
-/

namespace CfmlNav.Comment

open Text LexMode

/-- The comments of a text that stands at a byte offset and starts in a mode. -/
def readFrom (mode : LexMode) (offset : Nat) (text : Text) : List Comment :=
  ofLexemes offset (mode.lexemes text)

/-- All comments of a document are those read from its start. -/
theorem findAll_eq_readFrom (dialect : Dialect) (text : Text) :
    findAll dialect text = readFrom dialect.startMode 0 text := rfl

@[simp] theorem readFrom_nil (mode : LexMode) (offset : Nat) : readFrom mode offset [] = [] := rfl

/-! ### One step -/

section Step

variable {mode : LexMode} {offset : Nat} {c : Char} {rest : Text}

/-- A step that takes no comment leaves the reading of what is behind it. -/
theorem readFrom_of_step_none (h : (mode.step c rest).comment = none) :
    readFrom mode offset (c :: rest) =
      readFrom (mode.step c rest).mode
        (offset + byteSize ((c :: rest).take (mode.step c rest).length))
        ((c :: rest).drop (mode.step c rest).length) := by
  rw [readFrom, lexemes_cons, ofLexemes, h]
  rfl

/-- A step that takes a comment lists it before the reading of what is behind it. -/
theorem readFrom_of_step_some {kind : CommentKind} (h : (mode.step c rest).comment = some kind) :
    readFrom mode offset (c :: rest) =
      ⟨kind, offset, offset + byteSize ((c :: rest).take (mode.step c rest).length)⟩ ::
        readFrom (mode.step c rest).mode
          (offset + byteSize ((c :: rest).take (mode.step c rest).length))
          ((c :: rest).drop (mode.step c rest).length) := by
  rw [readFrom, lexemes_cons, ofLexemes, h]
  rfl

variable {mode' : LexMode}

/-- Passing over one character. -/
theorem readFrom_pass (h : mode.step c rest = ⟨none, 1, mode'⟩) :
    readFrom mode offset (c :: rest) = readFrom mode' (offset + c.utf8Size) rest := by
  rw [readFrom_of_step_none (by rw [h]), h]
  rfl

variable {taken left : Text}

/-- Passing over a known piece of a text. -/
theorem readFrom_skip (h : mode.step c (taken ++ left) = ⟨none, taken.length + 1, mode'⟩) :
    readFrom mode offset (c :: (taken ++ left)) =
      readFrom mode' (offset + byteSize (c :: taken)) left := by
  rw [readFrom_of_step_none (by rw [h]), h]
  simp only [List.take_succ_cons, List.drop_succ_cons, List.take_left, List.drop_left]

/-- Listing a known piece of a text as a comment. -/
theorem readFrom_comment {kind : CommentKind}
    (h : mode.step c (taken ++ left) = ⟨some kind, taken.length + 1, mode'⟩) :
    readFrom mode offset (c :: (taken ++ left)) =
      ⟨kind, offset, offset + byteSize (c :: taken)⟩ ::
        readFrom mode' (offset + byteSize (c :: taken)) left := by
  rw [readFrom_of_step_some (by rw [h]), h]
  simp only [List.take_succ_cons, List.drop_succ_cons, List.take_left, List.drop_left]

end Step

/-! ### Code -/

/-- Text of script that opens neither a string nor a comment, whatever stands behind it. In a
script block it has no tag either. -/
structure IsCode (mode : LexMode) (text : Text) : Prop where
  noDoubleQuote : '"' ∉ text
  noSingleQuote : '\'' ∉ text
  noLineComment : ¬ ['/', '/'] <:+: text
  noBlockComment : ¬ ['/', '*'] <:+: text
  noFinalSlash : text.getLast? ≠ some '/'
  noTag : mode = .block → '<' ∉ text

/-- The rest of code is code. -/
theorem IsCode.tail {mode : LexMode} {c : Char} {text : Text} (h : IsCode mode (c :: text)) :
    IsCode mode text where
  noDoubleQuote hquote := h.noDoubleQuote (List.mem_cons_of_mem c hquote)
  noSingleQuote hquote := h.noSingleQuote (List.mem_cons_of_mem c hquote)
  noLineComment hopen := h.noLineComment (List.infix_cons hopen)
  noBlockComment hopen := h.noBlockComment (List.infix_cons hopen)
  noFinalSlash hlast := by
    refine h.noFinalSlash ?_
    rw [List.getLast?_cons, hlast]
    rfl
  noTag hmode htag := h.noTag hmode (List.mem_cons_of_mem c htag)

/-- A tag starts with its first character only. -/
theorem not_startsWithIgnoringCase_tag {c : Char} (hc : c ≠ '<') (tag rest : Text) :
    ¬ startsWithIgnoringCase ('<' :: tag) (c :: rest) := by
  rw [startsWithIgnoringCase_iff, asciiLowercase_cons, asciiLowercase_cons, List.cons_prefix_cons]
  rintro ⟨hhead, -⟩
  exact hc ((Character.asciiLower_eq_iff rfl).mp hhead.symm)

/-- Outside markup, a character that cannot start a closing tag is read by the rules of script. -/
theorem step_eq_scriptStep {mode : LexMode} (hmode : mode ≠ .markup) {c : Char}
    (hc : mode = .block → c ≠ '<') (rest : Text) :
    mode.step c rest = mode.scriptStep c rest := by
  cases mode with
  | script => rfl
  | markup => exact absurd rfl hmode
  | block =>
    have hno : ¬ startsWithIgnoringCase scriptClose (c :: rest) :=
      not_startsWithIgnoringCase_tag (hc rfl) "/cfscript".toList rest
    rw [step, if_neg hno]

/-- A character of code is passed over, whatever stands behind the code. -/
theorem step_of_isCode {mode : LexMode} (hmode : mode ≠ .markup) {c : Char} {text : Text}
    (h : IsCode mode (c :: text)) (rest : Text) : mode.step c (text ++ rest) = ⟨none, 1, mode⟩ := by
  have hquote : ¬ (c = '"' ∨ c = '\'') := by
    rintro (rfl | rfl)
    · exact h.noDoubleQuote List.mem_cons_self
    · exact h.noSingleQuote List.mem_cons_self
  have hopen (d : Char) (hd : ¬ ['/', d] <:+: c :: text) :
      ¬ ['/', d].isPrefixOf (c :: (text ++ rest)) := by
    rw [List.isPrefixOf_iff_prefix, List.cons_prefix_cons]
    rintro ⟨rfl, htail⟩
    -- a slash is not the last character of code, so the second character is in the code too
    rcases text with _ | ⟨e, text⟩
    · exact h.noFinalSlash rfl
    · rw [List.cons_append, List.cons_prefix_cons] at htail
      obtain ⟨rfl, -⟩ := htail
      exact hd ⟨[], text, rfl⟩
  have hline : ¬ "//".toList.isPrefixOf (c :: (text ++ rest)) := hopen '/' h.noLineComment
  have hblock : ¬ "/*".toList.isPrefixOf (c :: (text ++ rest)) := hopen '*' h.noBlockComment
  rw [step_eq_scriptStep hmode fun hmode heq => h.noTag hmode (heq ▸ List.mem_cons_self),
    scriptStep, if_neg hquote, if_neg hline, if_neg hblock]

/-! ### Strings -/

/-- The content of a string as it is written: the quote of the string is doubled. -/
def doubled (quote : Char) : Text → Text
  | [] => []
  | c :: content =>
    if c = quote then c :: c :: doubled quote content else c :: doubled quote content

/-- Written content never ends its string, so its characters are counted one by one. -/
theorem stringLength_doubled (quote : Char) (content rest : Text) :
    stringLength quote (doubled quote content ++ rest) =
      (doubled quote content).length + stringLength quote rest := by
  induction content with
  | nil => simp [doubled]
  | cons c content ih =>
    by_cases hc : c = quote
    · subst hc
      simp only [doubled, if_true, List.cons_append, stringLength, ih, List.length_cons]
      omega
    · rw [doubled, if_neg hc, List.cons_append, List.length_cons]
      -- an ordinary character counts for one, whether or not something stands behind it
      rcases htail : doubled quote content ++ rest with _ | ⟨d, tail⟩
      · obtain ⟨hnil, rfl⟩ := List.append_eq_nil_iff.mp htail
        rw [hnil]
        rfl
      · rw [stringLength, if_neg hc, ← htail, ih]
        omega

/-- A quote behind the content ends the string, unless another quote makes it a doubled one. -/
theorem stringLength_quote (quote : Char) {rest : Text} (h : rest.head? ≠ some quote) :
    stringLength quote (quote :: rest) = 1 := by
  rcases rest with _ | ⟨c, rest⟩
  · rfl
  · have hc : c ≠ quote := by simpa using h
    rw [stringLength, if_pos rfl, if_neg hc]

/-! ### Comments of script -/

/-- What stands in a line comment behind its slashes: no line feed, and no carriage return that
would belong to the end of the line. -/
structure IsLineBody (body : Text) : Prop where
  noLineFeed : '\n' ∉ body
  noFinalReturn : body.getLast? ≠ some '\r'

/-- What a line ends with: the end of the text, a line feed, or a carriage return with one. -/
inductive EndsLine : Text → Prop
  | textEnd : EndsLine []
  | lineFeed (rest : Text) : EndsLine ('\n' :: rest)
  | carriageReturn (rest : Text) : EndsLine ('\r' :: '\n' :: rest)

/-- A line comment reaches to the end of its line. -/
theorem lineCommentLength_of_endsLine {body rest : Text} (h : IsLineBody body)
    (hend : EndsLine rest) :
    lineCommentLength ('/' :: '/' :: (body ++ rest)) = body.length + 2 := by
  have hline : ('/' :: '/' :: (body ++ rest)).takeWhile (· != '\n') =
      '/' :: '/' :: (body ++ rest.takeWhile (· != '\n')) := by
    have hbody : ∀ c ∈ body, (c != '\n') = true := by
      intro c hc
      rw [bne_iff_ne]
      exact ne_of_mem_of_not_mem hc h.noLineFeed
    have hslash : ('/' != '\n') = true := rfl
    simp only [List.takeWhile_cons, hslash, if_true, List.takeWhile_append_of_pos hbody]
  -- for an empty body the last character is a slash
  have hlast : ('/' :: '/' :: body).getLast? ≠ some '\r' := by
    rcases hbody : body.getLast? with _ | c
    · simp [List.getLast?_cons, hbody]
    · have hc := h.noFinalReturn
      rw [hbody] at hc
      simpa [List.getLast?_cons, hbody] using hc
  rw [lineCommentLength, hline]
  cases hend with
  | textEnd =>
    rw [List.takeWhile_nil, List.append_nil, if_neg hlast]
    rfl
  | lineFeed rest =>
    rw [List.takeWhile_cons_of_neg (by decide), List.append_nil, if_neg hlast]
    rfl
  | carriageReturn rest =>
    rw [List.takeWhile_cons_of_pos (by decide), List.takeWhile_cons_of_neg (by decide)]
    simp [List.getLast?_cons]

/-- The body of a block comment does not close it, neither alone nor with what stands behind it
if that starts with no slash, so its characters are counted one by one. -/
theorem blockCommentLength_append {body rest : Text} (h : ¬ ['*', '/'] <:+: body)
    (hrest : rest.head? ≠ some '/') :
    blockCommentLength (body ++ rest) = body.length + blockCommentLength rest := by
  induction body with
  | nil => simp
  | cons c body ih =>
    have hbody := ih fun hclose => h (List.infix_cons hclose)
    rw [List.cons_append, List.length_cons]
    rcases htail : body ++ rest with _ | ⟨d, tail⟩
    · obtain ⟨rfl, rfl⟩ := List.append_eq_nil_iff.mp htail
      rfl
    · have hno : ¬ (c = '*' ∧ d = '/') := by
        rintro ⟨rfl, rfl⟩
        -- the slash stands behind the body or in it, and neither may be
        rcases body with _ | ⟨e, body⟩
        · rw [List.nil_append] at htail
          exact hrest (by rw [htail, List.head?_cons])
        · obtain ⟨rfl, -⟩ := List.cons.inj htail
          exact h ⟨[], body, rfl⟩
      rw [blockCommentLength, if_neg hno, ← htail, hbody]
      omega

section Script

variable {mode : LexMode} (hmode : mode ≠ .markup) (offset : Nat)

include hmode

/-- Code is passed over. -/
theorem readFrom_code {text : Text} (h : IsCode mode text) (rest : Text) :
    readFrom mode offset (text ++ rest) = readFrom mode (offset + text.byteSize) rest := by
  induction text generalizing offset with
  | nil => rfl
  | cons c text ih =>
    rw [List.cons_append, readFrom_pass (step_of_isCode hmode h rest), ih _ h.tail, byteSize_cons,
      Nat.add_assoc]

/-- The step at a quote takes the whole string. -/
theorem step_quote {quote : Char} (hquote : quote = '"' ∨ quote = '\'') (rest : Text) :
    mode.step quote rest = ⟨none, 1 + stringLength quote rest, mode⟩ := by
  have hno : mode = .block → quote ≠ '<' := by
    rintro - rfl
    simp at hquote
  rw [step_eq_scriptStep hmode hno, scriptStep, if_pos hquote]

/-- A string that is open to the end is passed over. -/
theorem readFrom_openString {quote : Char} (hquote : quote = '"' ∨ quote = '\'')
    (content : Text) : readFrom mode offset (quote :: doubled quote content) = [] := by
  have hstep : mode.step quote (doubled quote content ++ []) =
      ⟨none, (doubled quote content).length + 1, mode⟩ := by
    rw [step_quote hmode hquote, stringLength_doubled]
    simp [stringLength, Nat.add_comm]
  rw [← List.append_nil (doubled quote content), readFrom_skip hstep, readFrom_nil]

/-- A string is passed over, whatever it contains and whatever stands behind it. If that is a
string with the same quote, the lexer takes the two quotes for a doubled one and both strings for
one; it then stands where it would stand behind the second. -/
theorem readFrom_string {quote : Char} (hquote : quote = '"' ∨ quote = '\'')
    (content rest : Text) :
    readFrom mode offset (quote :: (doubled quote content ++ quote :: rest)) =
      readFrom mode (offset + byteSize (quote :: (doubled quote content ++ [quote]))) rest := by
  have hsplit : doubled quote content ++ quote :: rest =
      doubled quote content ++ [quote] ++ rest := by simp
  by_cases hnext : rest.head? = some quote
  -- one step over both strings ends where a second step would end, had the first one stopped
  · obtain ⟨rest', rfl⟩ : ∃ rest', rest = quote :: rest' := by
      rcases rest with _ | ⟨c, rest'⟩
      · simp at hnext
      · exact ⟨rest', by simpa using hnext⟩
    let taken := quote :: (doubled quote content ++ [quote, quote])
    have htext : quote :: (doubled quote content ++ quote :: quote :: rest') = taken ++ rest' := by
      simp [taken]
    have hlength : 1 + stringLength quote (doubled quote content ++ quote :: quote :: rest') =
        taken.length + stringLength quote rest' := by
      rw [stringLength_doubled, stringLength, if_pos rfl, if_pos rfl]
      simp only [taken, List.length_cons, List.length_append, List.length_nil]
      omega
    rw [readFrom_of_step_none (by rw [step_quote hmode hquote]),
      readFrom_of_step_none (by rw [step_quote hmode hquote])]
    simp only [step_quote hmode hquote, hlength, htext, List.drop_length_add_append,
      List.take_length_add_append, Nat.add_comm 1, List.take_succ_cons, List.drop_succ_cons]
    congr 1
    simp only [taken, byteSize_cons, byteSize_append, byteSize_nil]
    omega
  · have hstep : mode.step quote (doubled quote content ++ [quote] ++ rest) =
        ⟨none, (doubled quote content ++ [quote]).length + 1, mode⟩ := by
      rw [← hsplit, step_quote hmode hquote, stringLength_doubled, stringLength_quote quote hnext]
      simp [Nat.add_comm]
    rw [hsplit, readFrom_skip hstep]

theorem step_slash_slash (rest : Text) :
    mode.step '/' ('/' :: rest) = ⟨some .line, lineCommentLength ('/' :: '/' :: rest), mode⟩ := by
  rw [step_eq_scriptStep hmode fun _ => by decide]
  rfl

theorem step_slash_star (rest : Text) :
    mode.step '/' ('*' :: rest) = ⟨some .block, 2 + blockCommentLength rest, mode⟩ := by
  rw [step_eq_scriptStep hmode fun _ => by decide]
  rfl

/-- A line comment is listed up to the end of its line. -/
theorem readFrom_lineComment {body rest : Text} (h : IsLineBody body) (hend : EndsLine rest) :
    readFrom mode offset ('/' :: '/' :: (body ++ rest)) =
      ⟨.line, offset, offset + byteSize ('/' :: '/' :: body)⟩ ::
        readFrom mode (offset + byteSize ('/' :: '/' :: body)) rest := by
  have hstep : mode.step '/' ('/' :: body ++ rest) =
      ⟨some .line, ('/' :: body).length + 1, mode⟩ := by
    rw [List.cons_append, step_slash_slash hmode, lineCommentLength_of_endsLine h hend]
    rfl
  exact readFrom_comment hstep

/-- A block comment is listed with both its delimiters. -/
theorem readFrom_blockComment {body : Text} (h : ¬ ['*', '/'] <:+: body) (rest : Text) :
    readFrom mode offset ('/' :: '*' :: (body ++ '*' :: '/' :: rest)) =
      ⟨.block, offset, offset + byteSize ('/' :: '*' :: (body ++ ['*', '/']))⟩ ::
        readFrom mode (offset + byteSize ('/' :: '*' :: (body ++ ['*', '/']))) rest := by
  have hsplit : '*' :: (body ++ '*' :: '/' :: rest) = '*' :: (body ++ ['*', '/']) ++ rest := by
    simp
  have hstep : mode.step '/' ('*' :: (body ++ ['*', '/']) ++ rest) =
      ⟨some .block, ('*' :: (body ++ ['*', '/'])).length + 1, mode⟩ := by
    have hclose : blockCommentLength ('*' :: '/' :: rest) = 2 := rfl
    rw [← hsplit, step_slash_star hmode, blockCommentLength_append h (by simp), hclose]
    simp only [List.length_cons, List.length_append, List.length_nil, LexStep.mk.injEq, true_and,
      and_true]
    omega
  rw [hsplit, readFrom_comment hstep]

/-- A block comment that is open is listed to the end of the text. -/
theorem readFrom_openBlockComment {body : Text} (h : ¬ ['*', '/'] <:+: body) :
    readFrom mode offset ('/' :: '*' :: body) =
      [⟨.block, offset, offset + byteSize ('/' :: '*' :: body)⟩] := by
  have hstep : mode.step '/' ('*' :: body ++ []) =
      ⟨some .block, ('*' :: body).length + 1, mode⟩ := by
    rw [List.cons_append, step_slash_star hmode, blockCommentLength_append h (by simp),
      List.length_cons, Nat.add_comm 2]
    rfl
  rw [← List.append_nil ('*' :: body), readFrom_comment hstep, readFrom_nil, List.append_nil]

end Script

end CfmlNav.Comment
