import CfmlNav.Comment.Lemmas
import CfmlNav.Context
import CfmlNav.Proofs.LetterCase.Text

/-!
# Comments and cursors up to ASCII case

The lexer asks for delimiters without letters and for tags whatever their case, so each of its
steps is the same on a lowered text. Hence a document and its lowered form have the same comments
(`findAll_asciiLowercase`), blanking commutes with lowering (`blank_asciiLowercase`), and a cursor
sees the same in both but for the case of the text (`build_asciiLowercase`).
-/

namespace CfmlNav

open Character Text

/-! ### Lengths of lexemes -/

namespace Text

/-- A delimiter without letters starts a lowered text exactly if it starts the text. -/
theorem isPrefixOf_asciiLowercase {delimiter : Text}
    (h : delimiter.any isAsciiLetter = false) (text : Text) :
    List.isPrefixOf delimiter text.asciiLowercase = List.isPrefixOf delimiter text := by
  induction delimiter generalizing text with
  | nil => rfl
  | cons d delimiter ih =>
    cases text with
    | nil => rfl
    | cons c text =>
      rw [List.any_cons, Bool.or_eq_false_iff] at h
      have hd : (d == asciiLower c) = (d == c) := by
        rw [Bool.eq_iff_iff, beq_iff_eq, beq_iff_eq, eq_comm, asciiLower_eq_iff h.1, eq_comm]
      simp only [asciiLowercase_cons, List.isPrefixOf, hd, ih h.2]

theorem stringLength_asciiLowercase {quote : Char} (hquote : isAsciiLetter quote = false)
    (text : Text) : stringLength quote text.asciiLowercase = stringLength quote text := by
  fun_induction stringLength quote text with
  | case1 => rfl
  | case2 => rfl
  | case3 rest ih => simp [stringLength, asciiLower_eq_iff hquote, ih]
  | case4 d rest hd => simp [stringLength, asciiLower_eq_iff hquote, hd]
  | case5 c d rest hc ih => simpa [stringLength, asciiLower_eq_iff hquote, hc] using ih

theorem lineCommentLength_asciiLowercase (text : Text) :
    lineCommentLength text.asciiLowercase = lineCommentLength text := by
  have hfeed : Character.CaseBlind (· != '\n') := caseBlind_of_letters (by decide)
  have hlast (line : Text) :
      List.getLast? line.asciiLowercase = some '\r' ↔ line.getLast? = some '\r' := by
    have hreturn {c : Char} : asciiLower c = '\r' ↔ c = '\r' := asciiLower_eq_iff rfl
    rw [getLast?_asciiLowercase, Option.map_eq_some_iff]
    simp [hreturn]
  simp only [lineCommentLength, takeWhile_asciiLowercase hfeed, hlast, length_asciiLowercase]

theorem blockCommentLength_asciiLowercase (text : Text) :
    blockCommentLength text.asciiLowercase = blockCommentLength text := by
  have hstar {c : Char} : asciiLower c = '*' ↔ c = '*' := asciiLower_eq_iff rfl
  have hslash {c : Char} : asciiLower c = '/' ↔ c = '/' := asciiLower_eq_iff rfl
  fun_induction blockCommentLength text with
  | case1 => rfl
  | case2 => rfl
  | case3 c d rest h => simp [blockCommentLength, hstar, hslash, h]
  | case4 c d rest h ih => simpa [blockCommentLength, hstar, hslash, h] using ih

theorem tagCommentLength_asciiLowercase (skip depth : Nat) (text : Text) :
    tagCommentLength skip depth text.asciiLowercase = tagCommentLength skip depth text := by
  induction text generalizing skip depth with
  | nil => rfl
  | cons c rest ih =>
    have hopen : tagCommentOpen.isPrefixOf (asciiLowercase (c :: rest)) =
        tagCommentOpen.isPrefixOf (c :: rest) := isPrefixOf_asciiLowercase (by decide) _
    have hclose : tagCommentClose.isPrefixOf (asciiLowercase (c :: rest)) =
        tagCommentClose.isPrefixOf (c :: rest) := isPrefixOf_asciiLowercase (by decide) _
    rw [asciiLowercase_cons] at hopen hclose
    cases skip with
    | zero => simp only [asciiLowercase_cons, tagCommentLength, hopen, hclose, ih]
    | succ skip => simp only [asciiLowercase_cons, tagCommentLength, ih]

theorem tagLength_asciiLowercase (text : Text) :
    tagLength text.asciiLowercase = tagLength text := by
  have hend {c : Char} : asciiLower c = '>' ↔ c = '>' := asciiLower_eq_iff rfl
  induction text with
  | nil => rfl
  | cons c rest ih => simp only [asciiLowercase_cons, tagLength, hend, ih]

end Text

/-! ### Steps and lexemes -/

namespace LexMode

theorem scriptStep_asciiLowercase (mode : LexMode) (c : Char) (rest : Text) :
    mode.scriptStep (asciiLower c) rest.asciiLowercase = mode.scriptStep c rest := by
  have hdouble : asciiLower c = '"' ↔ c = '"' := asciiLower_eq_iff rfl
  have hsingle : asciiLower c = '\'' ↔ c = '\'' := asciiLower_eq_iff rfl
  have hline : "//".toList.isPrefixOf (asciiLowercase (c :: rest)) =
      "//".toList.isPrefixOf (c :: rest) := isPrefixOf_asciiLowercase (by decide) _
  have hblock : "/*".toList.isPrefixOf (asciiLowercase (c :: rest)) =
      "/*".toList.isPrefixOf (c :: rest) := isPrefixOf_asciiLowercase (by decide) _
  by_cases hquote : c = '"' ∨ c = '\''
  · have hsame : asciiLower c = c := by rcases hquote with rfl | rfl <;> rfl
    have hletter : isAsciiLetter c = false := by rcases hquote with rfl | rfl <;> rfl
    simp only [scriptStep, hsame, hquote, if_true, stringLength_asciiLowercase hletter]
  · simp only [scriptStep, hdouble, hsingle, hquote, if_false, hline, hblock,
      drop_asciiLowercase, ← asciiLowercase_cons, lineCommentLength_asciiLowercase, blockCommentLength_asciiLowercase]

theorem markupStep_asciiLowercase (c : Char) (rest : Text) :
    markupStep (asciiLower c) rest.asciiLowercase = markupStep c rest := by
  have hopen : tagCommentOpen.isPrefixOf (asciiLowercase (c :: rest)) =
      tagCommentOpen.isPrefixOf (c :: rest) := isPrefixOf_asciiLowercase (by decide) _
  simp only [markupStep, ← asciiLowercase_cons, hopen, tagCommentLength_asciiLowercase,
    startsWithIgnoringCase_asciiLowercase, tagLength_asciiLowercase]

/-- Each step of the lexer is the same on a lowered text. -/
theorem step_asciiLowercase (mode : LexMode) (c : Char) (rest : Text) :
    mode.step (asciiLower c) rest.asciiLowercase = mode.step c rest := by
  cases mode with
  | script => exact scriptStep_asciiLowercase script c rest
  | markup => exact markupStep_asciiLowercase c rest
  | block =>
    simp only [step, ← asciiLowercase_cons, startsWithIgnoringCase_asciiLowercase,
      scriptStep_asciiLowercase]

/-- The lexemes of a lowered text are the lowered lexemes of the text. -/
theorem lexemesWithin_asciiLowercase (bound : Nat) (mode : LexMode) (text : Text) :
    lexemesWithin bound mode text.asciiLowercase =
      (lexemesWithin bound mode text).map fun lexeme =>
        ⟨lexeme.comment, lexeme.text.asciiLowercase⟩ := by
  induction bound generalizing mode text with
  | zero => rfl
  | succ bound ih =>
    cases text with
    | nil => rfl
    | cons c rest =>
      rw [asciiLowercase_cons, lexemesWithin, step_asciiLowercase, ← asciiLowercase_cons,
        take_asciiLowercase, drop_asciiLowercase, ih, lexemesWithin, List.map_cons]

end LexMode

namespace Comment

theorem ofLexemes_asciiLowercase (offset : Nat) (lexemes : List Lexeme) :
    ofLexemes offset (lexemes.map fun lexeme => ⟨lexeme.comment, lexeme.text.asciiLowercase⟩) =
      ofLexemes offset lexemes := by
  induction lexemes generalizing offset with
  | nil => rfl
  | cons lexeme lexemes ih =>
    simp only [List.map_cons, ofLexemes, byteSize_asciiLowercase, ih]

/-- A document and its lowered form have the same comments. -/
@[simp] theorem findAll_asciiLowercase (dialect : Dialect) (text : Text) :
    findAll dialect text.asciiLowercase = findAll dialect text := by
  rw [findAll, LexMode.lexemes, length_asciiLowercase, LexMode.lexemesWithin_asciiLowercase,
    ofLexemes_asciiLowercase, findAll, LexMode.lexemes]

theorem blankFrom_asciiLowercase (offset : Nat) (comments : List Comment) (text : Text) :
    blankFrom offset comments text.asciiLowercase =
      asciiLowercase (blankFrom offset comments text) := by
  induction text generalizing offset comments with
  | nil => rfl
  | cons c rest ih =>
    have hfeed : (asciiLower c != '\n') = (c != '\n') :=
      caseBlind_of_letters (p := (· != '\n')) (by decide) c
    have hreturn : (asciiLower c != '\r') = (c != '\r') :=
      caseBlind_of_letters (p := (· != '\r')) (by decide) c
    simp only [asciiLowercase_cons, blankFrom, utf8Size_asciiLower, hfeed, hreturn, ih,
      apply_ite asciiLower]
    rfl

/-- Blanking the comments of a lowered text is lowering what is left. -/
@[simp] theorem blank_asciiLowercase (comments : List Comment) (text : Text) :
    blank comments text.asciiLowercase = asciiLowercase (blank comments text) :=
  blankFrom_asciiLowercase 0 comments text

end Comment

/-! ### Cursors -/

namespace Context

/-- The same cursor in the lowered document. -/
def asciiLowercase (context : Context) : Context :=
  { context with text := context.text.asciiLowercase }

/-- A cursor in a lowered document sees what it sees in the document, lowered. -/
theorem build_asciiLowercase (file : FileId) (dialect : Dialect) (component : Option Component)
    (raw : Text) (position : Position) :
    build file dialect component raw.asciiLowercase position =
      (build file dialect component raw position).asciiLowercase := by
  have hspan (text : Text) : text.asciiLowercase.spanAt = text.spanAt :=
    funext text.spanAt_asciiLowercase
  simp only [build, asciiLowercase, Comment.findAll_asciiLowercase, Comment.blank_asciiLowercase,
    offsetAt_asciiLowercase, wordRangeAt_asciiLowercase, hspan]

@[simp] theorem word_asciiLowercase (context : Context) :
    context.asciiLowercase.word = context.word.asciiLowercase :=
  slice_asciiLowercase context.text context.wordBytes

@[simp] theorem before_asciiLowercase (context : Context) :
    context.asciiLowercase.before = context.before.asciiLowercase :=
  slice_asciiLowercase context.text ⟨0, context.wordBytes.start⟩

@[simp] theorem behind_asciiLowercase (context : Context) :
    context.asciiLowercase.behind = context.behind.asciiLowercase := by
  simp only [behind, asciiLowercase, byteSize_asciiLowercase, slice_asciiLowercase]

@[simp] theorem isCall_asciiLowercase (context : Context) :
    context.asciiLowercase.isCall = context.isCall := by
  rw [isCall, behind_asciiLowercase, dropWhile_asciiLowercase caseBlind_isSpace,
    head?_asciiLowercase, map_asciiLower_beq_some rfl, isCall]

end Context

end CfmlNav
