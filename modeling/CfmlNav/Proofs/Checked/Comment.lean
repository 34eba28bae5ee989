import CfmlNav.Proofs.Checked.Text
import CfmlNav.Proofs.Comment.Blanking

/-!
# Comments with every step checked

The lexer counts how many markup comments are open, and closing a comment takes one off. Here it is
checked that there is one to take off, and that the lexer comes to the end of the text in as many
steps as the text has characters. Both checks always pass, since a markup comment is only ever
entered at its opening delimiter: the comments found are those of the document
(`findAllChecked_eq`).
-/

namespace CfmlNav

open Text

namespace Text

/-- The length of a markup comment, where each closing delimiter takes one off the number of open
comments. -/
def tagCommentLengthChecked : (skip depth : Nat) → Text → Option Nat
  | _, _, [] => some 0
  | skip + 1, depth, _ :: rest => (tagCommentLengthChecked skip depth rest).map (1 + ·)
  | 0, depth, c :: rest =>
    if tagCommentOpen.isPrefixOf (c :: rest) then
      (tagCommentLengthChecked 4 (depth + 1) rest).map (1 + ·)
    else if tagCommentClose.isPrefixOf (c :: rest) then do
      let depth ← subtract? depth 1
      if depth = 0 then return 4 else (tagCommentLengthChecked 3 depth rest).map (1 + ·)
    else (tagCommentLengthChecked 0 depth rest).map (1 + ·)

/-- Inside a comment there is always one to close. -/
theorem tagCommentLengthChecked_eq {depth : Nat} (hdepth : 0 < depth) (skip : Nat) (text : Text) :
    tagCommentLengthChecked skip depth text = some (tagCommentLength skip depth text) := by
  induction text generalizing skip depth with
  | nil => cases skip <;> rfl
  | cons c rest ih =>
    cases skip with
    | succ skip => rw [tagCommentLengthChecked, tagCommentLength, ih hdepth, Option.map_some]
    | zero =>
      rw [tagCommentLengthChecked, tagCommentLength]
      split
      next => rw [ih (Nat.succ_pos depth), Option.map_some]
      next =>
        split
        next =>
          rw [subtract?_eq hdepth, Option.bind_eq_bind, Option.bind_some]
          by_cases hlast : depth ≤ 1
          · rw [if_pos hlast, if_pos (by omega)]
            rfl
          · rw [if_neg hlast, if_neg (by omega), ih (by omega), Option.map_some]
        next => rw [ih hdepth, Option.map_some]

/-- Blanking makes no text longer. -/
theorem Blanks.byteSize_le {text blanked : Text} (h : Blanks text blanked) :
    blanked.byteSize ≤ text.byteSize := by
  induction h with
  | nil => exact Nat.le_refl 0
  | @cons c d text blanked hcd _ ih =>
    have hsize : d.utf8Size ≤ c.utf8Size := by
      rcases hcd with rfl | ⟨rfl, -⟩
      · exact Nat.le_refl _
      · exact c.utf8Size_pos
    rw [byteSize_cons, byteSize_cons]
    omega

end Text

namespace LexMode

/-- A step of markup with the number of open comments checked. -/
def markupStepChecked (c : Char) (rest : Text) : Option LexStep :=
  if tagCommentOpen.isPrefixOf (c :: rest) then do
    return ⟨some .tag, ← tagCommentLengthChecked 0 0 (c :: rest), .markup⟩
  else some (markupStep c rest)

/-- A step of the lexer with the number of open comments checked. -/
def stepChecked (mode : LexMode) (c : Char) (rest : Text) : Option LexStep :=
  match mode with
  | markup => markupStepChecked c rest
  | script => some (script.step c rest)
  | block => some (block.step c rest)

/-- The lexemes of a text, if at most `bound` steps come to its end. -/
def lexemesWithinChecked : (bound : Nat) → LexMode → Text → Option (List Lexeme)
  | _, _, [] => some []
  | 0, _, _ :: _ => none
  | bound + 1, mode, c :: rest => do
    let taken ← mode.stepChecked c rest
    let later ← lexemesWithinChecked bound taken.mode ((c :: rest).drop taken.length)
    return ⟨taken.comment, (c :: rest).take taken.length⟩ :: later

/-- A markup comment starts with a delimiter that opens it. -/
theorem stepChecked_eq (mode : LexMode) (c : Char) (rest : Text) :
    mode.stepChecked c rest = some (mode.step c rest) := by
  cases mode with
  | script => rfl
  | block => rfl
  | markup =>
    rw [stepChecked, markupStepChecked, step, markupStep]
    split
    next hopen =>
      have hentered : tagCommentLengthChecked 0 0 (c :: rest) =
          some (tagCommentLength 0 0 (c :: rest)) := by
        rw [tagCommentLengthChecked, tagCommentLength, if_pos hopen, if_pos hopen,
          tagCommentLengthChecked_eq (Nat.succ_pos 0), Option.map_some]
      rw [hentered]
      rfl
    next => rfl

theorem lexemesWithinChecked_eq {bound : Nat} {mode : LexMode} {text : Text}
    (h : text.length ≤ bound) :
    lexemesWithinChecked bound mode text = some (lexemesWithin bound mode text) := by
  induction bound generalizing mode text with
  | zero =>
    obtain rfl := List.eq_nil_of_length_eq_zero (Nat.le_zero.mp h)
    rfl
  | succ bound ih =>
    rcases text with _ | ⟨c, rest⟩
    · rfl
    · have hpos := step_length_pos mode c rest
      have hdrop : ((c :: rest).drop (mode.step c rest).length).length ≤ bound := by
        rw [List.length_drop]
        omega
      rw [lexemesWithinChecked, stepChecked_eq, Option.bind_eq_bind, Option.bind_some, ih hdrop]
      rfl

end LexMode

namespace Comment

/-- The comments of a document with every step checked. -/
def findAllChecked (dialect : Dialect) (text : Text) : Option (List Comment) := do
  return ofLexemes 0 (← LexMode.lexemesWithinChecked text.length dialect.startMode text)

theorem findAllChecked_eq (dialect : Dialect) (text : Text) :
    findAllChecked dialect text = some (findAll dialect text) := by
  rw [findAllChecked, LexMode.lexemesWithinChecked_eq (Nat.le_refl _)]
  rfl

/-- What is left of a document whose size fits has a size that fits. -/
theorem byteSize_strip_lt {text : Text} (h : text.byteSize < UInt32.size) (dialect : Dialect) :
    (strip dialect text).byteSize < UInt32.size :=
  Nat.lt_of_le_of_lt (blanks_blankFrom 0 _ text).byteSize_le h

end Comment

end CfmlNav
