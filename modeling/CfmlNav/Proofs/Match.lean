import CfmlNav.Proofs.Pattern.Capture
import CfmlNav.Proofs.Text.Part

/-!
# Matches stay in their text

A match reports byte ranges, and what they are good for is that they can be cut out: each is a part
of the text that was searched, between two character boundaries, and lies within the match. This is
what `Match.StaysIn` says. For a pattern it follows from the fit that a match comes from
(`Pattern.staysIn_of_mem_findAll`).
-/

namespace CfmlNav

open Text

/-! ### Cursors -/

/-- A cursor at a place of a text. -/
def Cursor.StandsIn (cursor : Cursor) (text : Text) : Prop :=
  ∃ front back, text = front ++ back ∧ cursor = .between front back

namespace Cursor.StandsIn

variable {text : Text} {cursor : Cursor}

theorem isBoundary (h : cursor.StandsIn text) : text.IsBoundary cursor.offset := by
  obtain ⟨front, back, htext, rfl⟩ := h
  exact ⟨front, back, htext, rfl⟩

theorem start (text : Text) : (Cursor.start text).StandsIn text :=
  ⟨[], text, rfl, rfl⟩

theorem advance {c : Char} {rest : Text} (h : cursor.StandsIn text)
    (hrest : cursor.rest = c :: rest) :
    (cursor.advance c rest).StandsIn text := by
  obtain ⟨front, back, htext, rfl⟩ := h
  obtain rfl : back = c :: rest := hrest
  exact ⟨front ++ [c], rest, by simpa using htext, Cursor.advance_between front c rest⟩

end Cursor.StandsIn

/-! ### Matches -/

/-- A match of a text: it ends at a place of the text, and each part that it reports is one of the
text and lies between the ends of the match. -/
structure Match.StaysIn (found : Match) (text : Text) : Prop where
  after : found.after.StandsIn text
  start_le : found.start ≤ found.after.offset
  captured : ∀ capture ∈ found.captures, capture.range.IsPartOf text ∧
    found.start ≤ capture.range.start ∧ capture.range.stop ≤ found.after.offset

theorem Match.StaysIn.of_capture? {found : Match} {text name : Text} {range : ByteRange}
    (h : found.StaysIn text) (hrange : found.capture? name = some range) :
    range.IsPartOf text ∧ found.start ≤ range.start ∧ range.stop ≤ found.after.offset := by
  obtain ⟨capture, hfind, rfl⟩ := Option.map_eq_some_iff.mp hrange
  exact h.captured capture (List.mem_of_find?_eq_some hfind)

theorem Pattern.staysIn_of_mem_findAll {p : Pattern} {text : Text} {found : Match}
    (h : found ∈ p.findAll text) : found.StaysIn text := by
  obtain ⟨front, taken, behind, hstands⟩ := standsIn_of_mem_findAll h
  have htext : text = (front ++ taken) ++ behind := by simpa using hstands.text_eq
  refine ⟨⟨front ++ taken, behind, htext, hstands.after_eq⟩, ?_, ?_⟩
  · rw [hstands.start_eq, hstands.after_eq, Cursor.between]
    simp
  · intro capture hmem
    obtain ⟨_, _, lead, part, rest, _, rfl, hrange, _⟩ :=
      exists_part_of_mem_captures hstands.fits hmem
    rw [hrange, hstands.start_eq, hstands.after_eq, Cursor.between]
    refine ⟨⟨front ++ lead, part, rest ++ behind, by simpa using hstands.text_eq, ?_⟩, ?_, ?_⟩
    · rw [byteSize_append (front ++ lead) part]
    · simp
    · simp only [byteSize_append]
      omega

end CfmlNav
