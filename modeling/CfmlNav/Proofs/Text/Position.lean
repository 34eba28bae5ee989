import CfmlNav.Proofs.Checked.Text
import Mathlib.Order.Bounds.Basic

/-!
# The positions of a text

A text has the positions of its lines, on each line from the first column to the one behind the
last character. These are the positions of its boundaries (`hasPosition_iff_exists_boundary`), so
among them offsets and positions determine each other. Any other position stands for the last one
of the text before it. This is where all clamping comes from, and it follows from one fact: a
boundary is at or before the offset of a position if and only if its own position is at or before
that position (`le_offsetAt_iff`).

Both facts go along the characters of the text. A position is handed from a text to what follows
its first character by counting it from there (`Position.since`). What is shown for the conversions
that go along the text then holds for those by a table of line starts, as both give the same results
(`positionAtChecked_eq`, `offsetAtChecked_eq`).
-/

namespace CfmlNav

/-! ### Counting from behind a character -/

namespace Position

/-- A position behind the first character of a text, counted from behind that character. -/
def since (p : Position) (c : Char) : Position :=
  if c = '\n' then ⟨p.line - 1, p.column⟩
  else if p.line = 0 then ⟨0, p.column - 1⟩ else p

theorem since_lineFeed (p : Position) : p.since '\n' = ⟨p.line - 1, p.column⟩ := rfl

theorem since_of_ne {c : Char} (hc : c ≠ '\n') (p : Position) :
    p.since c = if p.line = 0 then ⟨0, p.column - 1⟩ else p := if_neg hc

theorem origin_le (p : Position) : origin ≤ p := by
  rw [le_def, line_origin, column_origin]
  omega

theorem after_origin_lineFeed : origin.after '\n' = ⟨1, 0⟩ := rfl

theorem after_origin_of_ne {c : Char} (hc : c ≠ '\n') : origin.after c = ⟨0, 1⟩ := if_neg hc

/-- A position is at or behind the end of a text if it is behind the first character and, counted
from there, at or behind the end of the rest. -/
theorem afterAll_cons_le_iff {c : Char} {rest : Text} {p : Position} :
    origin.afterAll (c :: rest) ≤ p ↔ origin.after c ≤ p ∧ origin.afterAll rest ≤ p.since c := by
  rw [afterAll_cons, afterAll_eq]
  by_cases hc : c = '\n'
  · subst hc
    rw [after_origin_lineFeed, since_lineFeed]
    split <;> simp only [le_def] <;> omega
  · rw [after_origin_of_ne hc, since_of_ne hc]
    split <;> split <;> simp only [le_def] <;> omega

theorem afterAll_cons_eq_iff {c : Char} {rest : Text} {p : Position} :
    origin.afterAll (c :: rest) = p ↔ origin.after c ≤ p ∧ origin.afterAll rest = p.since c := by
  rw [afterAll_cons, afterAll_eq]
  rcases p with ⟨line, column⟩
  rcases origin.afterAll rest with ⟨line', column'⟩
  by_cases hc : c = '\n'
  · subst hc
    rw [after_origin_lineFeed, since_lineFeed]
    dsimp only
    split <;> simp only [le_def, mk.injEq] <;> omega
  · rw [after_origin_of_ne hc, since_of_ne hc]
    dsimp only
    split <;> split <;> simp only [le_def, mk.injEq] <;> omega

end Position

namespace Text

open Position

variable {text front back rest : Text} {c : Char} {offset : Nat} {position : Position}

/-! ### Offsets of positions -/

/-- The offset of a position behind the first character is that of the rest; any other position
stands for the start of the text. -/
theorem offsetAt_cons (c : Char) (rest : Text) (position : Position) :
    offsetAt (c :: rest) position =
      if origin.after c ≤ position then c.utf8Size + rest.offsetAt (position.since c) else 0 := by
  rcases position with ⟨line, column⟩
  by_cases hc : c = '\n'
  · subst hc
    rw [after_origin_lineFeed, since_lineFeed, offsetAt, offsetAt]
    cases line with
    | zero => cases column <;> rfl
    | succ line => simp [offsetFrom, le_def]
  · rw [after_origin_of_ne hc, since_of_ne hc, offsetAt, offsetAt]
    cases line with
    | zero =>
      have hline (column : Nat) : offsetFrom rest 0 column = columnOffset rest column := by
        cases rest <;> rfl
      cases column with
      | zero => rfl
      | succ column => simp [offsetFrom, columnOffset, hc, hline, le_def]
    | succ line => simp [offsetFrom, hc, le_def]

theorem byteSize_le_offsetAt_iff (front back : Text) (position : Position) :
    front.byteSize ≤ (front ++ back).offsetAt position ↔ origin.afterAll front ≤ position := by
  induction front generalizing position with
  | nil => exact iff_of_true (Nat.zero_le _) (origin_le position)
  | cons c front ih =>
    have hpos := c.utf8Size_pos
    rw [List.cons_append, offsetAt_cons, afterAll_cons_le_iff, byteSize_cons]
    split
    next hbehind => rw [Nat.add_le_add_iff_left, ih, and_iff_right hbehind]
    next hbefore => exact iff_of_false (by omega) fun h => hbefore h.1

/-- A boundary is at or before the offset of a position if and only if its own position is at or
before that position. -/
theorem IsBoundary.le_offsetAt_iff (h : text.IsBoundary offset) :
    offset ≤ text.offsetAt position ↔ text.positionAt offset ≤ position := by
  obtain ⟨front, back, rfl, rfl⟩ := h
  rw [byteSize_le_offsetAt_iff, positionAt_boundary]

theorem IsBoundary.offsetAt_positionAt (h : text.IsBoundary offset) :
    text.offsetAt (text.positionAt offset) = offset := by
  obtain ⟨front, back, rfl, rfl⟩ := h
  exact offsetAt_positionAt_boundary front back

/-! ### Positions of a text -/

/-- Whether a text has a position: there is such a line, and the column is not behind its end. -/
def HasPosition (text : Text) (position : Position) : Prop :=
  ∃ line ∈ (text.splitOn '\n')[position.line]?, position.column ≤ line.length

instance (text : Text) (position : Position) : Decidable (text.HasPosition position) :=
  Option.decidableExistsMem _

theorem hasPosition_nil : HasPosition [] position ↔ position = origin := by
  rcases position with ⟨_ | line, column⟩ <;> simp [HasPosition, origin]

/-- The start apart, the positions of a text are those of what follows its first character. -/
theorem hasPosition_cons : HasPosition (c :: rest) position ↔
    position = origin ∨ origin.after c ≤ position ∧ rest.HasPosition (position.since c) := by
  rcases position with ⟨line, column⟩
  rw [HasPosition, HasPosition, List.splitOn_cons_eq_if_modifyHead]
  by_cases hc : c = '\n'
  · subst hc
    rw [after_origin_lineFeed, since_lineFeed]
    cases line with
    | zero => simp [origin, le_def]
    | succ line => simp [origin, le_def, Nat.pos_iff_ne_zero, ne_or_eq]
  · obtain ⟨first, later, hlines⟩ := List.exists_cons_of_ne_nil (List.splitOn_ne_nil '\n' rest)
    rw [after_origin_of_ne hc, since_of_ne hc, hlines]
    cases line with
    | zero => cases column <;> simp [hc, origin, le_def]
    | succ line => simp [hc, origin, le_def]

/-- A text has the positions that are reached by stepping over its characters from the start. -/
theorem hasPosition_iff_exists_afterAll : text.HasPosition position ↔
    ∃ front back, text = front ++ back ∧ origin.afterAll front = position := by
  induction text generalizing position with
  | nil => simp [hasPosition_nil, eq_comm]
  | cons c rest ih =>
    rw [hasPosition_cons, ih]
    constructor
    · rintro (rfl | ⟨hbehind, front, back, rfl, hend⟩)
      · exact ⟨[], c :: rest, rfl, rfl⟩
      · exact ⟨c :: front, back, rfl, afterAll_cons_eq_iff.mpr ⟨hbehind, hend⟩⟩
    · rintro ⟨_ | ⟨d, front⟩, back, htext, hend⟩
      · exact .inl hend.symm
      · obtain ⟨rfl, rfl⟩ := List.cons.inj htext
        obtain ⟨hbehind, hrest⟩ := afterAll_cons_eq_iff.mp hend
        exact .inr ⟨hbehind, front, back, rfl, hrest⟩

theorem hasPosition_iff_exists_boundary : text.HasPosition position ↔
    ∃ offset, text.IsBoundary offset ∧ text.positionAt offset = position := by
  rw [hasPosition_iff_exists_afterAll]
  constructor
  · rintro ⟨front, back, rfl, rfl⟩
    exact ⟨front.byteSize, ⟨front, back, rfl, rfl⟩, positionAt_boundary front back⟩
  · rintro ⟨_, ⟨front, back, rfl, rfl⟩, rfl⟩
    exact ⟨front, back, rfl, (positionAt_boundary front back).symm⟩

/-! ### Main result -/

/-- **Positions and offsets are inverse to each other, clamped.** Along the boundaries of a text
positions increase strictly, and they lead back to the boundaries. Every position has the offset of
a boundary, whose position is the last one of the text at or before it; so the offsets of positions
come in the order of the positions, and exactly the positions of the text are reached again. In a
text of less than 2³² bytes these are the results of the conversions by the table of its lines. -/
theorem positions_and_offsets_inverse (text : Text) :
    StrictMonoOn text.positionAt {offset | text.IsBoundary offset} ∧
    (∀ offset, text.IsBoundary offset → text.offsetAt (text.positionAt offset) = offset) ∧
    (∀ position, text.IsBoundary (text.offsetAt position) ∧
      IsGreatest {q | text.HasPosition q ∧ q ≤ position}
        (text.positionAt (text.offsetAt position))) ∧
    Monotone text.offsetAt ∧
    (∀ position, text.positionAt (text.offsetAt position) = position ↔
      text.HasPosition position) ∧
    (text.byteSize < UInt32.size →
      (∀ offset, text.IsBoundary offset →
        positionAtChecked text.lineStarts text offset = some (text.positionAt offset)) ∧
      ∀ position,
        offsetAtChecked text.lineStarts text position = some (text.offsetAt position)) := by
  have hreached (position : Position) : text.positionAt (text.offsetAt position) ≤ position :=
    (text.isBoundary_offsetAt position).le_offsetAt_iff.mp le_rfl
  refine ⟨?_, fun offset h => h.offsetAt_positionAt, ?_, ?_, ?_, ?_⟩
  · intro offset h offset' h' hlt
    rwa [← not_le, h'.positionAt_le_iff h, not_le]
  · intro position
    have hboundary := text.isBoundary_offsetAt position
    refine ⟨hboundary, ⟨hasPosition_iff_exists_boundary.mpr ⟨_, hboundary, rfl⟩,
      hreached position⟩, ?_⟩
    rintro q ⟨hq, hle⟩
    obtain ⟨offset, h, rfl⟩ := hasPosition_iff_exists_boundary.mp hq
    exact (h.positionAt_le_iff hboundary).mpr (h.le_offsetAt_iff.mpr hle)
  · intro p q hle
    exact (text.isBoundary_offsetAt p).le_offsetAt_iff.mpr (le_trans (hreached p) hle)
  · intro position
    constructor
    · intro hsame
      exact hasPosition_iff_exists_boundary.mpr ⟨_, text.isBoundary_offsetAt position, hsame⟩
    · intro hposition
      obtain ⟨offset, h, rfl⟩ := hasPosition_iff_exists_boundary.mp hposition
      rw [h.offsetAt_positionAt]
  · intro hsize
    exact ⟨fun offset h => positionAtChecked_eq hsize h, offsetAtChecked_eq hsize⟩

/-- A line that starts with a character of two bytes and ends in a return, before an empty line. The
end of the first line is before its line feed and behind the return. -/
theorem positions_and_offsets_inverse_line_end :
    let text : Text := "é\r\n\nab".toList
    text.IsBoundary 2 ∧ text.IsBoundary 4 ∧ text.positionAt 2 < text.positionAt 4 ∧
      text.offsetAt (text.positionAt 4) = 4 ∧
      IsGreatest {q | text.HasPosition q ∧ q ≤ ⟨0, 9⟩} ⟨0, 2⟩ ∧
      text.offsetAt ⟨0, 9⟩ ≤ text.offsetAt ⟨2, 1⟩ ∧
      text.positionAt (text.offsetAt ⟨2, 1⟩) = ⟨2, 1⟩ ∧
      text.byteSize < UInt32.size ∧
      positionAtChecked text.lineStarts text 4 = some (text.positionAt 4) ∧
      offsetAtChecked text.lineStarts text ⟨0, 9⟩ = some (text.offsetAt ⟨0, 9⟩) := by
  intro text
  have h : text.IsBoundary 2 := ⟨"é".toList, "\r\n\nab".toList, rfl, rfl⟩
  have h' : text.IsBoundary 4 := ⟨"é\r\n".toList, "\nab".toList, rfl, rfl⟩
  have hsize : text.byteSize < UInt32.size := by decide
  obtain ⟨hincreasing, hback, hclamped, hmonotone, hfixed, htable⟩ :=
    positions_and_offsets_inverse text
  exact ⟨h, h', hincreasing h h' (by decide), hback 4 h', (hclamped ⟨0, 9⟩).2,
    hmonotone (by decide), (hfixed ⟨2, 1⟩).mpr (by decide), hsize, (htable hsize).1 4 h',
    (htable hsize).2 ⟨0, 9⟩⟩

end Text

end CfmlNav
