import CfmlNav.Text.Position
import CfmlNav.Text.Word
import Mathlib.Data.List.Forall2

/-!
# Character boundaries

A place between two characters of a text is given by the part before it and the part behind it:
it is the byte offset `byteSize front` of the text `front ++ back`. At such a place everything
that is said in bytes can be said in characters. Its position is reached by stepping over the
characters before it (`positionAt_boundary`), and the position leads back to it
(`offsetAt_positionAt_boundary`); the offset of a position is always a boundary
(`exists_boundary_offsetAt`); and what lies between two boundaries is cut out exactly
(`slice_boundaries`).

Positions see nothing of a text but its length and its line feeds. So two texts of the same
layout have the same lines, and a position is that of the same character in both, although its
byte offsets may differ.
-/

namespace CfmlNav

/-! ### Stepping over characters -/

namespace Position

/-- The position behind a text that starts at `p`. -/
def afterAll (p : Position) (text : Text) : Position :=
  text.foldl after p

@[simp] theorem afterAll_nil (p : Position) : p.afterAll [] = p := rfl

@[simp] theorem afterAll_cons (p : Position) (c : Char) (text : Text) :
    p.afterAll (c :: text) = (p.after c).afterAll text := rfl

@[simp] theorem line_origin : origin.line = 0 := rfl

@[simp] theorem column_origin : origin.column = 0 := rfl

/-- Lines are counted from where the text starts; columns too, as long as its line lasts. -/
theorem afterAll_eq (p : Position) (text : Text) :
    p.afterAll text =
      if (origin.afterAll text).line = 0 then
        ⟨p.line, p.column + (origin.afterAll text).column⟩
      else ⟨p.line + (origin.afterAll text).line, (origin.afterAll text).column⟩ := by
  induction text generalizing p with
  | nil => simp
  | cons c text ih =>
    rw [afterAll_cons, afterAll_cons, ih, ih (origin.after c)]
    by_cases hc : c = '\n'
    · have hfeed (q : Position) : q.after c = ⟨q.line + 1, 0⟩ := if_pos hc
      by_cases hline : (origin.afterAll text).line = 0 <;>
        simp [hfeed, hline, Nat.add_assoc]
    · have hplain (q : Position) : q.after c = ⟨q.line, q.column + 1⟩ := if_neg hc
      by_cases hline : (origin.afterAll text).line = 0 <;>
        simp [hplain, hline, Nat.add_assoc]

end Position

namespace Text

open Position

/-! ### Bytes of a part -/

@[simp] theorem byteSize_eq_zero_iff {text : Text} : text.byteSize = 0 ↔ text = [] := by
  cases text with
  | nil => simp
  | cons c rest =>
    have hpos := c.utf8Size_pos
    simp only [byteSize_cons, reduceCtorEq, iff_false]
    omega

/-- A boundary is given by its offset: of two ways to cut a text at one offset both parts
agree. -/
theorem append_inj_of_byteSize {a b a' b' : Text} (h : a ++ b = a' ++ b')
    (hsize : a.byteSize = a'.byteSize) : a = a' ∧ b = b' := by
  have hsplit := splitAt?_append a b
  rw [h, hsize, splitAt?_append, Option.some_inj, Prod.mk.injEq] at hsplit
  exact ⟨hsplit.1.symm, hsplit.2.symm⟩

/-- Of two boundaries of a text, the one with the smaller offset comes first. -/
theorem exists_append_of_byteSize_le {a b a' b' : Text} (h : a ++ b = a' ++ b')
    (hsize : a.byteSize ≤ a'.byteSize) : ∃ between, a' = a ++ between ∧ b = between ++ b' := by
  rcases List.append_eq_append_iff.mp h with ⟨between, ha', hb⟩ | ⟨between, ha, hb'⟩
  · exact ⟨between, ha', hb⟩
  · have hnil : between = [] := by
      rw [ha, byteSize_append] at hsize
      exact byteSize_eq_zero_iff.mp (by omega)
    subst hnil
    exact ⟨[], by simpa using ha.symm, by simpa using hb'.symm⟩

@[simp] theorem drop?_boundary (front back : Text) :
    (front ++ back).drop? front.byteSize = some back := by
  rw [drop?_eq, splitAt?_append]
  rfl

/-- What lies between two boundaries is cut out exactly. -/
theorem slice?_boundaries (front part back : Text) :
    (front ++ part ++ back).slice? ⟨front.byteSize, front.byteSize + part.byteSize⟩ =
      some part := by
  rw [slice?, if_pos (Nat.le_add_right _ _), List.append_assoc, drop?_boundary,
    Nat.add_sub_cancel_left]
  simp [splitAt?_append]

theorem slice_boundaries (front part back : Text) :
    (front ++ part ++ back).slice ⟨front.byteSize, front.byteSize + part.byteSize⟩ = part := by
  rw [slice, slice?_boundaries]
  rfl

/-- What lies behind a boundary is cut out exactly. -/
theorem slice_boundary_end (front back : Text) :
    (front ++ back).slice ⟨front.byteSize, (front ++ back).byteSize⟩ = back := by
  have hslice := slice_boundaries front back []
  rwa [List.append_nil, ← byteSize_append] at hslice

/-! ### Positions -/

theorem positionFrom_boundary (here : Position) (front back : Text) :
    positionFrom here (front ++ back) front.byteSize = here.afterAll front := by
  induction front generalizing here with
  | nil => cases back <;> rfl
  | cons c front ih =>
    have hpos := c.utf8Size_pos
    have hzero : ¬ byteSize (c :: front) = 0 := by
      simp only [byteSize_cons]
      omega
    have hinside : ¬ byteSize (c :: front) < c.utf8Size := by simp
    rw [List.cons_append, positionFrom, if_neg hzero, if_neg hinside, byteSize_cons,
      Nat.add_sub_cancel_left, ih, afterAll_cons]

/-- The position of a boundary is reached by stepping over the characters before it. -/
theorem positionAt_boundary (front back : Text) :
    (front ++ back).positionAt front.byteSize = origin.afterAll front :=
  positionFrom_boundary origin front back

theorem offsetFrom_afterAll (front back : Text) :
    offsetFrom (front ++ back) (origin.afterAll front).line (origin.afterAll front).column =
      front.byteSize := by
  induction front with
  | nil => cases back <;> rfl
  | cons c front ih =>
    rw [List.cons_append, afterAll_cons, afterAll_eq]
    by_cases hc : c = '\n'
    · have hfeed : origin.after c = ⟨1, 0⟩ := if_pos hc
      -- the line feed is one of the lines to go down, whatever the line of the rest
      have hnext : (if (origin.afterAll front).line = 0 then
            (⟨1, 0 + (origin.afterAll front).column⟩ : Position)
          else ⟨1 + (origin.afterAll front).line, (origin.afterAll front).column⟩) =
          ⟨(origin.afterAll front).line + 1, (origin.afterAll front).column⟩ := by
        split
        next hline => rw [hline, Nat.zero_add]
        next => rw [Nat.add_comm]
      rw [hfeed, hnext, offsetFrom, if_pos hc, ih, byteSize_cons]
    · have hplain : origin.after c = ⟨0, 1⟩ := if_neg hc
      rw [hplain]
      cases hline : (origin.afterAll front).line with
      | zero =>
        rw [hline] at ih
        have hcolumn : columnOffset (front ++ back) (origin.afterAll front).column =
            byteSize front := by
          rw [← ih]
          cases front ++ back <;> rfl
        rw [if_pos rfl, offsetFrom, Nat.add_comm 1, columnOffset, if_neg hc, hcolumn,
          byteSize_cons]
      | succ line =>
        rw [hline] at ih
        rw [if_neg (Nat.succ_ne_zero line), Nat.zero_add, offsetFrom, if_neg hc, ih, byteSize_cons]

/-- The position of a boundary leads back to it. -/
theorem offsetAt_positionAt_boundary (front back : Text) :
    (front ++ back).offsetAt ((front ++ back).positionAt front.byteSize) = front.byteSize := by
  rw [positionAt_boundary]
  exact offsetFrom_afterAll front back

/-! ### Texts of the same layout -/

/-- Two texts have the same layout if they have equally many characters and the same of them
are line feeds. -/
def SameLayout (text other : Text) : Prop :=
  List.Forall₂ (fun c d => c = '\n' ↔ d = '\n') text other

theorem SameLayout.refl (text : Text) : SameLayout text text :=
  List.forall₂_same.mpr fun _ _ => Iff.rfl

namespace SameLayout

variable {text other : Text}

theorem lineCount_eq (h : SameLayout text other) : other.lineCount = text.lineCount := by
  have hcount : other.count '\n' = text.count '\n' := by
    induction h with
    | nil => rfl
    | cons hfeed _ ih => simp only [List.count_cons, ih, beq_iff_eq, hfeed]
  rw [lineCount, lineCount, hcount]

theorem afterAll_eq (h : SameLayout text other) (p : Position) :
    p.afterAll other = p.afterAll text := by
  induction h generalizing p with
  | nil => rfl
  | cons hfeed _ ih => rw [afterAll_cons, afterAll_cons, ih, after, after]; simp only [hfeed]

/-- A character has the same position in both texts. -/
theorem positionAt_take_eq (h : SameLayout text other) (k : Nat) :
    other.positionAt (byteSize (other.take k)) = text.positionAt (byteSize (text.take k)) := by
  have hposition (t : Text) : t.positionAt (byteSize (t.take k)) = origin.afterAll (t.take k) := by
    have hsplit := positionAt_boundary (t.take k) (t.drop k)
    rwa [List.take_append_drop] at hsplit
  have htake : SameLayout (text.take k) (other.take k) := List.forall₂_take k h
  rw [hposition, hposition, htake.afterAll_eq]

/-- Boundaries behind equally many characters have the same position. -/
theorem positionAt_boundary_eq {front back front' back' : Text} (h : SameLayout text other)
    (htext : text = front ++ back) (hother : other = front' ++ back')
    (hlength : front'.length = front.length) :
    other.positionAt front'.byteSize = text.positionAt front.byteSize := by
  have hposition := h.positionAt_take_eq front.length
  have hfront : text.take front.length = front := by rw [htext, List.take_left]
  have hfront' : other.take front.length = front' := by rw [hother, ← hlength, List.take_left]
  rwa [hfront, hfront'] at hposition

/-- Boundaries behind equally many characters are the offsets of one position. -/
theorem exists_position_of_boundary {front back front' back' : Text} (h : SameLayout text other)
    (htext : text = front ++ back) (hother : other = front' ++ back')
    (hlength : front'.length = front.length) :
    ∃ position, text.offsetAt position = front.byteSize ∧
      other.offsetAt position = front'.byteSize := by
  refine ⟨text.positionAt front.byteSize, ?_, ?_⟩
  · rw [htext, offsetAt_positionAt_boundary]
  · rw [← h.positionAt_boundary_eq htext hother hlength, hother, offsetAt_positionAt_boundary]

theorem exists_columnOffset_eq (h : SameLayout text other) (column : Nat) :
    ∃ k ≤ text.length, columnOffset text column = byteSize (text.take k) ∧
      columnOffset other column = byteSize (other.take k) := by
  induction h generalizing column with
  | nil => exact ⟨0, Nat.le_refl 0, rfl, rfl⟩
  | @cons c d text other hfeed _ ih =>
    cases column with
    | zero => exact ⟨0, Nat.zero_le _, rfl, rfl⟩
    | succ column =>
      by_cases hc : c = '\n'
      · refine ⟨0, Nat.zero_le _, ?_, ?_⟩
        · rw [columnOffset, if_pos hc]
          rfl
        · rw [columnOffset, if_pos (hfeed.mp hc)]
          rfl
      · obtain ⟨k, hk, htext, hother⟩ := ih column
        refine ⟨k + 1, Nat.succ_le_succ hk, ?_, ?_⟩
        · rw [columnOffset, if_neg hc, htext, List.take_succ_cons, byteSize_cons]
        · rw [columnOffset, if_neg (hc ∘ hfeed.mpr), hother, List.take_succ_cons, byteSize_cons]

theorem exists_offsetFrom_eq (h : SameLayout text other) (line column : Nat) :
    ∃ k ≤ text.length, offsetFrom text line column = byteSize (text.take k) ∧
      offsetFrom other line column = byteSize (other.take k) := by
  induction h generalizing line with
  | nil =>
    cases line with
    | zero => exact ⟨0, Nat.le_refl 0, rfl, rfl⟩
    | succ line => exact ⟨0, Nat.le_refl 0, rfl, rfl⟩
  | @cons c d text other hfeed htail ih =>
    cases line with
    | zero => exact exists_columnOffset_eq (.cons hfeed htail) column
    | succ line =>
      obtain ⟨k, hk, htext, hother⟩ := ih (if c = '\n' then line else line + 1)
      refine ⟨k + 1, Nat.succ_le_succ hk, ?_, ?_⟩
      · rw [offsetFrom, htext, List.take_succ_cons, byteSize_cons]
      · simp only [hfeed] at hother
        rw [offsetFrom, hother, List.take_succ_cons, byteSize_cons]

/-- A position is that of the same character in both texts. -/
theorem exists_offsetAt_eq (h : SameLayout text other) (position : Position) :
    ∃ k ≤ text.length, text.offsetAt position = byteSize (text.take k) ∧
      other.offsetAt position = byteSize (other.take k) :=
  h.exists_offsetFrom_eq position.line position.column

end SameLayout

/-- The offset of a position is a boundary. -/
theorem exists_boundary_offsetAt (text : Text) (position : Position) :
    ∃ front back, text = front ++ back ∧ text.offsetAt position = front.byteSize := by
  obtain ⟨k, -, hoffset, -⟩ := (SameLayout.refl text).exists_offsetAt_eq position
  exact ⟨text.take k, text.drop k, (List.take_append_drop k text).symm, hoffset⟩

end Text

end CfmlNav
