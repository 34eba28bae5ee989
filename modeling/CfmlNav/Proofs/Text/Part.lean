import CfmlNav.Proofs.Text.Order

/-!
# Boundaries and parts of a text

Boundaries are handed around as byte offsets and parts as byte ranges, without the texts that they
cut off. `Text.IsBoundary` and `ByteRange.IsPartOf` say of such an offset and such a range that
there are such texts. Between boundaries everything goes as it should: two of them in order are the
ends of a part, a part can be cut out, and boundaries have their positions in the order of their
offsets (`Text.IsBoundary.positionAt_le_iff`).
-/

namespace CfmlNav

open Text

/-- Whether a byte offset is a character boundary of a text. -/
def Text.IsBoundary (text : Text) (offset : Nat) : Prop :=
  ∃ front back, text = front ++ back ∧ offset = front.byteSize

/-- Whether a byte range cuts a part out of a text. -/
def ByteRange.IsPartOf (range : ByteRange) (text : Text) : Prop :=
  ∃ front part behind, text = front ++ (part ++ behind) ∧
    range = ⟨front.byteSize, byteSize (front ++ part)⟩

theorem Text.isBoundary_zero (text : Text) : text.IsBoundary 0 :=
  ⟨[], text, rfl, rfl⟩

theorem Text.isBoundary_byteSize (text : Text) : text.IsBoundary text.byteSize :=
  ⟨text, [], text.append_nil.symm, rfl⟩

theorem Text.IsBoundary.le_byteSize {text : Text} {offset : Nat} (h : text.IsBoundary offset) :
    offset ≤ text.byteSize := by
  obtain ⟨front, back, rfl, rfl⟩ := h
  simp

/-! ### Parts -/

/-- Two boundaries in order are the ends of a part. -/
theorem Text.IsBoundary.isPartOf {text : Text} {start stop : Nat} (hstart : text.IsBoundary start)
    (hstop : text.IsBoundary stop) (hle : start ≤ stop) :
    ByteRange.IsPartOf ⟨start, stop⟩ text := by
  obtain ⟨front, back, htext, rfl⟩ := hstart
  obtain ⟨upTo, behind, htext', rfl⟩ := hstop
  obtain ⟨part, rfl, rfl⟩ := exists_append_of_byteSize_le (htext.symm.trans htext') hle
  exact ⟨front, part, behind, htext, rfl⟩

theorem ByteRange.IsPartOf.isBoundary {text : Text} {range : ByteRange} (h : range.IsPartOf text) :
    text.IsBoundary range.start ∧ text.IsBoundary range.stop := by
  obtain ⟨front, part, behind, rfl, rfl⟩ := h
  exact ⟨⟨front, part ++ behind, rfl, rfl⟩, ⟨front ++ part, behind, by simp, rfl⟩⟩

/-- A text is cut in two exactly at its boundaries. -/
theorem Text.splitAt?_eq_some_iff {text front back : Text} {offset : Nat} :
    text.splitAt? offset = some (front, back) ↔ text = front ++ back ∧ offset = front.byteSize := by
  constructor
  · intro h
    fun_induction splitAt? text offset generalizing front with
    | case1 text =>
      obtain ⟨rfl, rfl⟩ := Prod.mk.inj (Option.some.inj h)
      exact ⟨rfl, rfl⟩
    | case2 => simp at h
    | case3 c rest offset hle ih =>
      obtain ⟨⟨front', back'⟩, hrest, heq⟩ := Option.map_eq_some_iff.mp h
      obtain ⟨rfl, rfl⟩ := Prod.mk.inj heq
      obtain ⟨rfl, hoffset⟩ := ih hrest
      refine ⟨rfl, ?_⟩
      simp only [byteSize_cons]
      omega
    | case4 => simp at h
  · rintro ⟨rfl, rfl⟩
    exact splitAt?_append front back

theorem Text.drop?_eq_some_iff {text back : Text} {offset : Nat} :
    text.drop? offset = some back ↔ ∃ front, text = front ++ back ∧ offset = front.byteSize := by
  rw [drop?_eq, Option.map_eq_some_iff]
  constructor
  · rintro ⟨⟨front, back⟩, h, rfl⟩
    exact ⟨front, splitAt?_eq_some_iff.mp h⟩
  · rintro ⟨front, h⟩
    exact ⟨(front, back), splitAt?_eq_some_iff.mpr h, rfl⟩

/-- What can be cut out of a text is a part of it. -/
theorem Text.slice?_eq_some_iff {text part : Text} {range : ByteRange} :
    text.slice? range = some part ↔ ∃ front behind, text = front ++ (part ++ behind) ∧
      range = ⟨front.byteSize, byteSize (front ++ part)⟩ := by
  constructor
  · intro h
    rw [slice?] at h
    split at h
    next hle =>
      obtain ⟨rest, hdrop, hpart⟩ := Option.bind_eq_some_iff.mp h
      obtain ⟨⟨first, behind⟩, hsplit, hfirst⟩ := Option.bind_eq_some_iff.mp hpart
      obtain rfl : first = part := Option.some.inj hfirst
      obtain ⟨front, rfl, hstart⟩ := drop?_eq_some_iff.mp hdrop
      obtain ⟨rfl, hsize⟩ := splitAt?_eq_some_iff.mp hsplit
      refine ⟨front, behind, rfl, ?_⟩
      rcases range with ⟨start, stop⟩
      rw [ByteRange.mk.injEq, byteSize_append]
      dsimp only at hle hstart hsize
      omega
    next => simp at h
  · rintro ⟨front, behind, rfl, rfl⟩
    rw [byteSize_append, ← List.append_assoc]
    exact slice?_boundaries front part behind

theorem ByteRange.isPartOf_iff {text : Text} {range : ByteRange} :
    range.IsPartOf text ↔ (text.slice? range).isSome := by
  rw [Option.isSome_iff_exists]
  constructor
  · rintro ⟨front, part, behind, h⟩
    exact ⟨part, slice?_eq_some_iff.mpr ⟨front, behind, h⟩⟩
  · rintro ⟨part, h⟩
    obtain ⟨front, behind, h⟩ := slice?_eq_some_iff.mp h
    exact ⟨front, part, behind, h⟩

theorem ByteRange.IsPartOf.slice?_eq {text : Text} {range : ByteRange} (h : range.IsPartOf text) :
    text.slice? range = some (text.slice range) := by
  obtain ⟨part, hpart⟩ := Option.isSome_iff_exists.mp (ByteRange.isPartOf_iff.mp h)
  rw [slice, hpart, Option.getD_some]

/-! ### Positions -/

namespace Text

variable {text other : Text} {offset offset' : Nat} {position : Position}

/-- Boundaries have their positions in the order of their offsets. -/
theorem IsBoundary.positionAt_le_iff (h : text.IsBoundary offset) (h' : text.IsBoundary offset') :
    text.positionAt offset ≤ text.positionAt offset' ↔ offset ≤ offset' := by
  obtain ⟨front, back, htext, rfl⟩ := h
  obtain ⟨front', back', htext', rfl⟩ := h'
  constructor
  · intro hle
    by_contra hlt
    exact not_lt_of_ge hle (positionAt_lt_of_byteSize_lt htext' htext (Nat.lt_of_not_le hlt))
  · exact positionAt_le_of_byteSize_le htext htext'

theorem isBoundary_offsetAt (text : Text) (position : Position) :
    text.IsBoundary (text.offsetAt position) :=
  exists_boundary_offsetAt text position

/-- A position that a text has is that of its own offset in every text of the same layout. -/
theorem SameLayout.positionAt_offsetAt (h : SameLayout text other)
    (hposition : ∃ front back, text = front ++ back ∧ position = text.positionAt front.byteSize) :
    other.positionAt (other.offsetAt position) = position := by
  obtain ⟨front, back, htext, rfl⟩ := hposition
  obtain ⟨k, -, hoffset, hoffset'⟩ := h.exists_offsetAt_eq (text.positionAt front.byteSize)
  have hsame : text.offsetAt (text.positionAt front.byteSize) = front.byteSize := by
    rw [htext, offsetAt_positionAt_boundary]
  rw [hoffset', h.positionAt_take_eq, ← hoffset, hsame]

end Text

end CfmlNav
