import CfmlNav.Proofs.Character
import CfmlNav.Proofs.Text.Part

/-!
# Words at boundaries

At a boundary of a text the word is found by going as far as word characters reach, to the left and
to the right. What is found is a whole run of word characters, so neither the text before it ends
nor the text behind it starts with one (`exists_cutAtWord`), and it is empty only if the boundary
has no word character on either side. The byte range of the word cuts it out of the text
(`wordAt_boundary`).

A text has at most one word that touches a given boundary, whichever end of the word the boundary
is nearer to. So a word is found from every boundary that touches it (`wordRangeAt_of_hasWord`), and
what is found is such a word (`hasWord_of_wordRangeAt`).
-/

namespace CfmlNav.Text

open Character

variable {text front back word rest : Text} {c : Char}

/-! ### Runs of word characters -/

theorem leadingWord_cons (c : Char) (rest : Text) :
    leadingWord (c :: rest) = if isWordCharacter c then c :: leadingWord rest else [] := by
  rw [leadingWord, List.takeWhile_cons, leadingWord]

theorem trailingWord_concat (lead : Text) (c : Char) :
    trailingWord (lead ++ [c]) = if isWordCharacter c then trailingWord lead ++ [c] else [] := by
  rw [trailingWord, List.reverse_append, List.reverse_singleton, List.singleton_append,
    leadingWord_cons]
  cases isWordCharacter c <;> simp [trailingWord]

theorem leadingWord_append_eq_iff {part : Text} :
    leadingWord (part ++ rest) = part ↔
      (∀ c ∈ part, isWordCharacter c = true) ∧ ∀ c ∈ rest.head?, isWordCharacter c = false := by
  induction part with
  | nil => cases rest <;> simp [leadingWord, List.takeWhile_cons]
  | cons c part ih =>
    rw [List.cons_append, leadingWord_cons, List.forall_mem_cons]
    cases hc : isWordCharacter c with
    | true => simpa using ih
    | false => simp

/-- A text starts with its leading word and goes on with no word character. -/
theorem exists_behind_leadingWord (text : Text) :
    ∃ behind, text = leadingWord text ++ behind ∧
      (∀ c ∈ leadingWord text, isWordCharacter c = true) ∧
      ∀ c ∈ behind.head?, isWordCharacter c = false := by
  have hsplit : leadingWord text ++ text.dropWhile isWordCharacter = text :=
    List.takeWhile_append_dropWhile
  have hwhole : leadingWord (leadingWord text ++ text.dropWhile isWordCharacter) =
      leadingWord text := by rw [hsplit]
  exact ⟨_, hsplit.symm, leadingWord_append_eq_iff.mp hwhole⟩

/-- A text ends with its trailing word, behind no word character. -/
theorem exists_before_trailingWord (text : Text) :
    ∃ before, text = before ++ trailingWord text ∧
      (∀ c ∈ trailingWord text, isWordCharacter c = true) ∧
      ∀ c ∈ before.getLast?, isWordCharacter c = false := by
  obtain ⟨behind, hsplit, hword, hbehind⟩ := exists_behind_leadingWord text.reverse
  refine ⟨behind.reverse, ?_, by simpa [trailingWord] using hword, by simpa using hbehind⟩
  rw [trailingWord, ← List.reverse_append, ← hsplit, List.reverse_reverse]

theorem leadingWord_eq_nil_iff :
    leadingWord text = [] ↔ ∀ c ∈ text.head?, isWordCharacter c = false := by
  have hiff : leadingWord ([] ++ text) = [] ↔ _ := leadingWord_append_eq_iff
  simpa using hiff

theorem trailingWord_eq_nil_iff :
    trailingWord text = [] ↔ ∀ c ∈ text.getLast?, isWordCharacter c = false := by
  rw [trailingWord, List.reverse_eq_nil_iff, leadingWord_eq_nil_iff, List.head?_reverse]

theorem trailingWord_append (hword : ∀ c ∈ word, isWordCharacter c = true) :
    trailingWord (front ++ word) = trailingWord front ++ word := by
  rw [trailingWord, leadingWord, List.reverse_append,
    List.takeWhile_append_of_pos (by simpa using hword)]
  simp [trailingWord, leadingWord]

/-- The last character of the word at the end of a text is the last character of the text. -/
theorem getLast?_of_mem_trailingWord (h : c ∈ (trailingWord text).getLast?) :
    c ∈ text.getLast? := by
  rw [trailingWord, leadingWord, List.getLast?_reverse] at h
  rw [← List.head?_reverse]
  cases hreverse : text.reverse with
  | nil => simp [hreverse] at h
  | cons d rest =>
    rw [hreverse, List.takeWhile_cons] at h
    split at h
    next => exact h
    next => simp at h

/-! ### The word at a boundary -/

/-- A text cut into a run of word characters, which may be empty, and what stands before and behind
it; the run goes no further in either direction. -/
structure CutAtWord (text before word behind : Text) : Prop where
  text_eq : text = before ++ word ++ behind
  run : ∀ c ∈ word, isWordCharacter c = true
  maximal_left : ∀ c ∈ before.getLast?, isWordCharacter c = false
  maximal_right : ∀ c ∈ behind.head?, isWordCharacter c = false

/-- At a boundary a text is cut at the word that touches the boundary. -/
theorem exists_cutAtWord (front back : Text) :
    ∃ before behind, front = before ++ trailingWord front ∧ back = leadingWord back ++ behind ∧
      CutAtWord (front ++ back) before (trailingWord front ++ leadingWord back) behind := by
  obtain ⟨before, hfront, hleft, hbefore⟩ := exists_before_trailingWord front
  obtain ⟨behind, hback, hright, hbehind⟩ := exists_behind_leadingWord back
  refine ⟨before, behind, hfront, hback, ?_, ?_, hbefore, hbehind⟩
  · rw [← List.append_assoc, ← hfront, List.append_assoc, ← hback]
  · rw [List.forall_mem_append]
    exact ⟨hleft, hright⟩

/-- The bytes of the word at a boundary, or of the boundary itself if there is no word. -/
theorem getD_wordRangeAt_boundary {before : Text} (hfront : front = before ++ trailingWord front)
    (back : Text) :
    ((front ++ back).wordRangeAt front.byteSize).getD ⟨front.byteSize, front.byteSize⟩ =
      ⟨before.byteSize,
        before.byteSize + byteSize (trailingWord front ++ leadingWord back)⟩ := by
  have hsize := congrArg byteSize hfront
  rw [byteSize_append] at hsize
  have hfound : (front ++ back).wordRangeAt front.byteSize =
      if (trailingWord front).isEmpty && (leadingWord back).isEmpty then none
      else some ⟨front.byteSize - (trailingWord front).byteSize,
        front.byteSize + (leadingWord back).byteSize⟩ := by
    rw [wordRangeAt, splitAt?_append]
    rfl
  rw [hfound, byteSize_append]
  split
  next hnone =>
    rw [Bool.and_eq_true, List.isEmpty_iff, List.isEmpty_iff] at hnone
    rw [hnone.1, byteSize_nil] at hsize
    rw [hnone.1, hnone.2, Option.getD_none, hsize]
    rfl
  next =>
    rw [Option.getD_some, ByteRange.mk.injEq]
    omega

theorem wordRangeAt_boundary_eq_none_iff (front back : Text) :
    (front ++ back).wordRangeAt front.byteSize = none ↔
      trailingWord front ++ leadingWord back = [] := by
  rw [wordRangeAt, splitAt?_append]
  simp

theorem CutAtWord.slice_eq {text before word behind : Text}
    (h : CutAtWord text before word behind) :
    text.slice ⟨before.byteSize, before.byteSize + word.byteSize⟩ = word := by
  rw [h.text_eq, slice_boundaries]

/-- Whether a byte range of a text is a word: the bytes of a run of word characters, not empty, that
goes no further in either direction. -/
def HasWord (text : Text) (range : ByteRange) : Prop :=
  ∃ before word behind, CutAtWord text before word behind ∧ word ≠ [] ∧
    range = ⟨before.byteSize, before.byteSize + word.byteSize⟩

/-- Whether an offset is a boundary of a text with a word character neither before nor behind it. -/
def TouchesNoWord (text : Text) (offset : Nat) : Prop :=
  ∃ front back, text = front ++ back ∧ offset = front.byteSize ∧
    (∀ c ∈ front.getLast?, isWordCharacter c = false) ∧
    ∀ c ∈ back.head?, isWordCharacter c = false

section Touched

variable {offset : Nat} {range : ByteRange}

/-- A word is found from every boundary in it and at its ends. -/
theorem wordRangeAt_of_hasWord (h : text.HasWord range) (hoffset : text.IsBoundary offset)
    (hstart : range.start ≤ offset) (hstop : offset ≤ range.stop) :
    text.wordRangeAt offset = some range := by
  obtain ⟨before, word, behind, ⟨hcut, hrun, hleft, hright⟩, hne, rfl⟩ := h
  obtain ⟨front, back, rfl, rfl⟩ := hoffset
  rw [List.append_assoc] at hcut
  -- the boundary cuts the word in two parts, either of which may be empty
  obtain ⟨left, rfl, hbehind⟩ := exists_append_of_byteSize_le hcut.symm hstart
  obtain ⟨right, rfl, rfl⟩ := exists_append_of_byteSize_le hbehind.symm
    (by rw [byteSize_append] at hstop; exact Nat.le_of_add_le_add_left hstop)
  rw [List.forall_mem_append] at hrun
  have htrailing : trailingWord (before ++ left) = left := by
    rw [trailingWord_append hrun.1, trailingWord_eq_nil_iff.mpr hleft, List.nil_append]
  have hleading : leadingWord (right ++ behind) = right :=
    leadingWord_append_eq_iff.mpr ⟨hrun.2, hright⟩
  have hfront : before ++ left = before ++ trailingWord (before ++ left) := by rw [htrailing]
  have hbytes := getD_wordRangeAt_boundary hfront (right ++ behind)
  have hword : trailingWord (before ++ left) ++ leadingWord (right ++ behind) = left ++ right := by
    rw [htrailing, hleading]
  obtain ⟨found, hfound⟩ := Option.ne_none_iff_exists'.mp
    (mt (wordRangeAt_boundary_eq_none_iff (before ++ left) (right ++ behind)).mp (hword ▸ hne))
  rw [hfound, Option.getD_some, hword] at hbytes
  rw [hfound, hbytes]

/-- What is found is a word that touches the offset, which is a boundary. -/
theorem hasWord_of_wordRangeAt (h : text.wordRangeAt offset = some range) :
    text.IsBoundary offset ∧ text.HasWord range ∧ range.start ≤ offset ∧ offset ≤ range.stop := by
  obtain ⟨⟨front, back⟩, hsplit, -⟩ := Option.bind_eq_some_iff.mp h
  obtain ⟨rfl, rfl⟩ := splitAt?_eq_some_iff.mp hsplit
  obtain ⟨before, behind, hfront, hback, hcut⟩ := exists_cutAtWord front back
  have hbytes := getD_wordRangeAt_boundary hfront back
  rw [h, Option.getD_some] at hbytes
  have hne : trailingWord front ++ leadingWord back ≠ [] := by
    rw [Ne, ← wordRangeAt_boundary_eq_none_iff, h]
    exact Option.some_ne_none range
  have hsize : front.byteSize = before.byteSize + byteSize (trailingWord front) := by
    rw [← byteSize_append, ← hfront]
  refine ⟨⟨front, back, rfl, rfl⟩, ⟨before, _, behind, hcut, hne, hbytes⟩, ?_, ?_⟩
  · rw [hbytes, hsize]
    exact Nat.le_add_right _ _
  · rw [hbytes, hsize, byteSize_append, ← Nat.add_assoc]
    exact Nat.le_add_right _ _

theorem wordRangeAt_eq_none_iff :
    text.wordRangeAt offset = none ↔ ¬ text.IsBoundary offset ∨ text.TouchesNoWord offset := by
  by_cases hoffset : text.IsBoundary offset
  · rw [or_iff_right (not_not.mpr hoffset)]
    obtain ⟨front, back, rfl, rfl⟩ := hoffset
    rw [wordRangeAt_boundary_eq_none_iff, List.append_eq_nil_iff, trailingWord_eq_nil_iff,
      leadingWord_eq_nil_iff]
    constructor
    · rintro ⟨hleft, hright⟩
      exact ⟨front, back, rfl, rfl, hleft, hright⟩
    · rintro ⟨front', back', htext, hsize, hleft, hright⟩
      obtain ⟨rfl, rfl⟩ := append_inj_of_byteSize htext hsize
      exact ⟨hleft, hright⟩
  · refine iff_of_true ?_ (Or.inl hoffset)
    rw [Option.eq_none_iff_forall_ne_some]
    intro range hfound
    exact hoffset (hasWord_of_wordRangeAt hfound).1

end Touched

/-- **The word at an offset is the one word that touches it.** There is none if the offset is past
the end, inside a character, or has a word character on neither side. Otherwise it is the only word
of the text that starts at or before the offset and ends at or behind it, and the same word is found
from every boundary that lies in it or at one of its ends. -/
theorem wordRangeAt_only_touched_word (text : Text) (offset : Nat) :
    (text.wordRangeAt offset = none ↔
      text.byteSize < offset ∨ ¬ text.IsBoundary offset ∨ text.TouchesNoWord offset) ∧
    (∀ range, text.wordRangeAt offset = some range ↔
      text.IsBoundary offset ∧ text.HasWord range ∧
        range.start ≤ offset ∧ offset ≤ range.stop) ∧
    ∀ range other, text.wordRangeAt offset = some range → text.IsBoundary other →
      range.start ≤ other → other ≤ range.stop → text.wordRangeAt other = some range := by
  refine ⟨?_, fun range => ⟨hasWord_of_wordRangeAt, ?_⟩, ?_⟩
  · have hpast : text.byteSize < offset → ¬ text.IsBoundary offset :=
      fun hlt hoffset => Nat.not_le_of_lt hlt hoffset.le_byteSize
    rw [wordRangeAt_eq_none_iff, ← or_assoc, or_iff_right_of_imp hpast]
  · rintro ⟨hoffset, hword, hstart, hstop⟩
    exact wordRangeAt_of_hasWord hword hoffset hstart hstop
  · intro range other hfound hother hstart hstop
    exact wordRangeAt_of_hasWord (hasWord_of_wordRangeAt hfound).2.1 hother hstart hstop

/-- A word with a dollar sign and a character of two bytes, from its start, its middle and its
end. -/
theorem wordRangeAt_only_touched_word_dollar :
    let text : Text := "x = $café.go()".toList
    text.wordRangeAt 4 = some ⟨4, 10⟩ ∧ text.IsBoundary 8 ∧ text.IsBoundary 10 ∧
      text.wordRangeAt 8 = some ⟨4, 10⟩ ∧ text.wordRangeAt 10 = some ⟨4, 10⟩ ∧
      text.wordRangeAt 9 = none := by
  intro text
  have hfound : text.wordRangeAt 4 = some ⟨4, 10⟩ := by decide +kernel
  have hmiddle : text.IsBoundary 8 := ⟨"x = $caf".toList, "é.go()".toList, rfl, rfl⟩
  have hend : text.IsBoundary 10 := ⟨"x = $café".toList, ".go()".toList, rfl, rfl⟩
  have hinside : ¬ text.IsBoundary 9 := by
    rintro ⟨front, back, htext, hsize⟩
    have hsplit := splitAt?_eq_some_iff.mpr ⟨htext, hsize⟩
    have hnone : text.splitAt? 9 = none := by decide +kernel
    rw [hnone] at hsplit
    contradiction
  obtain ⟨-, -, hsame⟩ := wordRangeAt_only_touched_word text 4
  obtain ⟨hnone, -⟩ := wordRangeAt_only_touched_word text 9
  exact ⟨hfound, hmiddle, hend, hsame ⟨4, 10⟩ 8 hfound hmiddle (by decide) (by decide),
    hsame ⟨4, 10⟩ 10 hfound hend (by decide) (by decide), hnone.mpr (.inr (.inl hinside))⟩

end CfmlNav.Text
