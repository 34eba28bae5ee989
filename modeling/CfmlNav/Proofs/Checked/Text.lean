import CfmlNav.Proofs.Text.Part
import CfmlNav.Proofs.Text.Word
import Mathlib.Data.List.DropRight
import Mathlib.Data.List.Induction

/-!
# Positions and words with every access checked

The conversions between offsets and positions are defined by recursion on the text and cannot fail.
Here they are carried out as they are for speed: with a table of the offsets at which the lines
start, kept in 32 bits, from which one entry is taken, and with slices of the text. Every access is
checked. An entry that the table does not have, a slice whose ends are no boundaries or out of order
and a number that does not fit give no result at all.

For a text of less than 2³² bytes every check passes, and the results are those of the conversions
(`offsetAtChecked_eq`, `positionAtChecked_eq`). The same is shown of the search for a word, which
slices the text anew before each character that it takes to the left (`wordRangeAtChecked_eq`).
-/

namespace CfmlNav

open Text

/-- A number as it is kept in 32 bits, if it fits. -/
def narrow? (n : Nat) : Option Nat :=
  if n < UInt32.size then some n else none

theorem narrow?_eq {n : Nat} (h : n < UInt32.size) : narrow? n = some n :=
  if_pos h

/-- A number less another one, if it is large enough. -/
def subtract? (n k : Nat) : Option Nat :=
  if k ≤ n then some (n - k) else none

theorem subtract?_eq {n k : Nat} (h : k ≤ n) : subtract? n k = some (n - k) :=
  if_pos h

/-- Where every check passes, a list is checked entry by entry. -/
theorem mapM_eq_some_map {α β : Type} {f : α → Option β} {g : α → β} {xs : List α}
    (h : ∀ x ∈ xs, f x = some (g x)) : xs.mapM f = some (xs.map g) := by
  induction xs with
  | nil => rfl
  | cons x xs ih =>
    rw [List.forall_mem_cons] at h
    rw [List.mapM_cons, h.1, ih h.2]
    rfl

/-- The results of a check of each entry of a list, without those that come to nothing. -/
def filterMapChecked {α β : Type} (f : α → Option (Option β)) (xs : List α) : Option (List β) := do
  return (← xs.mapM f).filterMap id

theorem filterMapChecked_eq {α β : Type} {f : α → Option (Option β)} {g : α → Option β}
    {xs : List α} (h : ∀ x ∈ xs, f x = some (g x)) :
    filterMapChecked f xs = some (xs.filterMap g) := by
  have hmap : (xs.map g).filterMap id = xs.filterMap g := List.filterMap_map
  rw [filterMapChecked, mapM_eq_some_map h, ← hmap]
  rfl

namespace Text

open Position Character

variable {text front back : Text} {offset : Nat}

/-! ### The table of lines -/

/-- The offsets behind the line feeds of a text that stands at an offset. -/
def lineStartsFrom : (offset : Nat) → Text → List Nat
  | _, [] => []
  | offset, c :: rest =>
    if c = '\n' then (offset + 1) :: lineStartsFrom (offset + 1) rest
    else lineStartsFrom (offset + c.utf8Size) rest

/-- The offsets at which the lines of a text start. -/
def lineStarts (text : Text) : List Nat :=
  0 :: lineStartsFrom 0 text

/-- The table of the lines of a text, in 32 bits. -/
def lineStartsChecked (text : Text) : Option (List Nat) :=
  text.lineStarts.mapM narrow?

theorem lineStartsFrom_append (offset : Nat) (front back : Text) :
    lineStartsFrom offset (front ++ back) =
      lineStartsFrom offset front ++ lineStartsFrom (offset + front.byteSize) back := by
  induction front generalizing offset with
  | nil => rfl
  | cons c front ih =>
    have hassoc (n : Nat) : offset + (n + byteSize front) = offset + n + byteSize front :=
      (Nat.add_assoc _ _ _).symm
    rw [List.cons_append, lineStartsFrom, lineStartsFrom, byteSize_cons, hassoc]
    split
    next hc =>
      subst hc
      rw [ih]
      rfl
    next => rw [ih]

/-- A line starts behind a line feed, so behind the start of the text and not behind its end. -/
theorem mem_lineStartsFrom {start : Nat} (h : start ∈ lineStartsFrom offset text) :
    offset < start ∧ start ≤ offset + text.byteSize := by
  induction text generalizing offset with
  | nil => simp [lineStartsFrom] at h
  | cons c rest ih =>
    have hpos := c.utf8Size_pos
    rw [lineStartsFrom] at h
    rw [byteSize_cons]
    split at h
    next hc =>
      subst hc
      have hsize : '\n'.utf8Size = 1 := rfl
      rcases List.mem_cons.mp h with rfl | hlater
      · omega
      · have hrest := ih hlater
        omega
    next =>
      have hrest := ih h
      omega

theorem lineStartsFrom_of_notMem (h : '\n' ∉ text) (offset : Nat) :
    lineStartsFrom offset text = [] := by
  induction text generalizing offset with
  | nil => rfl
  | cons c rest ih =>
    rw [List.mem_cons, not_or] at h
    rw [lineStartsFrom, if_neg (Ne.symm h.1), ih h.2]

theorem lineStartsChecked_eq (h : text.byteSize < UInt32.size) :
    text.lineStartsChecked = some text.lineStarts := by
  have hnarrow : ∀ start ∈ text.lineStarts, narrow? start = some (id start) := by
    intro start hstart
    refine narrow?_eq ?_
    rcases List.mem_cons.mp hstart with rfl | hstart
    · decide
    · have hle := (mem_lineStartsFrom hstart).2
      omega
  rw [lineStartsChecked, mapM_eq_some_map hnarrow, List.map_id]

/-! ### From offsets to positions -/

/-- The position of an offset: its line is the last one that starts at or before it, its column the
length of what stands between. -/
def positionAtChecked (starts : List Nat) (text : Text) (offset : Nat) : Option Position := do
  let offset := min (← narrow? offset) (← narrow? text.byteSize)
  let line := (starts.takeWhile (· ≤ offset)).length - 1
  let start ← starts[line]?
  return ⟨line, (← text.slice? ⟨start, offset⟩).length⟩

/-- A text is some complete lines and a last one. -/
theorem exists_lastLine (text : Text) :
    ∃ lines last, text = lines ++ last ∧ '\n' ∉ last ∧
      (lines = [] ∨ ∃ init, lines = init ++ ['\n']) := by
  refine ⟨text.rdropWhile (· != '\n'), text.rtakeWhile (· != '\n'),
    List.rdropWhile_append_rtakeWhile.symm, fun hfeed => ?_, ?_⟩
  · simpa using List.mem_rtakeWhile_imp hfeed
  · rcases List.eq_nil_or_concat' (text.rdropWhile (· != '\n')) with hnil | ⟨init, c, hconcat⟩
    · exact .inl hnil
    · have hlast := List.rdropWhile_last_not (· != '\n') text (by simp [hconcat])
      obtain rfl : c = '\n' := by simpa [hconcat] using hlast
      exact .inr ⟨init, hconcat⟩

theorem line_afterAll (p : Position) (offset : Nat) (text : Text) :
    (p.afterAll text).line = p.line + (lineStartsFrom offset text).length := by
  induction text generalizing p offset with
  | nil => rfl
  | cons c rest ih =>
    rw [afterAll_cons, lineStartsFrom]
    split
    next hc =>
      rw [ih _ (offset + 1), List.length_cons, after, if_pos hc]
      dsimp only
      omega
    next hc => rw [ih _ (offset + c.utf8Size), after, if_neg hc]

theorem afterAll_of_notMem (h : '\n' ∉ text) (p : Position) :
    p.afterAll text = ⟨p.line, p.column + text.length⟩ := by
  induction text generalizing p with
  | nil => rfl
  | cons c rest ih =>
    rw [List.mem_cons, not_or] at h
    rw [afterAll_cons, ih h.2, after, if_neg (Ne.symm h.1), List.length_cons]
    exact congrArg (Position.mk p.line) (by dsimp only; omega)

/-- The lines that start at or before a boundary are the first one and those behind the line feeds
before it. -/
theorem takeWhile_lineStarts (front back : Text) :
    (front ++ back).lineStarts.takeWhile (· ≤ front.byteSize) = 0 :: lineStartsFrom 0 front := by
  have hbefore : ∀ start ∈ 0 :: lineStartsFrom 0 front, decide (start ≤ front.byteSize) = true := by
    intro start hstart
    rcases List.mem_cons.mp hstart with rfl | hstart
    · exact decide_eq_true (Nat.zero_le _)
    · have hle := (mem_lineStartsFrom hstart).2
      exact decide_eq_true (by omega)
  have hbehind : (lineStartsFrom (0 + front.byteSize) back).takeWhile
      (fun start => decide (start ≤ front.byteSize)) = [] := by
    rw [List.takeWhile_eq_nil_iff]
    intro hpos
    have hlt := (mem_lineStartsFrom (List.get_mem _ ⟨0, hpos⟩)).1
    simp only [decide_eq_true_eq]
    omega
  rw [lineStarts, lineStartsFrom_append, ← List.cons_append, List.takeWhile_append_of_pos hbefore,
    hbehind, List.append_nil]

/-- The line that a boundary is on starts behind the complete lines before the boundary. -/
theorem getElem?_lineStarts {lines last : Text} (hlast : '\n' ∉ last)
    (hlines : lines = [] ∨ ∃ init, lines = init ++ ['\n']) (back : Text) :
    (lines ++ last ++ back).lineStarts[(lineStartsFrom 0 (lines ++ last)).length]? =
      some lines.byteSize := by
  have hnone (offset : Nat) : lineStartsFrom offset last = [] :=
    lineStartsFrom_of_notMem hlast offset
  rw [lineStarts, lineStartsFrom_append 0 (lines ++ last), lineStartsFrom_append 0 lines, hnone,
    List.append_nil]
  rcases hlines with rfl | ⟨init, rfl⟩
  · rfl
  · have hend : lineStartsFrom 0 (init ++ ['\n']) =
        lineStartsFrom 0 init ++ [byteSize (init ++ ['\n'])] := by
      rw [lineStartsFrom_append, Nat.zero_add, byteSize_append]
      rfl
    rw [hend, List.length_append, List.length_singleton, List.getElem?_cons_succ, List.append_assoc,
      List.getElem?_append_right (Nat.le_refl _), Nat.sub_self]
    rfl

theorem positionAtChecked_eq (h : text.byteSize < UInt32.size) (hoffset : text.IsBoundary offset) :
    positionAtChecked text.lineStarts text offset = some (text.positionAt offset) := by
  have hle := hoffset.le_byteSize
  obtain ⟨front, back, rfl, rfl⟩ := hoffset
  obtain ⟨lines, last, rfl, hlast, hlines⟩ := exists_lastLine front
  have hslice : (lines ++ last ++ back).slice? ⟨lines.byteSize, byteSize (lines ++ last)⟩ =
      some last := by
    rw [byteSize_append]
    exact slice?_boundaries lines last back
  have hline : (lineStartsFrom 0 (lines ++ last)).length =
      (origin.afterAll (lines ++ last)).line := by
    rw [line_afterAll origin 0, line_origin, Nat.zero_add]
  have hcolumn : last.length = (origin.afterAll (lines ++ last)).column := by
    have hzero : (origin.afterAll lines).column = 0 := by
      rcases hlines with rfl | ⟨init, rfl⟩
      · rfl
      · rw [afterAll_append]
        rfl
    rw [afterAll_append, afterAll_of_notMem hlast, hzero, Nat.zero_add]
  rw [positionAtChecked, narrow?_eq (Nat.lt_of_le_of_lt hle h), narrow?_eq h]
  simp only [Option.bind_eq_bind, Option.bind_some, Nat.min_eq_left hle, takeWhile_lineStarts,
    List.length_cons, Nat.add_sub_cancel, getElem?_lineStarts hlast hlines, hslice,
    positionAt_boundary]
  rw [hline, hcolumn]
  rfl

/-- The span of a byte range by the table of lines. -/
def spanAtChecked (starts : List Nat) (text : Text) (range : ByteRange) : Option Span := do
  return ⟨← positionAtChecked starts text range.start, ← positionAtChecked starts text range.stop⟩

theorem spanAtChecked_eq (h : text.byteSize < UInt32.size) {range : ByteRange}
    (hrange : range.IsPartOf text) :
    spanAtChecked text.lineStarts text range = some (text.spanAt range) := by
  obtain ⟨hstart, hstop⟩ := hrange.isBoundary
  rw [spanAtChecked, positionAtChecked_eq h hstart, positionAtChecked_eq h hstop]
  rfl

/-! ### From positions to offsets -/

/-- The offset of a position: that of its line and the bytes before its column. Behind the last line
it is the end of the text. -/
def offsetAtChecked (starts : List Nat) (text : Text) (position : Position) : Option Nat :=
  match starts[position.line]? with
  | none => narrow? text.byteSize
  | some start => do
    let line := (← text.drop? start).takeWhile (· != '\n')
    narrow? (start + byteSize (line.take position.column))

theorem columnOffset_eq (text : Text) (column : Nat) :
    columnOffset text column = byteSize ((text.takeWhile (· != '\n')).take column) := by
  induction text generalizing column with
  | nil => simp [columnOffset]
  | cons c rest ih =>
    cases column with
    | zero => rfl
    | succ column =>
      by_cases hc : c = '\n'
      · simp [columnOffset, hc]
      · simp [columnOffset, hc, ih]

/-- A line that the table has is a part of the text, behind as many line feeds as it says. -/
theorem getElem?_lineStartsFrom (offset : Nat) (text : Text) (line column : Nat) :
    ((offset :: lineStartsFrom offset text)[line]? = none ∧
        offsetFrom text line column = text.byteSize) ∨
      ∃ front rest, text = front ++ rest ∧
        (offset :: lineStartsFrom offset text)[line]? = some (offset + front.byteSize) ∧
        offsetFrom text line column =
          front.byteSize + byteSize ((rest.takeWhile (· != '\n')).take column) := by
  induction text generalizing offset line with
  | nil =>
    cases line with
    | zero => exact .inr ⟨[], [], rfl, rfl, by simp [offsetFrom, columnOffset]⟩
    | succ line => exact .inl ⟨rfl, rfl⟩
  | cons c rest ih =>
    cases line with
    | zero =>
      refine .inr ⟨[], c :: rest, rfl, rfl, ?_⟩
      rw [offsetFrom, columnOffset_eq, byteSize_nil, Nat.zero_add]
    | succ line =>
      have hnext : ∃ line', (offset :: lineStartsFrom offset (c :: rest))[line + 1]? =
          ((offset + c.utf8Size) :: lineStartsFrom (offset + c.utf8Size) rest)[line']? ∧
          offsetFrom (c :: rest) (line + 1) column = c.utf8Size + offsetFrom rest line' column := by
        by_cases hc : c = '\n'
        · subst hc
          exact ⟨line, rfl, rfl⟩
        · refine ⟨line + 1, ?_, ?_⟩
          · rw [lineStartsFrom, if_neg hc]
            rfl
          · rw [offsetFrom, if_neg hc]
      obtain ⟨line', hentry, hoffset⟩ := hnext
      rw [hentry, hoffset]
      rcases ih (offset + c.utf8Size) line' with ⟨hnone, hend⟩ | ⟨front, rest', rfl, hsome, hcolumn⟩
      · exact .inl ⟨hnone, by rw [hend, byteSize_cons]⟩
      · refine .inr ⟨c :: front, rest', rfl, ?_, ?_⟩
        · rw [hsome, byteSize_cons, Nat.add_assoc]
        · rw [hcolumn, byteSize_cons, Nat.add_assoc]

theorem offsetAtChecked_eq (h : text.byteSize < UInt32.size) (position : Position) :
    offsetAtChecked text.lineStarts text position = some (text.offsetAt position) := by
  have hle := (text.isBoundary_offsetAt position).le_byteSize
  rw [offsetAtChecked, offsetAt, lineStarts]
  rw [offsetAt] at hle
  rcases getElem?_lineStartsFrom 0 text position.line position.column with
    ⟨hnone, hend⟩ | ⟨front, rest, rfl, hsome, hcolumn⟩
  · rw [hnone, hend]
    exact narrow?_eq h
  · rw [hcolumn] at hle ⊢
    simp only [hsome, Nat.zero_add, drop?_boundary, Option.bind_eq_bind, Option.bind_some]
    exact narrow?_eq (Nat.lt_of_le_of_lt hle h)

/-! ### Words -/

/-- Where the word before an offset starts: as long as the text up to the offset ends with a word
character, the offset goes back before it, in at most `bound` steps. -/
def wordStartWithin (text : Text) : (bound offset : Nat) → Option Nat
  | 0, _ => none
  | bound + 1, offset => do
    let before ← text.slice? ⟨0, offset⟩
    match before.getLast? with
    | none => return offset
    | some c =>
      if isWordCharacter c then text.wordStartWithin bound (← subtract? offset c.utf8Size)
      else return offset

/-- The bytes of the word that touches an offset, if there is one. -/
def wordRangeAtChecked (text : Text) (offset : Nat) : Option (Option ByteRange) :=
  match text.splitAt? offset with
  | none => some none
  | some _ => do
    let start ← text.wordStartWithin (text.length + 1) offset
    let behind ← text.drop? offset
    let stop := offset + byteSize (leadingWord behind)
    return if start < stop then some ⟨start, stop⟩ else none

/-- The search to the left ends before the word, and before the start of the text at the latest. -/
theorem wordStartWithin_eq {bound : Nat} (hbound : front.length < bound) (back : Text) :
    (front ++ back).wordStartWithin bound front.byteSize =
      some (front.byteSize - byteSize (trailingWord front)) := by
  induction front using List.reverseRecOn generalizing back bound with
  | nil =>
    obtain ⟨bound, rfl⟩ : ∃ n, bound = n + 1 := ⟨bound - 1, by simp at hbound; omega⟩
    have hslice : slice? ([] ++ back) ⟨0, byteSize []⟩ = some [] := slice?_boundaries [] [] back
    rw [wordStartWithin, hslice]
    rfl
  | append_singleton init c ih =>
    obtain ⟨bound, rfl⟩ : ∃ n, bound = n + 1 := ⟨bound - 1, by omega⟩
    have hslice : slice? (init ++ [c] ++ back) ⟨0, byteSize (init ++ [c])⟩ = some (init ++ [c]) :=
      slice?_eq_some_iff.mpr ⟨[], back, by simp, rfl⟩
    have hsize : byteSize (init ++ [c]) = byteSize init + c.utf8Size := by simp
    have hlast : (init ++ [c]).getLast? = some c := List.getLast?_concat
    have hback : subtract? (byteSize (init ++ [c])) c.utf8Size = some (byteSize init) := by
      rw [hsize, subtract?_eq (Nat.le_add_left _ _), Nat.add_sub_cancel]
    rw [wordStartWithin, hslice]
    simp only [Option.bind_eq_bind, Option.bind_some, hlast, hback, trailingWord_concat]
    split
    next =>
      have hlater := ih (show init.length < bound by simp at hbound; omega) (c :: back)
      rw [List.append_assoc, List.singleton_append, hlater]
      refine congrArg some ?_
      simp only [byteSize_append]
      omega
    next => simp

theorem wordRangeAtChecked_eq (hoffset : text.IsBoundary offset) :
    text.wordRangeAtChecked offset = some (text.wordRangeAt offset) := by
  obtain ⟨front, back, rfl, rfl⟩ := hoffset
  have hbound : front.length < (front ++ back).length + 1 := by
    rw [List.length_append]
    omega
  have hleft : byteSize (trailingWord front) ≤ front.byteSize := by
    obtain ⟨before, hfront, -⟩ := exists_before_trailingWord front
    rw [congrArg byteSize hfront, byteSize_append]
    exact Nat.le_add_left _ _
  have hempty : front.byteSize - byteSize (trailingWord front) <
      front.byteSize + byteSize (leadingWord back) ↔
      ¬ (((trailingWord front).isEmpty && (leadingWord back).isEmpty) = true) := by
    rw [Bool.and_eq_true, List.isEmpty_iff, List.isEmpty_iff, ← byteSize_eq_zero_iff,
      ← byteSize_eq_zero_iff]
    omega
  rw [wordRangeAtChecked, wordRangeAt, splitAt?_append, wordStartWithin_eq hbound, drop?_boundary]
  change some (if _ < front.byteSize + byteSize (leadingWord back) then _ else _) = some _
  simp only [hempty, ite_not]
  rfl

end Text

end CfmlNav
