import CfmlNav.Name
import CfmlNav.Scope
import CfmlNav.Text.Position
import CfmlNav.Text.Word
import CfmlNav.Proofs.LetterCase.Character

/-!
# Texts up to ASCII case

Two texts agree up to ASCII case when they have the same lowered form. Lowering a text keeps its
length, its bytes and its lines, so offsets, positions and the word at an offset are the same in
the lowered text, and every part of it is the lowered part. Names have the same key and keywords
are recognised alike.
-/

namespace CfmlNav.Text

open Character

/-! ### Shape -/

@[simp] theorem asciiLowercase_nil : asciiLowercase [] = [] := rfl

@[simp] theorem asciiLowercase_cons (c : Char) (text : Text) :
    asciiLowercase (c :: text) = asciiLower c :: asciiLowercase text := rfl

@[simp] theorem asciiLowercase_append (a b : Text) :
    asciiLowercase (a ++ b) = asciiLowercase a ++ asciiLowercase b :=
  List.map_append

@[simp] theorem asciiLowercase_asciiLowercase (text : Text) :
    text.asciiLowercase.asciiLowercase = text.asciiLowercase := by
  simp [asciiLowercase]

@[simp] theorem length_asciiLowercase (text : Text) : text.asciiLowercase.length = text.length :=
  List.length_map _

@[simp] theorem asciiLowercase_eq_nil_iff {text : Text} : text.asciiLowercase = [] ↔ text = [] :=
  List.map_eq_nil_iff

/-- Lowering leaves alone a text without letters, and no other text becomes it. -/
theorem asciiLowercase_eq_iff {text other : Text} (h : other.any isAsciiLetter = false) :
    text.asciiLowercase = other ↔ text = other := by
  induction other generalizing text with
  | nil => exact asciiLowercase_eq_nil_iff
  | cons d other ih =>
    cases text with
    | nil => simp
    | cons c text =>
      rw [List.any_cons, Bool.or_eq_false_iff] at h
      rw [asciiLowercase_cons, List.cons.injEq, List.cons.injEq, asciiLower_eq_iff h.1, ih h.2]

theorem reverse_asciiLowercase (text : Text) :
    List.reverse text.asciiLowercase = asciiLowercase text.reverse :=
  List.map_reverse.symm

theorem take_asciiLowercase (n : Nat) (text : Text) :
    List.take n text.asciiLowercase = asciiLowercase (text.take n) :=
  List.map_take.symm

theorem drop_asciiLowercase (n : Nat) (text : Text) :
    List.drop n text.asciiLowercase = asciiLowercase (text.drop n) :=
  List.map_drop.symm

theorem isEmpty_asciiLowercase (text : Text) :
    List.isEmpty text.asciiLowercase = text.isEmpty :=
  List.isEmpty_map

theorem head?_asciiLowercase (text : Text) :
    List.head? text.asciiLowercase = text.head?.map asciiLower :=
  List.head?_map

theorem getLast?_asciiLowercase (text : Text) :
    List.getLast? text.asciiLowercase = text.getLast?.map asciiLower :=
  List.getLast?_map

@[simp] theorem byteSize_asciiLowercase (text : Text) :
    text.asciiLowercase.byteSize = text.byteSize := by
  induction text with
  | nil => rfl
  | cons c rest ih => simp [ih]

/-! ### Runs of characters -/

section Runs

variable {p : Char → Bool} (hp : CaseBlind p) (text : Text)

include hp

theorem takeWhile_asciiLowercase :
    List.takeWhile p text.asciiLowercase = asciiLowercase (text.takeWhile p) := by
  rw [asciiLowercase, List.takeWhile_map, show p ∘ asciiLower = p from funext hp, asciiLowercase]

theorem dropWhile_asciiLowercase :
    List.dropWhile p text.asciiLowercase = asciiLowercase (text.dropWhile p) := by
  rw [asciiLowercase, List.dropWhile_map, show p ∘ asciiLower = p from funext hp, asciiLowercase]

theorem head?_map_asciiLowercase :
    (List.head? text.asciiLowercase).map p = text.head?.map p := by
  rw [head?_asciiLowercase, Option.map_map, show p ∘ asciiLower = p from funext hp]

end Runs

/-! ### Parts -/

theorem splitAt?_asciiLowercase (text : Text) (n : Nat) :
    text.asciiLowercase.splitAt? n =
      (text.splitAt? n).map fun parts => (asciiLowercase parts.1, asciiLowercase parts.2) := by
  fun_induction splitAt? text n with
  | case1 text => simp [splitAt?]
  | case2 => rfl
  | case3 c rest n h ih => simp [splitAt?, h, ih, Function.comp_def]
  | case4 c rest n h => simp [splitAt?, h]

theorem drop?_asciiLowercase (text : Text) (n : Nat) :
    text.asciiLowercase.drop? n = (text.drop? n).map asciiLowercase := by
  rw [drop?_eq, drop?_eq, splitAt?_asciiLowercase, Option.map_map, Option.map_map]
  rfl

theorem slice?_asciiLowercase (text : Text) (range : ByteRange) :
    text.asciiLowercase.slice? range = (text.slice? range).map asciiLowercase := by
  unfold slice?
  split
  · rw [drop?_asciiLowercase]
    cases text.drop? range.start with
    | none => rfl
    | some rest =>
      simp only [Option.map_some, Option.bind_eq_bind, Option.bind_some, splitAt?_asciiLowercase]
      cases splitAt? rest (range.stop - range.start) <;> rfl
  · rfl

@[simp] theorem slice_asciiLowercase (text : Text) (range : ByteRange) :
    text.asciiLowercase.slice range = (text.slice range).asciiLowercase := by
  rw [slice, slice?_asciiLowercase, slice]
  cases text.slice? range <;> rfl

/-! ### Words and positions -/

theorem leadingWord_asciiLowercase (text : Text) :
    leadingWord text.asciiLowercase = asciiLowercase (leadingWord text) :=
  takeWhile_asciiLowercase caseBlind_isWordCharacter text

theorem trailingWord_asciiLowercase (text : Text) :
    trailingWord text.asciiLowercase = asciiLowercase (trailingWord text) := by
  rw [trailingWord, reverse_asciiLowercase, leadingWord_asciiLowercase, reverse_asciiLowercase,
    trailingWord]

@[simp] theorem wordRangeAt_asciiLowercase (text : Text) (offset : Nat) :
    text.asciiLowercase.wordRangeAt offset = text.wordRangeAt offset := by
  rw [wordRangeAt, splitAt?_asciiLowercase, wordRangeAt]
  cases text.splitAt? offset with
  | none => rfl
  | some parts =>
    simp [trailingWord_asciiLowercase, leadingWord_asciiLowercase]

theorem asciiLower_eq_lineFeed {c : Char} : asciiLower c = '\n' ↔ c = '\n' :=
  asciiLower_eq_iff rfl

theorem positionFrom_asciiLowercase (here : Position) (text : Text) (offset : Nat) :
    positionFrom here text.asciiLowercase offset = positionFrom here text offset := by
  induction text generalizing here offset with
  | nil => rfl
  | cons c rest ih =>
    simp only [asciiLowercase_cons, positionFrom, utf8Size_asciiLower, ih, Position.after,
      asciiLower_eq_lineFeed]

@[simp] theorem positionAt_asciiLowercase (text : Text) (offset : Nat) :
    text.asciiLowercase.positionAt offset = text.positionAt offset :=
  positionFrom_asciiLowercase .origin text offset

@[simp] theorem spanAt_asciiLowercase (text : Text) (range : ByteRange) :
    text.asciiLowercase.spanAt range = text.spanAt range := by
  simp [spanAt]

theorem columnOffset_asciiLowercase (text : Text) (column : Nat) :
    columnOffset text.asciiLowercase column = columnOffset text column := by
  fun_induction columnOffset text column with
  | case1 => rfl
  | case2 => rfl
  | case3 => simp [columnOffset, asciiLower_eq_lineFeed]
  | case4 c rest column h ih => simp [columnOffset, h, asciiLower_eq_lineFeed, ih]

theorem offsetFrom_asciiLowercase (text : Text) (line column : Nat) :
    offsetFrom text.asciiLowercase line column = offsetFrom text line column := by
  induction text generalizing line with
  | nil => rfl
  | cons c rest ih =>
    cases line with
    | zero => simpa [offsetFrom] using columnOffset_asciiLowercase (c :: rest) column
    | succ line => simp [offsetFrom, ih, asciiLower_eq_lineFeed]

@[simp] theorem offsetAt_asciiLowercase (text : Text) (position : Position) :
    text.asciiLowercase.offsetAt position = text.offsetAt position :=
  offsetFrom_asciiLowercase text position.line position.column

/-! ### Keywords -/

/-- A text starts with a word, whatever the case, exactly if its lowered form starts with the
lowered word. -/
theorem startsWithIgnoringCase_iff {word text : Text} :
    startsWithIgnoringCase word text = true ↔ word.asciiLowercase <+: text.asciiLowercase := by
  fun_induction startsWithIgnoringCase word text with
  | case1 text => simp
  | case2 w word => simp
  | case3 w word c text ih =>
    rw [Bool.and_eq_true, beq_iff_eq, ih, asciiLowercase_cons, asciiLowercase_cons,
      List.cons_prefix_cons]

@[simp] theorem startsWithIgnoringCase_asciiLowercase (word text : Text) :
    startsWithIgnoringCase word text.asciiLowercase = startsWithIgnoringCase word text := by
  rw [Bool.eq_iff_iff, startsWithIgnoringCase_iff, startsWithIgnoringCase_iff,
    asciiLowercase_asciiLowercase]

/-! ### Names -/

theorem startsCased_asciiLowercase (text : Text) :
    startsCased text.asciiLowercase = startsCased text := by
  rw [startsCased, dropWhile_asciiLowercase caseBlind_isCaseIgnorable,
    head?_map_asciiLowercase caseBlind_isCased, startsCased]

theorem lowercaseFrom_asciiLowercase (before text : Text) :
    lowercaseFrom before.asciiLowercase text.asciiLowercase = lowercaseFrom before text := by
  induction text generalizing before with
  | nil => rfl
  | cons c rest ih =>
    have hsigma : asciiLower c = 'Σ' ↔ c = 'Σ' := asciiLower_eq_iff rfl
    have hbetween : lowerBetween before.asciiLowercase (asciiLower c) (asciiLowercase rest) =
        lowerBetween before c rest := by
      simp only [lowerBetween, hsigma, startsCased_asciiLowercase, caseBlind_lower c]
    rw [asciiLowercase_cons, lowercaseFrom, hbetween, ← asciiLowercase_cons, ih, lowercaseFrom]

@[simp] theorem lowercase_asciiLowercase (text : Text) :
    text.asciiLowercase.lowercase = text.lowercase :=
  lowercaseFrom_asciiLowercase [] text

@[simp] theorem isAscii_asciiLowercase (text : Text) :
    text.asciiLowercase.isAscii = text.isAscii := by
  rw [isAscii, asciiLowercase, List.all_map, show Character.isAscii ∘ asciiLower =
    Character.isAscii from funext caseBlind_isAscii, isAscii]

end CfmlNav.Text

namespace CfmlNav

open Text

@[simp] theorem Name.key_asciiLowercase (name : Text) :
    Name.key name.asciiLowercase = Name.key name :=
  lowercase_asciiLowercase name

@[simp] theorem Name.same_asciiLowercase_left (a b : Text) :
    Name.same a.asciiLowercase b = Name.same a b := by
  simp [Name.same]

@[simp] theorem Name.same_asciiLowercase_right (a b : Text) :
    Name.same a b.asciiLowercase = Name.same a b := by
  simp [Name.same]

@[simp] theorem Scope.parse_asciiLowercase (value : Text) :
    Scope.parse value.asciiLowercase = Scope.parse value := by
  simp [Scope.parse]

end CfmlNav
