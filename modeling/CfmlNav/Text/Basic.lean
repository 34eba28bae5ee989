/-!
# Text and byte offsets

A document is a list of characters. Offsets into it are counted in bytes of its UTF-8 form, so
an offset may fall inside a character; cutting a text at such an offset is refused.
-/

namespace CfmlNav

/-- The characters of a document, or of a part of one. -/
abbrev Text := List Char

/-- A half-open range of byte offsets: `start` is in it, `stop` is not. -/
structure ByteRange where
  start : Nat
  stop : Nat
  deriving DecidableEq, Repr

namespace Text

/-- The number of bytes of the UTF-8 form of a text. -/
def byteSize : Text → Nat
  | [] => 0
  | c :: rest => c.utf8Size + byteSize rest

@[simp] theorem byteSize_nil : byteSize [] = 0 := rfl

@[simp] theorem byteSize_cons (c : Char) (rest : Text) :
    byteSize (c :: rest) = c.utf8Size + byteSize rest := rfl

@[simp] theorem byteSize_append (a b : Text) :
    byteSize (a ++ b) = byteSize a + byteSize b := by
  induction a with
  | nil => simp
  | cons c rest ih => simp [ih, Nat.add_assoc]

/-- The two parts of a text before and after a byte offset, if the offset is a character
boundary of the text. -/
def splitAt? : Text → Nat → Option (Text × Text)
  | text, 0 => some ([], text)
  | [], _ + 1 => none
  | c :: rest, n + 1 =>
    if c.utf8Size ≤ n + 1 then
      (splitAt? rest (n + 1 - c.utf8Size)).map fun parts => (c :: parts.1, parts.2)
    else none

/-- The text after a byte offset, if the offset is a character boundary of the text. -/
def drop? : Text → Nat → Option Text
  | text, 0 => some text
  | [], _ + 1 => none
  | c :: rest, n + 1 => if c.utf8Size ≤ n + 1 then drop? rest (n + 1 - c.utf8Size) else none

/-- The text after an offset is the second of the two parts. -/
theorem drop?_eq (text : Text) (n : Nat) : text.drop? n = (text.splitAt? n).map Prod.snd := by
  fun_induction splitAt? text n with
  | case1 text => cases text <;> rfl
  | case2 => rfl
  | case3 c rest n h ih => simp [drop?, h, ih, Function.comp_def]
  | case4 c rest n h => simp [drop?, h]

/-- The part of a text in a byte range, if both ends are character boundaries of the text and
in order. -/
def slice? (text : Text) (range : ByteRange) : Option Text :=
  if range.start ≤ range.stop then do
    let rest ← text.drop? range.start
    let (part, _) ← splitAt? rest (range.stop - range.start)
    return part
  else none

/-- The part of a text in a byte range; nothing if the range is none of the text. -/
def slice (text : Text) (range : ByteRange) : Text :=
  (text.slice? range).getD []

/-- A text is split exactly at the boundary between two texts it consists of. -/
theorem splitAt?_append (a b : Text) : splitAt? (a ++ b) (byteSize a) = some (a, b) := by
  induction a with
  | nil => cases b <;> rfl
  | cons c rest ih =>
    have hc := c.utf8Size_pos
    obtain ⟨n, hn⟩ : ∃ n, byteSize (c :: rest) = n + 1 := ⟨c.utf8Size + byteSize rest - 1, by
      simp only [byteSize_cons]; omega⟩
    have hle : c.utf8Size ≤ n + 1 := by simp only [byteSize_cons] at hn; omega
    have hsub : n + 1 - c.utf8Size = byteSize rest := by simp only [byteSize_cons] at hn; omega
    rw [hn]
    simp [splitAt?, hle, hsub, ih]

end Text

end CfmlNav
