import CfmlNav.Text.Basic
import CfmlNav.Character.Identifier

/-!
# The word at an offset

A cursor selects the whole run of word characters that touches it, so a cursor just behind the
last character of a word still selects that word.
-/

namespace CfmlNav.Text

open Character

/-- The longest run of word characters at the start of a text. -/
def leadingWord (text : Text) : Text :=
  text.takeWhile isWordCharacter

/-- The longest run of word characters at the end of a text. -/
def trailingWord (text : Text) : Text :=
  (leadingWord text.reverse).reverse

/-- The byte range of the word that touches an offset. There is none if the offset is no
character boundary of the text, or has a word character neither before nor behind it. -/
def wordRangeAt (text : Text) (offset : Nat) : Option ByteRange := do
  let (before, behind) ← text.splitAt? offset
  let left := trailingWord before
  let right := leadingWord behind
  if left.isEmpty && right.isEmpty then none
  else some ⟨offset - left.byteSize, offset + right.byteSize⟩

end CfmlNav.Text
