import CfmlNav.Text.Ascii

/-!
# Names without case

Names of functions, properties and variables are compared without regard to case. The key of a
name is its lower case form. Lowering goes character by character, with one exception: a
capital sigma becomes a final sigma at the end of a word, so its form depends on its
neighbours.
-/

namespace CfmlNav

open Character

namespace Text

/-- Whether the nearest character that is not passed over has case. -/
def startsCased (text : Text) : Bool :=
  ((text.dropWhile isCaseIgnorable).head?.map isCased).getD false

/-- The lower case form of a character between the text before it, read backwards, and the
text behind it. A capital sigma is final if a character with case stands before it and none
behind it. -/
def lowerBetween (before : Text) (c : Char) (behind : Text) : Text :=
  if c = 'Σ' then
    if startsCased before && !startsCased behind then ['ς'] else ['σ']
  else lower c

/-- The lower case form of a text that follows `before`, which is read backwards. -/
def lowercaseFrom (before : Text) : Text → Text
  | [] => []
  | c :: rest => lowerBetween before c rest ++ lowercaseFrom (c :: before) rest

/-- The lower case form of a text. -/
def lowercase (text : Text) : Text :=
  lowercaseFrom [] text

end Text

namespace Name

/-- What two spellings of one name have in common: the lower case form. -/
def key (name : Text) : Text :=
  name.lowercase

/-- Whether two names are the same up to case. Names of ASCII characters only are compared by
their ASCII letters alone; any others by their lower case forms. -/
def same (a b : Text) : Bool :=
  a.asciiLowercase == b.asciiLowercase ||
    (!(a.isAscii && b.isAscii) && a.lowercase == b.lowercase)

end Name

end CfmlNav
