import CfmlNav.Text.Basic
import CfmlNav.Character.Case

/-!
# ASCII case

Keywords and tags are recognised whatever the case of their ASCII letters; all other characters
have to agree exactly.
-/

namespace CfmlNav.Text

open Character

/-- The text with its ASCII letters in lower case. -/
def asciiLowercase (text : Text) : Text :=
  text.map asciiLower

/-- Whether every character of a text is one of the first 128. -/
def isAscii (text : Text) : Bool :=
  text.all Character.isAscii

/-- Whether a text starts with a word, whatever the case of its ASCII letters. -/
def startsWithIgnoringCase : (word text : Text) → Bool
  | [], _ => true
  | _ :: _, [] => false
  | w :: word, c :: text => asciiLower w == asciiLower c && startsWithIgnoringCase word text

/-- Whether a text contains a word, whatever the case of its ASCII letters. -/
def containsIgnoringCase (word : Text) : Text → Bool
  | [] => word.isEmpty
  | c :: rest => startsWithIgnoringCase word (c :: rest) || containsIgnoringCase word rest

end CfmlNav.Text
