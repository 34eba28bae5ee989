import CfmlNav.Character.Ranges

/-!
# White space

The characters with the Unicode property `White_Space`: what may stand between a name and the
parenthesis of its call, and what the space class of a pattern accepts.
-/

namespace CfmlNav.Character

/-- The white space characters, as ranges of code points. -/
def spaceRanges : List (Nat × Nat) :=
  [(0x09, 0x0D), (0x20, 0x20), (0x85, 0x85), (0xA0, 0xA0), (0x1680, 0x1680), (0x2000, 0x200A),
   (0x2028, 0x2029), (0x202F, 0x202F), (0x205F, 0x205F), (0x3000, 0x3000)]

/-- Whether `c` is white space. -/
def isSpace (c : Char) : Bool :=
  inRanges c.toNat spaceRanges

end CfmlNav.Character
