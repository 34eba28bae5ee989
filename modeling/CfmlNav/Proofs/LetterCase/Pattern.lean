import CfmlNav.Pattern.Match
import CfmlNav.Proofs.LetterCase.Text

/-!
# Matching up to ASCII case

A pattern is *blind to case* when each of its character classes is. Anchors ask only for word
characters and line ends, so they never tell a text from its lowered form. Hence a pattern that
is blind to case runs on a lowered text exactly as it runs on the text itself: with the same
choices in the same order, the same offsets and the same captures (`run_asciiLowercase`). All
matches of a lowered text are therefore the matches of the text (`findAll_asciiLowercase`).
-/

namespace CfmlNav

open Character Text

/-! ### Places and matches of a lowered text -/

/-- The same place of the lowered text. -/
def Cursor.asciiLowercase (cursor : Cursor) : Cursor :=
  ⟨cursor.before.map asciiLower, cursor.offset, cursor.rest.asciiLowercase⟩

/-- The same progress in the lowered text. -/
def Progress.asciiLowercase (progress : Progress) : Progress :=
  ⟨progress.toCursor.asciiLowercase, progress.captures⟩

/-- The same match of the lowered text. -/
def Match.asciiLowercase (found : Match) : Match :=
  ⟨found.start, found.after.asciiLowercase, found.captures⟩

@[simp] theorem Match.capture?_asciiLowercase (found : Match) (name : Text) :
    found.asciiLowercase.capture? name = found.capture? name := rfl

/-- A search that finds the same first match in a lowered text finds the same chain of them. -/
theorem Match.chain_asciiLowercase {first : Bool → Cursor → Option Match}
    (hfirst : ∀ emptyHere cursor, first emptyHere cursor.asciiLowercase =
      (first emptyHere cursor).map Match.asciiLowercase)
    (bound : Nat) (emptyHere : Bool) (cursor : Cursor) :
    chain first bound emptyHere cursor.asciiLowercase =
      (chain first bound emptyHere cursor).map Match.asciiLowercase := by
  induction bound generalizing emptyHere cursor with
  | zero => rfl
  | succ bound ih =>
    rw [chain, hfirst, chain]
    cases first emptyHere cursor with
    | none => rfl
    | some found => exact congrArg (found.asciiLowercase :: ·) (ih false found.after)

namespace Cursor

theorem isWordSide_map_asciiLower (asciiOnly : Bool) (side : Option Char) :
    isWordSide asciiOnly (side.map asciiLower) = isWordSide asciiOnly side := by
  have hascii (c : Char) : decide ((asciiLower c).toNat < 128) = decide (c.toNat < 128) :=
    caseBlind_isAscii c
  cases side with
  | none => rfl
  | some c => simp only [isWordSide, Option.map_some, Option.any_some, caseBlind_isWord c, hascii c]

/-- An anchor holds at a place of a lowered text exactly if it holds there in the text. -/
theorem satisfies_asciiLowercase (cursor : Cursor) (a : Anchor) :
    cursor.asciiLowercase.satisfies a = cursor.satisfies a := by
  have hfeed := map_asciiLower_beq_some (d := '\n') rfl
  have hreturn := map_asciiLower_beq_some (d := '\r') rfl
  cases a <;>
    simp only [satisfies, asciiLowercase, head?_asciiLowercase, isEmpty_asciiLowercase,
      Option.isNone_map, bne, hfeed, hreturn, isWordSide_map_asciiLower]

end Cursor

namespace Pattern

/-! ### Running a pattern -/

/-- A pattern whose character classes are blind to case. -/
def CaseBlind : Pattern → Prop
  | empty => True
  | one accepts => Character.CaseBlind accepts
  | anchor _ => True
  | seq p q => p.CaseBlind ∧ q.CaseBlind
  | alt p q => p.CaseBlind ∧ q.CaseBlind
  | plus _ p => p.CaseBlind
  | capture _ p => p.CaseBlind

section Run

variable {α β : Type} {f : α → β}

/-- What a round of a repetition does alike in both texts, the whole repetition does. -/
theorem rounds_asciiLowercase {greedy : Bool}
    {round : Progress → (Progress → Option α) → Option α}
    {round' : Progress → (Progress → Option β) → Option β}
    (hround : ∀ {here : Progress} {next : Progress → Option α} {next' : Progress → Option β},
      (∀ there : Progress, next' there.asciiLowercase = (next there).map f) →
        round' here.asciiLowercase next' = (round here next).map f)
    (bound : Text) {here : Progress} {next : Progress → Option α} {next' : Progress → Option β}
    (hnext : ∀ there : Progress, next' there.asciiLowercase = (next there).map f) :
    rounds greedy round' bound.asciiLowercase here.asciiLowercase next' =
      (rounds greedy round bound here next).map f := by
  induction bound generalizing here with
  | nil => exact hnext here
  | cons c bound ih =>
    have hmore : (round' here.asciiLowercase fun there =>
          if here.offset < there.offset then
            rounds greedy round' (asciiLowercase bound) there next' else none) =
        (round here fun there =>
          if here.offset < there.offset then rounds greedy round bound there next
          else none).map f := by
      refine hround fun there => ?_
      -- offsets are the same in both texts, so both runs stop at an empty round
      show (if here.offset < there.offset then _ else _) = _
      split
      · exact ih
      · rfl
    have hoffset : here.asciiLowercase.offset = here.offset := rfl
    simp only [asciiLowercase_cons, rounds, hoffset, hmore, hnext]
    cases greedy
    · cases next here <;> simp
    · cases round here _ <;> simp

/-- **Patterns do not see case.** A pattern that is blind to case makes the same choices on a
lowered text, so with continuations that answer alike it gives the same answer. -/
theorem run_asciiLowercase {p : Pattern} (hp : p.CaseBlind) {here : Progress}
    {next : Progress → Option α} {next' : Progress → Option β}
    (hnext : ∀ there : Progress, next' there.asciiLowercase = (next there).map f) :
    p.run here.asciiLowercase next' = (p.run here next).map f := by
  -- what follows a part of the pattern is in the continuations, so these vary in the induction
  induction p generalizing here next next' with
  | empty => exact hnext here
  | one accepts =>
    obtain ⟨⟨before, offset, rest⟩, captures⟩ := here
    cases rest with
    | nil => rfl
    | cons c rest =>
      simp only [run, Progress.asciiLowercase, Cursor.asciiLowercase, asciiLowercase_cons, hp c]
      split
      · rw [← hnext]
        simp [Progress.asciiLowercase, Cursor.asciiLowercase, Cursor.advance]
      · rfl
  | anchor a =>
    have hsat : here.asciiLowercase.satisfies a = here.satisfies a :=
      here.toCursor.satisfies_asciiLowercase a
    simp only [run, hsat]
    split
    · exact hnext here
    · rfl
  | seq p q ihp ihq => exact ihp hp.1 fun there => ihq hp.2 hnext
  | alt p q ihp ihq =>
    simp only [run, ihp hp.1 hnext, ihq hp.2 hnext]
    cases p.run here next <;> simp
  | plus greedy p ih =>
    refine ih hp fun there => ?_
    show (if here.offset < there.offset then _ else _) = _
    split
    · exact rounds_asciiLowercase (fun h => ih hp h) there.rest hnext
    · exact hnext there
  | capture name p ih =>
    refine ih hp fun there => ?_
    exact hnext { there with captures := ⟨name, here.offset, there.offset⟩ :: there.captures }

end Run

/-! ### Searching for a pattern -/

section Search

variable {p : Pattern} (hp : p.CaseBlind)

include hp

theorem matchAt_asciiLowercase (cursor : Cursor) :
    p.matchAt cursor.asciiLowercase = (p.matchAt cursor).map Match.asciiLowercase := by
  show p.run (Progress.asciiLowercase ⟨cursor, []⟩) _ = Option.map _ (p.run ⟨cursor, []⟩ _)
  exact run_asciiLowercase hp fun _ => rfl

/-- The match at a place, where an empty one may not count. -/
theorem matchAt_filter_asciiLowercase (emptyHere : Bool) (cursor : Cursor) :
    (p.matchAt cursor.asciiLowercase).filter (fun found => emptyHere || !found.isEmpty) =
      ((p.matchAt cursor).filter fun found => emptyHere || !found.isEmpty).map
        Match.asciiLowercase := by
  rw [matchAt_asciiLowercase hp]
  cases p.matchAt cursor with
  | none => rfl
  | some found =>
    have hempty : found.asciiLowercase.isEmpty = found.isEmpty := rfl
    simp only [Option.map_some, Option.filter_some, hempty]
    split <;> rfl

theorem findFrom_asciiLowercase (emptyHere : Bool) (before : Option Char) (offset : Nat)
    (rest : Text) :
    p.findFrom emptyHere (before.map asciiLower) offset rest.asciiLowercase =
      (p.findFrom emptyHere before offset rest).map Match.asciiLowercase := by
  induction rest generalizing emptyHere before offset with
  | nil => exact matchAt_filter_asciiLowercase hp emptyHere ⟨before, offset, []⟩
  | cons c rest ih =>
    have hhere := matchAt_filter_asciiLowercase hp emptyHere ⟨before, offset, c :: rest⟩
    have hbehind := ih true (some c) (offset + c.utf8Size)
    simp only [Cursor.asciiLowercase, asciiLowercase_cons, Option.map_some] at hhere hbehind
    simp only [asciiLowercase_cons, findFrom, utf8Size_asciiLower, hhere, hbehind]
    cases (p.matchAt ⟨before, offset, c :: rest⟩).filter _ <;> simp

/-- All matches in a lowered text are the matches in the text. -/
theorem findAll_asciiLowercase (text : Text) :
    p.findAll text.asciiLowercase = (p.findAll text).map Match.asciiLowercase := by
  rw [findAll, Match.all, length_asciiLowercase]
  exact Match.chain_asciiLowercase
    (fun emptyHere cursor => findFrom_asciiLowercase hp emptyHere cursor.before cursor.offset _)
    _ true (.start text)

/-- A pattern fits some part of a lowered text exactly if it fits some part of the text. -/
theorem matchesIn_asciiLowercase (text : Text) :
    p.matchesIn text.asciiLowercase = p.matchesIn text := by
  have hfind : p.find? text.asciiLowercase = (p.find? text).map Match.asciiLowercase :=
    findFrom_asciiLowercase hp true none 0 text
  rw [matchesIn, hfind, Option.isSome_map, matchesIn]

end Search

/-! ### Patterns that are blind to case -/

@[simp] theorem caseBlind_anchor (a : Anchor) : (anchor a).CaseBlind := trivial

@[simp] theorem caseBlind_seq {p q : Pattern} :
    (seq p q).CaseBlind ↔ p.CaseBlind ∧ q.CaseBlind := Iff.rfl

@[simp] theorem caseBlind_alt {p q : Pattern} :
    (alt p q).CaseBlind ↔ p.CaseBlind ∧ q.CaseBlind := Iff.rfl

@[simp] theorem caseBlind_capture {name : Text} {p : Pattern} :
    (capture name p).CaseBlind ↔ p.CaseBlind := Iff.rfl

@[simp] theorem caseBlind_optional {greedy : Bool} {p : Pattern} :
    (optional greedy p).CaseBlind ↔ p.CaseBlind := by
  cases greedy <;> simp [optional, CaseBlind]

@[simp] theorem caseBlind_star {greedy : Bool} {p : Pattern} :
    (star greedy p).CaseBlind ↔ p.CaseBlind :=
  caseBlind_optional

@[simp] theorem caseBlind_sequence {ps : List Pattern} :
    (sequence ps).CaseBlind ↔ ∀ p ∈ ps, p.CaseBlind := by
  induction ps using sequence.induct with
  | case1 => simp [sequence, CaseBlind]
  | case2 p => simp [sequence]
  | case3 p q rest ih => rw [sequence, caseBlind_seq, ih, ← List.forall_mem_cons]

@[simp] theorem caseBlind_choice {ps : List Pattern} :
    (choice ps).CaseBlind ↔ ∀ p ∈ ps, p.CaseBlind := by
  induction ps using choice.induct with
  | case1 => simp [choice, CaseBlind]
  | case2 p => simp [choice]
  | case3 p q rest ih => rw [choice, caseBlind_alt, ih, ← List.forall_mem_cons]

theorem caseBlind_letter (c : Char) : (letter c).CaseBlind := by
  intro d
  simp only [caseBlind_foldCode d]

@[simp] theorem caseBlind_word (w : Text) : (word w).CaseBlind := by
  refine caseBlind_sequence.mpr fun p hp => ?_
  obtain ⟨c, -, rfl⟩ := List.mem_map.mp hp
  exact caseBlind_letter c

@[simp] theorem caseBlind_anyWord (words : List Text) : (anyWord words).CaseBlind := by
  refine caseBlind_choice.mpr fun p hp => ?_
  obtain ⟨w, -, rfl⟩ := List.mem_map.mp hp
  exact caseBlind_word w

theorem caseBlind_char {c : Char} (h : isAsciiLetter c = false) : (char c).CaseBlind := by
  intro d
  rw [Bool.eq_iff_iff, beq_iff_eq, beq_iff_eq, asciiLower_eq_iff h]

@[simp] theorem caseBlind_boundary : boundary.CaseBlind := trivial

@[simp] theorem caseBlind_spaces : spaces.CaseBlind := caseBlind_star.mpr caseBlind_isSpace

@[simp] theorem caseBlind_someSpaces : someSpaces.CaseBlind := caseBlind_isSpace

@[simp] theorem caseBlind_quote : quote.CaseBlind := caseBlind_of_letters (by decide)

@[simp] theorem caseBlind_identifier : identifier.CaseBlind := caseBlind_of_letters (by decide)

end Pattern

end CfmlNav
