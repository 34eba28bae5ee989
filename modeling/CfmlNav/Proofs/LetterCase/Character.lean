import CfmlNav.Character.Case
import CfmlNav.Character.Fold
import CfmlNav.Character.Identifier
import CfmlNav.Character.Space

/-!
# Characters up to ASCII case

Lowering moves the 26 capital letters of ASCII and nothing else, so a statement about a
character and its lowered form holds as soon as it holds for a character and itself and for the
26 pairs of letters (`asciiLower_induction`). A property is *blind to case* when a character and
its lowered form have it together; the character classes of documents and of patterns all are.
-/

namespace CfmlNav.Character

/-! ### The letters that lowering moves -/

/-- A capital letter of ASCII is one of 26. -/
theorem exists_capital {c : Char} (h : 'A' ≤ c ∧ c ≤ 'Z') :
    ∃ i : Fin 26, c = Char.ofNat (65 + i) := by
  have hlow : 65 ≤ c.toNat := h.1
  have hhigh : c.toNat ≤ 90 := h.2
  refine ⟨⟨c.toNat - 65, by omega⟩, ?_⟩
  rw [show 65 + (c.toNat - 65) = c.toNat by omega, Char.ofNat_toNat]

theorem asciiLower_capital (i : Fin 26) :
    asciiLower (Char.ofNat (65 + i)) = Char.ofNat (97 + i) := by
  revert i
  decide

/-- What holds of every character and itself, and of the 26 pairs of letters, holds of every
character and its lowered form. -/
theorem asciiLower_induction {motive : Char → Char → Prop} (same : ∀ c, motive c c)
    (letter : ∀ i : Fin 26, motive (Char.ofNat (65 + i)) (Char.ofNat (97 + i))) (c : Char) :
    motive c (asciiLower c) := by
  by_cases h : 'A' ≤ c ∧ c ≤ 'Z'
  · obtain ⟨i, rfl⟩ := exists_capital h
    rw [asciiLower_capital]
    exact letter i
  · rw [asciiLower, if_neg h]
    exact same c

@[simp] theorem utf8Size_asciiLower (c : Char) : (asciiLower c).utf8Size = c.utf8Size :=
  asciiLower_induction (motive := fun c d => d.utf8Size = c.utf8Size) (fun _ => rfl) (by decide) c

/-- Whether a character is a letter of ASCII. -/
def isAsciiLetter (c : Char) : Bool :=
  decide ('A' ≤ c ∧ c ≤ 'Z') || decide ('a' ≤ c ∧ c ≤ 'z')

/-- Lowering leaves alone what is no letter, and nothing else becomes it. -/
theorem asciiLower_eq_iff {c d : Char} (hd : isAsciiLetter d = false) :
    asciiLower c = d ↔ c = d := by
  refine asciiLower_induction (motive := fun c c' => c' = d ↔ c = d) (fun _ => Iff.rfl) ?_ c
  intro i
  have hletters : ∀ i : Fin 26, isAsciiLetter (Char.ofNat (65 + i)) = true ∧
      isAsciiLetter (Char.ofNat (97 + i)) = true := by decide
  refine iff_of_false ?_ ?_
  · rintro rfl
    rw [(hletters i).2] at hd
    contradiction
  · rintro rfl
    rw [(hletters i).1] at hd
    contradiction

/-- A lowered character, if there is one, is a given one that is no letter exactly if the
character is. -/
theorem map_asciiLower_beq_some {d : Char} (hd : isAsciiLetter d = false) (side : Option Char) :
    (side.map asciiLower == some d) = (side == some d) := by
  cases side with
  | none => rfl
  | some c => rw [Option.map_some, Bool.eq_iff_iff, beq_iff_eq, beq_iff_eq, Option.some_inj,
      Option.some_inj, asciiLower_eq_iff hd]

/-! ### Properties that are blind to case -/

/-- A property of characters that a character and its lowered form have together. -/
def CaseBlind {α : Type} (p : Char → α) : Prop :=
  ∀ c, p (asciiLower c) = p c

/-- To be blind to case it is enough to agree on the 26 pairs of letters. -/
theorem caseBlind_of_letters {α : Type} {p : Char → α}
    (h : ∀ i : Fin 26, p (Char.ofNat (97 + i)) = p (Char.ofNat (65 + i))) :
    CaseBlind p :=
  asciiLower_induction (motive := fun c d => p d = p c) (fun _ => rfl) h

@[simp] theorem asciiLower_asciiLower (c : Char) : asciiLower (asciiLower c) = asciiLower c :=
  caseBlind_of_letters (p := asciiLower) (by decide) c

theorem caseBlind_isSpace : CaseBlind isSpace := caseBlind_of_letters (by decide)

theorem caseBlind_isWord : CaseBlind isWord := caseBlind_of_letters (by decide)

theorem caseBlind_isWordCharacter : CaseBlind isWordCharacter := caseBlind_of_letters (by decide)

theorem caseBlind_foldCode : CaseBlind foldCode := caseBlind_of_letters (by decide)

theorem caseBlind_isCased : CaseBlind isCased := caseBlind_of_letters (by decide)

theorem caseBlind_isCaseIgnorable : CaseBlind isCaseIgnorable := caseBlind_of_letters (by decide)

theorem caseBlind_lower : CaseBlind lower := caseBlind_of_letters (by decide)

theorem caseBlind_isAscii : CaseBlind isAscii := caseBlind_of_letters (by decide)

end CfmlNav.Character
