import CfmlNav.Character.Case
import CfmlNav.Pattern.Basic
import CfmlNav.Character.Identifier

/-!
# Characters around identifiers

Identifiers are told apart from what surrounds them by their characters. White space belongs to no
identifier, neither to those of patterns nor to those of documents (`isNamePart_of_isSpace`,
`isWordCharacter_of_isSpace`), while a keyword in any case consists of characters of both
(`isNamePart_of_foldCode`, `isWordCharacter_of_foldCode`), as its letters fold to those of ASCII
(`foldCode_of_fold`). The classes are tables of code points,
so each statement comes down to a check of finitely many entries.
-/

namespace CfmlNav.Character

open Pattern

/-! ### Checks of finitely many characters -/

/-- What holds for the first 128 characters holds for those of ASCII. -/
theorem of_isAscii {motive : Char → Prop} (h : ∀ i < 128, motive (Char.ofNat i)) {c : Char}
    (hc : isAscii c = true) : motive c := by
  have hcode := h c.toNat (of_decide_eq_true hc)
  rwa [Char.ofNat_toNat] at hcode

/-- What holds for every member of the ranges of a table holds for the characters in it. -/
theorem of_inRanges {motive : Char → Prop} {ranges : List (Nat × Nat)}
    (h : ∀ range ∈ ranges, ∀ i < range.2 - range.1 + 1, motive (Char.ofNat (range.1 + i)))
    {c : Char} (hc : inRanges c.toNat ranges = true) : motive c := by
  induction ranges with
  | nil => simp [inRanges] at hc
  | cons range ranges ih =>
    rw [List.forall_mem_cons] at h
    rw [inRanges] at hc
    split at hc
    next => simp at hc
    next hlow =>
      rcases Bool.or_eq_true_iff.mp hc with hhigh | hrest
      · have hhigh : c.toNat ≤ range.2 := of_decide_eq_true hhigh
        have hmember := h.1 (c.toNat - range.1) (by omega)
        rwa [show range.1 + (c.toNat - range.1) = c.toNat by omega, Char.ofNat_toNat] at hmember
      · exact ih h.2 hrest

theorem isNamePart_of_isSpace {c : Char} (h : isSpace c = true) : isNamePart c = false :=
  of_inRanges (motive := fun c => isNamePart c = false) (by decide +kernel) h

theorem isWord_of_isSpace {c : Char} (h : isSpace c = true) : isWord c = false := by
  have hpart := isNamePart_of_isSpace h
  rw [isNamePart, Bool.or_eq_false_iff] at hpart
  exact hpart.2

theorem isWordCharacter_of_isSpace {c : Char} (h : isSpace c = true) :
    isWordCharacter c = false :=
  of_inRanges (motive := fun c => isWordCharacter c = false) (by decide +kernel) h

/-! ### Case variants of letters -/

/-- A code point is carried by a run that it lies in, or stays where it is. -/
theorem exists_run_of_carry {n m : Nat} {runs : List Run} (h : carry n runs = m) :
    m = n ∨ ∃ run ∈ runs, run.first ≤ n ∧ n ≤ run.last ∧ m = run.image + (n - run.first) := by
  induction runs with
  | nil => exact Or.inl h.symm
  | cons run runs ih =>
    rw [carry] at h
    split at h
    next => exact Or.inl h.symm
    next =>
      rcases hcarry : run.carry? n with _ | image
      · rw [hcarry] at h
        rcases ih h with hsame | ⟨other, hmem, hother⟩
        · exact Or.inl hsame
        · exact Or.inr ⟨other, List.mem_cons_of_mem _ hmem, hother⟩
      · rw [hcarry] at h
        rw [Run.carry?] at hcarry
        split at hcarry
        next hin =>
          obtain rfl : image = m := h
          have himage := Option.some_inj.mp hcarry
          exact Or.inr ⟨run, List.mem_cons_self, hin.1, hin.2.1, himage.symm⟩
        next => simp at hcarry

/-- Only the capital letters of ASCII, the long s and the Kelvin sign are carried to small letters
of ASCII. -/
theorem foldRuns_letters : ∀ run ∈ foldRuns,
    122 < run.image ∨ run.image + (run.last - run.first) < 97 ∨
      run.first = 65 ∧ run.last = 90 ∧ run.image = 97 ∨
      run.first = 0x17F ∧ run.last = 0x17F ∧ run.image = 0x73 ∨
      run.first = 0x212A ∧ run.last = 0x212A ∧ run.image = 0x6B := by
  decide +kernel

/-- The case variants of a small letter of ASCII. -/
theorem toNat_of_foldCode {c : Char} {n : Nat} (hlow : 97 ≤ n) (hhigh : n ≤ 122)
    (h : foldCode c = n) :
    c.toNat = n ∨ c.toNat + 32 = n ∨ c.toNat = 0x17F ∧ n = 0x73 ∨ c.toNat = 0x212A ∧ n = 0x6B := by
  rcases exists_run_of_carry h with hsame | ⟨run, hmem, hfirst, hlast, himage⟩
  · exact Or.inl hsame.symm
  · rcases foldRuns_letters run hmem with h | h | h | h | h <;> omega

/-- What holds for the letters of ASCII, the long s and the Kelvin sign holds for all case variants
of a small letter of ASCII. -/
theorem of_foldCode {motive : Char → Prop}
    (hsmall : ∀ i < 26, motive (Char.ofNat (97 + i)))
    (hcapital : ∀ i < 26, motive (Char.ofNat (65 + i))) (hlong : motive (Char.ofNat 0x17F))
    (hkelvin : motive (Char.ofNat 0x212A)) {c : Char} (hlow : 97 ≤ foldCode c)
    (hhigh : foldCode c ≤ 122) : motive c := by
  have hc : c = Char.ofNat c.toNat := (Char.ofNat_toNat c).symm
  rcases toNat_of_foldCode hlow hhigh rfl with h | h | ⟨h, -⟩ | ⟨h, -⟩
  · rw [hc, show c.toNat = 97 + (c.toNat - 97) by omega]
    exact hsmall _ (by omega)
  · rw [hc, show c.toNat = 65 + (c.toNat - 65) by omega]
    exact hcapital _ (by omega)
  · rw [hc, h]
    exact hlong
  · rw [hc, h]
    exact hkelvin

theorem isWord_of_foldCode {c : Char} (hlow : 97 ≤ foldCode c) (hhigh : foldCode c ≤ 122) :
    isWord c = true :=
  of_foldCode (motive := fun c => isWord c = true) (by decide) (by decide)
    (by decide +kernel) (by decide +kernel) hlow hhigh

theorem isNamePart_of_foldCode {c : Char} (hlow : 97 ≤ foldCode c) (hhigh : foldCode c ≤ 122) :
    isNamePart c = true :=
  of_foldCode (motive := fun c => isNamePart c = true) (by decide) (by decide)
    (by decide +kernel) (by decide +kernel) hlow hhigh

theorem isWordCharacter_of_foldCode {c : Char} (hlow : 97 ≤ foldCode c) (hhigh : foldCode c ≤ 122) :
    isWordCharacter c = true :=
  of_foldCode (motive := fun c => isWordCharacter c = true) (by decide) (by decide)
    (by decide +kernel) (by decide +kernel) hlow hhigh

/-- Case variants of a small letter of ASCII other than `k` and `s` are variants within ASCII. -/
theorem asciiLower_of_foldCode {c : Char} {n : Nat} (hlow : 97 ≤ n) (hhigh : n ≤ 122)
    (hs : n ≠ 0x73) (hk : n ≠ 0x6B) (h : foldCode c = n) : asciiLower c = Char.ofNat n := by
  have hsmall : ∀ i < 26, asciiLower (Char.ofNat (97 + i)) = Char.ofNat (97 + i) := by decide
  have hcapital : ∀ i < 26, asciiLower (Char.ofNat (65 + i)) = Char.ofNat (97 + i) := by decide
  have hn : n = 97 + (n - 97) := by omega
  have hc : c = Char.ofNat c.toNat := (Char.ofNat_toNat c).symm
  rcases toNat_of_foldCode hlow hhigh h with hsame | hlower | ⟨-, hlong⟩ | ⟨-, hkelvin⟩
  · rw [hc, hsame, hn]
    exact hsmall _ (by omega)
  · rw [hc, hn, show c.toNat = 65 + (n - 97) by omega]
    exact hcapital _ (by omega)
  · exact absurd hlong hs
  · exact absurd hkelvin hk

/-- Whether a word consists of small letters of ASCII, all of them fixed by folding. -/
def isLetters (w : Text) : Bool :=
  w.all fun c => decide (97 ≤ foldCode c ∧ foldCode c ≤ 122)

/-- A word of letters in any case consists of case variants of letters. -/
theorem foldCode_of_fold {taken w : Text} (hfold : taken.map foldCode = w.map foldCode)
    (hw : isLetters w = true) : ∀ c ∈ taken, 97 ≤ foldCode c ∧ foldCode c ≤ 122 := by
  intro c hc
  have hcode : foldCode c ∈ w.map foldCode := by
    rw [← hfold]
    exact List.mem_map_of_mem hc
  obtain ⟨d, hd, hsame⟩ := List.mem_map.mp hcode
  rw [← hsame]
  exact of_decide_eq_true (List.all_eq_true.mp hw d hd)

/-- The characters of a keyword, in any case, belong to identifiers. -/
theorem isNamePart_of_fold {taken w : Text} (hfold : taken.map foldCode = w.map foldCode)
    (hw : isLetters w = true) : ∀ c ∈ taken, isNamePart c = true := by
  intro c hc
  obtain ⟨hlow, hhigh⟩ := foldCode_of_fold hfold hw c hc
  exact isNamePart_of_foldCode hlow hhigh

end CfmlNav.Character
