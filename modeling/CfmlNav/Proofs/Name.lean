import CfmlNav.Proofs.LetterCase.Key
import CfmlNav.Proofs.Text.Block

/-!
# Names and their keys

Two names are the same exactly if they have one key (`Name.same_iff_key_eq`): names of ASCII alone
take a shorter way to the same answer, because lowering within ASCII goes letter by letter.

The key of a name is not a matter of its characters alone. A capital sigma is lowered to a final one
if a character with case stands before it and none behind it, so a name may have another key where
it follows a word. What stands before a name counts only as far as the name opens with characters
that are passed over, and then only by whether a character with case comes next
(`Text.lowercaseFrom_congr`). So there are two keys, one for a name on its own and one for a name
behind letters, and they differ exactly for names that open with a lone capital sigma
(`Name.keyBehindLetters_ne_key_iff`): by this sigma, which is small in the first and final in the
second (`Name.exists_keys_of_lone_sigma`).
-/

namespace CfmlNav

open Character Text

namespace Name

variable {a b : Text}

/-! ### Sameness -/

theorem key_of_isAscii (h : a.isAscii = true) : key a = a.asciiLowercase :=
  lowercaseFrom_of_isAscii [] h

/-- **One notion of sameness.** Names are compared by their keys, by whichever way. -/
theorem same_iff_key_eq : same a b = true ↔ key a = key b := by
  rw [same, Bool.or_eq_true, beq_iff_eq, Bool.and_eq_true, beq_iff_eq]
  constructor
  · rintro (hascii | ⟨-, hkey⟩)
    · rw [← key_asciiLowercase a, hascii, key_asciiLowercase]
    · exact hkey
  · intro hkey
    cases hboth : a.isAscii && b.isAscii with
    | true =>
      rw [Bool.and_eq_true] at hboth
      exact .inl ((key_of_isAscii hboth.1).symm.trans (hkey.trans (key_of_isAscii hboth.2)))
    | false => exact .inr ⟨rfl, hkey⟩

theorem same_eq_beq_key (a b : Text) : same a b = (key a == key b) := by
  rw [Bool.eq_iff_iff, same_iff_key_eq, beq_iff_eq]

theorem equivalence_same : Equivalence fun a b => same a b = true := by
  refine ⟨fun a => ?_, fun h => ?_, fun h h' => ?_⟩
  · exact same_iff_key_eq.mpr rfl
  · exact same_iff_key_eq.mpr (same_iff_key_eq.mp h).symm
  · exact same_iff_key_eq.mpr ((same_iff_key_eq.mp h).trans (same_iff_key_eq.mp h'))

end Name

/-! ### What stands before a text -/

namespace Text

variable {before other : Text}

/-- Lowering sees of what stands before a text only whether it ends in a character with case. -/
theorem lowercaseFrom_congr (h : startsCased before = startsCased other) (t : Text) :
    lowercaseFrom before t = lowercaseFrom other t := by
  induction t generalizing before other with
  | nil => rfl
  | cons c t ih =>
    have hnext : startsCased (c :: before) = startsCased (c :: other) := by
      by_cases hc : isCaseIgnorable c = true
      · simpa [startsCased, hc] using h
      · simp [startsCased, hc]
    rw [lowercaseFrom, lowercaseFrom, ih hnext, lowerBetween, lowerBetween, h]

end Text

/-! ### Names behind letters -/

namespace Name

variable {a b verb : Text} {c : Char}

/-- The key that a name has where it follows letters. -/
def keyBehindLetters (name : Text) : Text :=
  lowercaseFrom ['t'] name

/-- Whether a name opens with a capital sigma that no character with case follows. Characters that
are passed over do not count on either side. -/
def opensWithLoneSigma (name : Text) : Bool :=
  match name.dropWhile isCaseIgnorable with
  | [] => false
  | c :: rest => c == 'Σ' && !startsCased rest

/-- A word of ASCII that ends in a letter can be cut off from the key of a name behind it. -/
theorem key_append (hverb : verb.isAscii = true) (hletter : startsCased verb.reverse = true)
    (name : Text) : key (verb ++ name) = verb.asciiLowercase ++ keyBehindLetters name := by
  have hbefore : startsCased (verb.reverse ++ []) = startsCased ['t'] := by
    rw [List.append_nil, hletter]
    decide +kernel
  rw [key, lowercase, lowercaseFrom_append_of_isAscii [] hverb, lowercaseFrom_congr hbefore]
  rfl

theorem opensWithLoneSigma_cons_of_ignorable (hc : isCaseIgnorable c = true) (name : Text) :
    opensWithLoneSigma (c :: name) = opensWithLoneSigma name := by
  rw [opensWithLoneSigma, List.dropWhile_cons_of_pos hc, opensWithLoneSigma]

/-- Characters that are passed over are lowered alike in both keys. -/
theorem keys_cons_of_ignorable (hc : isCaseIgnorable c = true) (name : Text) :
    key (c :: name) = lower c ++ key name ∧
      keyBehindLetters (c :: name) = lower c ++ keyBehindLetters name := by
  have hsigma : c ≠ 'Σ' := by
    rintro rfl
    exact absurd hc (by decide +kernel)
  have hpassed (before : Text) : startsCased (c :: before) = startsCased before := by
    rw [startsCased, List.dropWhile_cons_of_pos hc, startsCased]
  constructor
  · rw [key, lowercase, lowercaseFrom, lowerBetween, if_neg hsigma,
      lowercaseFrom_congr (hpassed [])]
    rfl
  · rw [keyBehindLetters, lowercaseFrom, lowerBetween, if_neg hsigma,
      lowercaseFrom_congr (hpassed ['t'])]
    rfl

/-- Behind a character that is not passed over both keys go on alike. -/
theorem lowercaseFrom_cons_of_not_ignorable (hc : isCaseIgnorable c = false) (before t : Text) :
    lowercaseFrom (c :: before) t = lowercaseFrom [c] t := by
  refine lowercaseFrom_congr ?_ t
  simp [startsCased, hc]

/-- The final sigma is the lower case form of no other character on its own. -/
theorem eq_of_finalSigma_mem_lower (h : 'ς' ∈ lower c) : c = 'ς' := by
  rw [lower] at h
  split at h
  next => exact absurd h (by decide)
  next =>
    have hform : Char.ofNat (carry c.toNat lowerRuns) = 'ς' := (List.mem_singleton.mp h).symm
    have hcarry : carry c.toNat lowerRuns = 0x3C2 :=
      (eq_toNat_ofNat (by rw [hform]; decide)).trans (congrArg Char.toNat hform)
    -- no run of the table leads to the final sigma
    have hmissed : ∀ run ∈ lowerRuns,
        0x3C2 < run.image ∨ run.image + (run.last - run.first) < 0x3C2 := by
      decide +kernel
    rcases exists_run_of_carry hcarry with hsame | ⟨run, hmem, hfirst, hlast, himage⟩
    · exact Char.toNat_inj.mp hsame.symm
    · rcases hmissed run hmem with hlarge | hsmall
      · omega
      · omega

/-- A name that opens with a lone sigma has two keys that differ in this sigma only. It is the first
sigma of the second key that is final. -/
theorem exists_keys_of_lone_sigma (h : opensWithLoneSigma a = true) :
    ∃ front back, key a = front ++ 'σ' :: back ∧ keyBehindLetters a = front ++ 'ς' :: back ∧
      'ς' ∉ front := by
  induction a with
  | nil => contradiction
  | cons c a ih =>
    cases hc : isCaseIgnorable c with
    | true =>
      rw [opensWithLoneSigma_cons_of_ignorable hc] at h
      obtain ⟨front, back, hkey, hbehind, hfront⟩ := ih h
      obtain ⟨hkey', hbehind'⟩ := keys_cons_of_ignorable hc a
      -- the final sigma has case itself, so it is not passed over
      have hlower : 'ς' ∉ lower c := by
        intro hmem
        rw [eq_of_finalSigma_mem_lower hmem] at hc
        exact absurd hc (by decide +kernel)
      refine ⟨lower c ++ front, back, ?_, ?_, ?_⟩
      · rw [hkey', hkey, List.append_assoc]
      · rw [hbehind', hbehind, List.append_assoc]
      · exact List.not_mem_append hlower hfront
    | false =>
      rw [opensWithLoneSigma, List.dropWhile_cons_of_neg (by simp [hc])] at h
      simp only [Bool.and_eq_true, beq_iff_eq, Bool.not_eq_true'] at h
      obtain ⟨rfl, hrest⟩ := h
      have hbefore : startsCased [] = false ∧ startsCased ['t'] = true := by decide +kernel
      refine ⟨[], lowercaseFrom ['Σ'] a, ?_, ?_, List.not_mem_nil⟩
      · rw [key, lowercase, lowercaseFrom, lowerBetween, hbefore.1]
        rfl
      · rw [keyBehindLetters, lowercaseFrom, lowerBetween, hbefore.2, hrest,
          lowercaseFrom_cons_of_not_ignorable hc]
        rfl

/-- Any other name keeps its key behind letters. -/
theorem keyBehindLetters_eq_key (h : opensWithLoneSigma a = false) :
    keyBehindLetters a = key a := by
  induction a with
  | nil => rfl
  | cons c a ih =>
    cases hc : isCaseIgnorable c with
    | true =>
      rw [opensWithLoneSigma_cons_of_ignorable hc] at h
      obtain ⟨hkey, hbehind⟩ := keys_cons_of_ignorable hc a
      rw [hkey, hbehind, ih h]
    | false =>
      rw [opensWithLoneSigma, List.dropWhile_cons_of_neg (by simp [hc])] at h
      -- only the form of a sigma depends on what stands before it, and only in front of no case
      have hform : lowerBetween ['t'] c a = lowerBetween [] c a := by
        by_cases hsigma : c = 'Σ'
        · have hrest : startsCased a = true := by simpa [hsigma] using h
          rw [lowerBetween, lowerBetween, hrest]
          simp
        · rw [lowerBetween, lowerBetween, if_neg hsigma, if_neg hsigma]
      rw [keyBehindLetters, key, lowercase, lowercaseFrom, lowercaseFrom, hform,
        lowercaseFrom_cons_of_not_ignorable hc]

theorem keyBehindLetters_ne_key_iff : keyBehindLetters a ≠ key a ↔ opensWithLoneSigma a = true := by
  constructor
  · intro hne
    by_contra hnot
    exact hne (keyBehindLetters_eq_key (Bool.eq_false_iff.mpr hnot))
  · intro h heq
    obtain ⟨front, back, hkey, hbehind, -⟩ := exists_keys_of_lone_sigma h
    rw [hkey, hbehind, List.append_cancel_left_eq] at heq
    exact absurd (List.cons.inj heq).1 (by decide)

/-- Names that are one behind letters are one on their own, if both open with a lone sigma or
neither does. -/
theorem key_eq_of_keyBehindLetters_eq (h : keyBehindLetters a = keyBehindLetters b)
    (hsigma : opensWithLoneSigma a = opensWithLoneSigma b) : key a = key b := by
  cases ha : opensWithLoneSigma a with
  | false => rw [← keyBehindLetters_eq_key ha, h, keyBehindLetters_eq_key (hsigma ▸ ha)]
  | true =>
    obtain ⟨front, back, hkey, hbehind, hfront⟩ := exists_keys_of_lone_sigma ha
    obtain ⟨front', back', hkey', hbehind', hfront'⟩ := exists_keys_of_lone_sigma (hsigma ▸ ha)
    rw [hbehind, hbehind'] at h
    -- both fronts end at the first final sigma
    have hpass {front : Text} (hfront : 'ς' ∉ front) : ∀ c ∈ front, (c != 'ς') = true :=
      fun c hc => bne_iff_ne.mpr (ne_of_mem_of_not_mem hc hfront)
    obtain ⟨rfl, hback⟩ := append_inj_of_block h (hpass hfront) (hpass hfront') (by simp) (by simp)
    rw [hkey, hkey', (List.cons.inj hback).2]

end Name

end CfmlNav
