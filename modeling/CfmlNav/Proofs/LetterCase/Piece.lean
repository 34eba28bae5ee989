import CfmlNav.Proofs.LetterCase.Key

/-!
# Lower case forms piece by piece

The lower case form of a character depends on its neighbours only as far as the nearest character
that is neither passed over nor of a word. A slash is such a character, so lowering goes along the
slashes of a path (`isPiecewise_lowercase`), and so does its key (`FileSet.key_append_slash`).
-/

namespace CfmlNav

open Character

namespace Text

variable {t u : Text} {c d : Char}

/-! ### Slashes as neighbours -/

/-- What stands beyond a slash is no neighbour. -/
theorem startsCased_append_slash (t u : Text) : startsCased (t ++ '/' :: u) = startsCased t := by
  have hignorable : isCaseIgnorable '/' = false := by decide +kernel
  have hcased : isCased '/' = false := by decide +kernel
  induction t with
  | nil => simp [startsCased, hignorable, hcased]
  | cons c t ih =>
    rw [List.cons_append, startsCased, startsCased, List.dropWhile_cons, List.dropWhile_cons]
    split
    · exact ih
    · rfl

theorem lowercaseFrom_append_slash (before beyond t : Text) :
    lowercaseFrom (before ++ '/' :: beyond) t = lowercaseFrom before t := by
  induction t generalizing before with
  | nil => rfl
  | cons c t ih =>
    rw [lowercaseFrom, lowerBetween, startsCased_append_slash, ← List.cons_append, ih]
    rfl

theorem lowercase_append_slash (front back : Text) :
    lowercase (front ++ '/' :: back) = lowercase front ++ '/' :: lowercase back := by
  have hslash (before : Text) : lowerBetween before '/' back = ['/'] := by
    rw [lowerBetween, if_neg (by decide), lower_of_isAscii rfl]
    rfl
  have hfrom (before : Text) : lowercaseFrom before (front ++ '/' :: back) =
      lowercaseFrom before front ++ '/' :: lowercase back := by
    induction front generalizing before with
    | nil =>
      show lowerBetween before '/' back ++ _ = _
      rw [hslash]
      exact congrArg ('/' :: ·) (lowercaseFrom_append_slash [] before back)
    | cons c front ih =>
      rw [List.cons_append, lowercaseFrom, lowercaseFrom, ih, lowerBetween, startsCased_append_slash,
        List.append_assoc]
      rfl
  exact hfrom []

/-! ### Pieces and separators -/

/-- A character of ASCII in lower case other than `i` and `k` comes from its own letter only. -/
theorem asciiLower_of_mem_lowerBetween {before behind : Text} (hc : isPlainLower c = true)
    (hi : c ≠ 'i') (h : c ∈ lowerBetween before d behind) : asciiLower d = c := by
  have hlast : c ∈ (lowerBetween before d behind).getLast? := by
    unfold lowerBetween lower at h ⊢
    split_ifs at h ⊢ <;> simp_all
  exact (asciiLower_of_lowerBetween hc hlast).2

theorem mem_of_mem_lowercaseFrom (hc : isPlainLower c = true) (hi : c ≠ 'i')
    (hletter : isAsciiLetter c = false) (before : Text) (h : c ∈ lowercaseFrom before t) : c ∈ t := by
  induction t generalizing before with
  | nil => exact h
  | cons d t ih =>
    rw [lowercaseFrom, List.mem_append] at h
    rcases h with hform | hrest
    · rw [(asciiLower_eq_iff hletter).mp (asciiLower_of_mem_lowerBetween hc hi hform)]
      exact List.mem_cons_self
    · exact List.mem_cons_of_mem d (ih _ hrest)

theorem lowercase_eq_nil_iff : lowercase t = [] ↔ t = [] := by
  constructor
  · intro h
    have hlength := length_le_lowercaseFrom [] t
    rw [show lowercaseFrom [] t = [] from h] at hlength
    exact List.eq_nil_of_length_eq_zero (Nat.le_zero.mp hlength)
  · rintro rfl
    rfl

theorem lowercase_eq_dot_iff : lowercase t = ['.'] ↔ t = ['.'] := by
  constructor
  · intro h
    have hform : lowercaseFrom [] t = [] ++ ['.'] := h
    obtain ⟨front, back, rfl, hback⟩ := exists_suffix_of_lowercaseFrom (by decide) hform
    obtain rfl : back = ['.'] := (asciiLowercase_eq_iff (by decide)).mp hback
    have hlength := length_le_lowercaseFrom [] (front ++ ['.'])
    rw [hform, List.length_append] at hlength
    obtain rfl : front = [] := List.eq_nil_of_length_eq_zero (Nat.le_zero.mp (by simpa using hlength))
    rfl
  · rintro rfl
    decide +kernel

end Text

theorem isPiecewise_lowercase : IsPiecewise Text.lowercase where
  append_slash := Text.lowercase_append_slash
  not_mem hslash hmem :=
    hslash (Text.mem_of_mem_lowercaseFrom (by decide) (by decide) (by decide) [] hmem)
  eq_nil_iff := Text.lowercase_eq_nil_iff
  eq_dot_iff := Text.lowercase_eq_dot_iff

/-! ### Keys -/

namespace FileSet

open Text

theorem key_append_slash (front back : Text) :
    key (front ++ '/' :: back) = key front ++ '/' :: key back := by
  rw [key, List.map_append, List.map_cons]
  exact lowercase_append_slash _ _

/-- A character with the slash turned, if it is one. -/
def turn (c : Char) : Char :=
  if c = '\\' then '/' else c

/-- A map that does not tell the two slashes apart does not see that they are turned. -/
theorem comp_turn {α : Type} {f : Char → α} (h : f '/' = f '\\') : f ∘ turn = f := by
  funext c
  rw [Function.comp_apply, turn]
  split_ifs with hc
  · rw [hc, h]
  · rfl

theorem startsCased_map_turn (t : Text) : startsCased (t.map turn) = startsCased t := by
  have hpassed : isCaseIgnorable ∘ turn = isCaseIgnorable := comp_turn (by decide +kernel)
  have hcased : isCased ∘ turn = isCased := comp_turn (by decide +kernel)
  rw [startsCased, List.dropWhile_map, hpassed, List.head?_map, Option.map_map, hcased, startsCased]

theorem lowerBetween_map_turn (before : Text) (c : Char) (behind : Text) :
    lowerBetween (before.map turn) (turn c) (behind.map turn) =
      (lowerBetween before c behind).map turn := by
  have hsame : lowerBetween (before.map turn) c (behind.map turn) = lowerBetween before c behind := by
    rw [lowerBetween, startsCased_map_turn, startsCased_map_turn, lowerBetween]
  by_cases hc : c = '\\'
  · subst hc
    rw [lowerBetween, lowerBetween, if_neg (by decide), if_neg (by decide)]
    decide +kernel
  · have hnone : '\\' ∉ lowerBetween before c behind := fun hmem =>
      hc ((asciiLower_eq_iff rfl).mp
        (asciiLower_of_mem_lowerBetween (by decide) (by decide) hmem))
    rw [show turn c = c from if_neg hc, hsame]
    exact (map_slash_eq_self hnone).symm

/-- The key of a path is the lower case form with its slashes turned. -/
theorem key_eq_map_lowercase (path : Path) : key path = (lowercase path).map turn := by
  have hfrom (before t : Text) :
      lowercaseFrom (before.map turn) (t.map turn) = (lowercaseFrom before t).map turn := by
    induction t generalizing before with
    | nil => rfl
    | cons c t ih =>
      rw [List.map_cons, lowercaseFrom, lowerBetween_map_turn, ← List.map_cons, ih, ← List.map_append]
      rfl
  exact hfrom [] path

theorem key_congr_of_lowercase {path other : Path} (h : lowercase path = lowercase other) :
    key path = key other := by
  rw [key_eq_map_lowercase, h, key_eq_map_lowercase]

end FileSet

end CfmlNav
