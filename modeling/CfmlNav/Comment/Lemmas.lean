import CfmlNav.Comment.Lexer

/-!
# Laws of the lexer

Every step of the lexer takes at least one character. Hence the bound in its definition does
not matter (`lexemesWithin_eq_lexemes`), the lexemes of a text are those of its first step and
of what is left (`lexemes_cons`), and together they are the text (`flatMap_text_lexemes`).
-/

namespace CfmlNav.LexMode

open Text

/-! ### Every step takes a character -/

theorem lineCommentLength_pos {c : Char} {rest : Text} (h : "//".toList.isPrefixOf (c :: rest)) :
    0 < lineCommentLength (c :: rest) := by
  obtain ⟨tail, htail⟩ : ∃ tail, c :: rest = '/' :: '/' :: tail := by
    obtain ⟨tail, htail⟩ := List.isPrefixOf_iff_prefix.mp h
    exact ⟨tail, htail.symm⟩
  have hslash : ('/' != '\n') = true := rfl
  simp only [htail, lineCommentLength, List.takeWhile_cons, hslash, if_true]
  split <;> simp

theorem tagCommentLength_pos (depth : Nat) (c : Char) (rest : Text) :
    0 < tagCommentLength 0 depth (c :: rest) := by
  unfold tagCommentLength
  split
  · omega
  · split
    · split <;> omega
    · omega

theorem tagLength_pos (c : Char) (rest : Text) : 0 < tagLength (c :: rest) := by
  unfold tagLength
  split <;> omega

theorem scriptStep_length_pos (mode : LexMode) (c : Char) (rest : Text) :
    0 < (mode.scriptStep c rest).length := by
  unfold scriptStep
  split
  · simp only; omega
  · split
    · exact lineCommentLength_pos (by assumption)
    · split
      · simp only; omega
      · simp only; omega

theorem step_length_pos (mode : LexMode) (c : Char) (rest : Text) :
    0 < (mode.step c rest).length := by
  cases mode with
  | script => exact scriptStep_length_pos script c rest
  | markup =>
    simp only [step, markupStep]
    split
    · exact tagCommentLength_pos 0 c rest
    · split
      · exact tagLength_pos c rest
      · simp only; omega
  | block =>
    simp only [step]
    split
    · simp only; decide
    · exact scriptStep_length_pos block c rest

/-! ### The bound does not matter -/

/-- Any bound that the length of the text allows gives the same lexemes. -/
theorem lexemesWithin_eq_lexemes {bound : Nat} {mode : LexMode} {text : Text}
    (h : text.length ≤ bound) : lexemesWithin bound mode text = lexemes mode text := by
  induction bound using Nat.strongRecOn generalizing mode text with
  | ind bound ih =>
    match bound, text with
    | 0, [] => rfl
    | 0, _ :: _ => simp at h
    | _ + 1, [] => rfl
    | bound + 1, c :: rest =>
      have hpos := step_length_pos mode c rest
      have hdrop : ((c :: rest).drop (mode.step c rest).length).length ≤ rest.length := by
        simp only [List.length_drop, List.length_cons]
        omega
      have hrest : rest.length ≤ bound := by simpa using h
      simp only [lexemes, lexemesWithin, List.length_cons]
      rw [ih bound (Nat.lt_succ_self _) (Nat.le_trans hdrop hrest)]
      by_cases heq : rest.length = bound
      · rw [heq, ih bound (Nat.lt_succ_self _) (heq ▸ hdrop)]
      · rw [ih rest.length (by omega) hdrop]

@[simp] theorem lexemes_nil (mode : LexMode) : lexemes mode [] = [] := rfl

/-- The lexemes of a text are that of its first step and those of what is left. -/
theorem lexemes_cons (mode : LexMode) (c : Char) (rest : Text) :
    lexemes mode (c :: rest) =
      ⟨(mode.step c rest).comment, (c :: rest).take (mode.step c rest).length⟩ ::
        lexemes (mode.step c rest).mode ((c :: rest).drop (mode.step c rest).length) := by
  have hpos := step_length_pos mode c rest
  have hdrop : ((c :: rest).drop (mode.step c rest).length).length ≤ rest.length := by
    simp only [List.length_drop, List.length_cons]
    omega
  simp only [lexemes, lexemesWithin, List.length_cons]
  rw [lexemesWithin_eq_lexemes hdrop, lexemes]

/-- **Nothing is lost.** The lexemes joined are the text. -/
theorem flatMap_text_lexemes (mode : LexMode) (text : Text) :
    (lexemes mode text).flatMap Lexeme.text = text := by
  induction h : text.length using Nat.strongRecOn generalizing mode text with
  | ind n ih =>
    match text with
    | [] => rfl
    | c :: rest =>
      have hpos := step_length_pos mode c rest
      have hlt : ((c :: rest).drop (mode.step c rest).length).length < n := by
        rw [← h, List.length_drop, List.length_cons]
        omega
      rw [lexemes_cons, List.flatMap_cons, ih _ hlt _ _ rfl, List.take_append_drop]

/-- No lexeme is empty. -/
theorem text_ne_nil_of_mem_lexemes {mode : LexMode} {text : Text} {lexeme : Lexeme}
    (h : lexeme ∈ lexemes mode text) : lexeme.text ≠ [] := by
  induction hlength : text.length using Nat.strongRecOn generalizing mode text with
  | ind n ih =>
    match text with
    | [] => simp at h
    | c :: rest =>
      have hpos := step_length_pos mode c rest
      have hlt : ((c :: rest).drop (mode.step c rest).length).length < n := by
        rw [← hlength, List.length_drop, List.length_cons]
        omega
      rw [lexemes_cons] at h
      rcases List.mem_cons.mp h with rfl | hlater
      · intro hnil
        rcases List.take_eq_nil_iff.mp hnil with hzero | hempty
        · omega
        · simp at hempty
      · exact ih _ hlt hlater rfl

end CfmlNav.LexMode
