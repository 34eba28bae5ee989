import CfmlNav.Qualifier
import CfmlNav.Proofs.Character
import CfmlNav.Proofs.Pattern.Search
import CfmlNav.Proofs.Text.Block

/-!
# The grammar of qualifiers

What stands before a word is a qualifier if the text ends in the keyword of a scope and a joint,
which is a dot, or a bracket and a quote. The keyword must not be a member of something, so what
stands before it ends in no dot, white space apart; and it must not be the rest of a longer run of
word characters. `Qualification scopes text` gives the parts of such a text with these conditions.
A required qualifier is accepted exactly where there is a qualification
(`accepts_required_iff`), an optional one also where the text ends like one before a bare word
(`accepts_optional_iff`). Both directions come from what the pattern of a qualifier fits, so the
order in which the pattern tries the keywords does not matter, nor does it how often a scope is
listed.
-/

namespace CfmlNav.Qualifier

open Text Pattern Character

/-! ### The grammar -/

/-- Whether a word is the keyword of one of some scopes, in any case. -/
def IsKeyword (scopes : List Scope) (keyword : Text) : Prop :=
  ∃ scope ∈ scopes, keyword.map foldCode = scope.word.map foldCode

/-- Whether a text is what joins a qualifier to the word behind it: a dot with white space behind
it, or a bracket and a quote with white space between them. -/
def IsJoint (joint : Text) : Prop :=
  (∃ gap, joint = '.' :: gap ∧ ∀ c ∈ gap, isSpace c = true) ∨
    ∃ gap c, joint = '[' :: (gap ++ [c]) ∧ (∀ d ∈ gap, isSpace d = true) ∧ (c = '\'' ∨ c = '"')

/-- A text that ends in a qualifier by one of some scopes. White space may stand before and behind
the keyword. -/
structure Qualification (scopes : List Scope) (text : Text) where
  before : Text
  gapBefore : Text
  keyword : Text
  gapBehind : Text
  joint : Text
  text_eq : text = before ++ (gapBefore ++ (keyword ++ (gapBehind ++ joint)))
  noMember : ∀ c ∈ before.getLast?, c ≠ '.' ∧ isSpace c = false
  isSpace_before : ∀ c ∈ gapBefore, isSpace c = true
  noLongerWord : gapBefore = [] → ∀ c ∈ before.getLast?, isWord c = false
  isKeyword : IsKeyword scopes keyword
  isSpace_behind : ∀ c ∈ gapBehind, isSpace c = true
  isJoint : IsJoint joint

/-- Whether a text ends as before a word that stands alone: apart from white space it is empty or
its last character is no dot. -/
def IsBare (text : Text) : Prop :=
  (∀ c ∈ text, isSpace c = true) ∨
    ∃ front c gap, text = front ++ c :: gap ∧ isSpace c = false ∧ c ≠ '.' ∧
      ∀ d ∈ gap, isSpace d = true

/-! ### Keywords -/

variable {scopes : List Scope} {keyword text front taken : Text} {captures : List Capture}

theorem isLetters_word (scope : Scope) : scope.word ≠ [] ∧ isLetters scope.word = true := by
  cases scope <;> decide +kernel

theorem IsKeyword.ne_nil (h : IsKeyword scopes keyword) : keyword ≠ [] := by
  obtain ⟨scope, -, hfold⟩ := h
  rintro rfl
  exact (isLetters_word scope).1 (List.map_eq_nil_iff.mp hfold.symm)

/-- A keyword consists of case variants of letters. -/
theorem IsKeyword.foldCode (h : IsKeyword scopes keyword) :
    ∀ c ∈ keyword, 97 ≤ foldCode c ∧ foldCode c ≤ 122 := by
  obtain ⟨scope, -, hfold⟩ := h
  exact foldCode_of_fold hfold (isLetters_word scope).2

theorem IsKeyword.isWord (h : IsKeyword scopes keyword) : ∀ c ∈ keyword, isWord c = true := by
  intro c hc
  obtain ⟨hlow, hhigh⟩ := h.foldCode c hc
  exact isWord_of_foldCode hlow hhigh

/-- Whether a word is a keyword depends on the scopes only, not on how they are listed. -/
theorem IsKeyword.of_subset {other : List Scope} (h : IsKeyword scopes keyword)
    (hother : ∀ scope ∈ scopes, scope ∈ other) : IsKeyword other keyword := by
  obtain ⟨scope, hscope, hfold⟩ := h
  exact ⟨scope, hother scope hscope, hfold⟩

/-! ### What the pattern fits -/

theorem fits_joint : (alt (seq (char '.') spaces) (sequence [char '[', spaces, quote])).Fits
    front taken [] captures ↔ IsJoint taken ∧ captures = [] := by
  constructor
  · rintro (⟨_, gap, _, _, rfl, rfl, hdot, hgap⟩ |
      ⟨_, _, _, _, rfl, rfl, hbracket, gap, _, _, _, rfl, rfl, hgap, hquote⟩)
    · obtain ⟨rfl, rfl⟩ := fits_char.mp hdot
      obtain ⟨hspaces, rfl⟩ := fits_spaces.mp hgap
      exact ⟨Or.inl ⟨gap, rfl, hspaces⟩, rfl⟩
    · obtain ⟨rfl, rfl⟩ := fits_char.mp hbracket
      obtain ⟨hspaces, rfl⟩ := fits_spaces.mp hgap
      obtain ⟨⟨c, hc, rfl⟩, rfl⟩ := fits_quote.mp hquote
      exact ⟨Or.inr ⟨gap, c, rfl, hspaces, hc⟩, rfl⟩
  · rintro ⟨⟨gap, rfl, hspaces⟩ | ⟨gap, c, rfl, hspaces, hc⟩, rfl⟩
    · exact Or.inl ⟨['.'], gap, [], [], rfl, rfl, fits_char.mpr ⟨rfl, rfl⟩,
        fits_spaces.mpr ⟨hspaces, rfl⟩⟩
    · exact Or.inr ⟨['['], gap ++ [c], [], [], rfl, rfl, fits_char.mpr ⟨rfl, rfl⟩, gap, [c], [], [],
        rfl, rfl, fits_spaces.mpr ⟨hspaces, rfl⟩, fits_quote.mpr ⟨⟨c, hc, rfl⟩, rfl⟩⟩

/-- What a written qualifier fits at the end of a text. -/
theorem fits_written (hscopes : scopes ≠ []) : (written scopes).Fits front taken [] captures ↔
    (∃ keyword gap joint, taken = keyword ++ (gap ++ joint) ∧ IsKeyword scopes keyword ∧
      (∀ c ∈ gap, isSpace c = true) ∧ IsJoint joint) ∧
      (∀ c ∈ front.getLast?, isWord c = false) ∧ captures = [] := by
  have hwords : scopes.map Scope.word ≠ [] := by simpa using hscopes
  have hkeyword {keyword : Text} :
      (∃ w ∈ scopes.map Scope.word, keyword.map foldCode = w.map foldCode) ↔
        IsKeyword scopes keyword := by
    simp [IsKeyword]
  constructor
  · rintro ⟨_, _, _, _, rfl, rfl, hboundary, keyword, _, _, _, rfl, rfl, hnames, gap, joint, _, _,
      rfl, rfl, hgap, hjoint⟩
    obtain ⟨hnamed, rfl⟩ := (fits_anyWord hwords).mp hnames
    obtain ⟨hspaces, rfl⟩ := fits_spaces.mp hgap
    obtain ⟨hisJoint, rfl⟩ := fits_joint.mp hjoint
    have hisKeyword := hkeyword.mp hnamed
    obtain ⟨c, rest, rfl⟩ := List.exists_cons_of_ne_nil hisKeyword.ne_nil
    have hc : isWord c = true := hisKeyword.isWord c List.mem_cons_self
    obtain rfl := hboundary.1
    obtain ⟨rfl, hedge⟩ := (fits_boundary hc).mp hboundary
    exact ⟨⟨c :: rest, gap, joint, rfl, hisKeyword, hspaces, hisJoint⟩, hedge, rfl⟩
  · rintro ⟨⟨keyword, gap, joint, rfl, hisKeyword, hspaces, hisJoint⟩, hedge, rfl⟩
    obtain ⟨c, rest, rfl⟩ := List.exists_cons_of_ne_nil hisKeyword.ne_nil
    have hc : isWord c = true := hisKeyword.isWord c List.mem_cons_self
    have hboundary : boundary.Fits front [] ((c :: rest) ++ (gap ++ joint)) [] :=
      (fits_boundary hc).mpr ⟨rfl, hedge⟩
    exact ⟨[], _, [], [], rfl, rfl, by simpa using hboundary, c :: rest, gap ++ joint, [], [], rfl,
      rfl, (fits_anyWord hwords).mpr ⟨hkeyword.mpr hisKeyword, rfl⟩, gap, joint, [], [], rfl, rfl,
      fits_spaces.mpr ⟨hspaces, rfl⟩, fits_joint.mpr ⟨hisJoint, rfl⟩⟩

/-- A pattern at the end of a text, behind white space that follows neither a dot nor more white
space. -/
def atEnd (ending : Pattern) : Pattern :=
  sequence [alt (anchor .textStart) (one fun c => c != '.' && !isSpace c), spaces, ending,
    anchor .textEnd]

theorem matchesIn_atEnd {ending : Pattern} : (atEnd ending).matchesIn text = true ↔
    ∃ before gap taken captures, text = before ++ (gap ++ taken) ∧
      (∀ c ∈ before.getLast?, c ≠ '.' ∧ isSpace c = false) ∧ (∀ c ∈ gap, isSpace c = true) ∧
      ending.Fits (before ++ gap) taken [] captures := by
  rw [matchesIn_iff]
  constructor
  · rintro ⟨front, _, behind, _, rfl, start, _, _, _, rfl, rfl, hstart, gap, _, _, _, rfl, rfl, hgap,
      taken, _, captures, _, rfl, rfl, htaken, hend⟩
    obtain ⟨hopen, -⟩ := fits_textStart_or_one.mp hstart
    obtain ⟨hspaces, -⟩ := fits_spaces.mp hgap
    obtain ⟨rfl, -, rfl⟩ := fits_textEnd.mp hend
    refine ⟨front ++ start, gap, taken, captures, by simp, ?_, hspaces, by simpa using htaken⟩
    rcases hopen with ⟨rfl, rfl⟩ | ⟨c, rfl, hc⟩
    · simp
    · simpa using hc
  · rintro ⟨before, gap, taken, captures, rfl, hbefore, hspaces, htaken⟩
    -- the pattern takes the last character before the white space, where there is one
    obtain ⟨front, start, rfl, hopen⟩ : ∃ front start, before = front ++ start ∧
        (front = [] ∧ start = [] ∨ ∃ c, start = [c] ∧ (c != '.' && !isSpace c) = true) := by
      rcases List.eq_nil_or_concat' before with rfl | ⟨front, c, rfl⟩
      · exact ⟨[], [], rfl, Or.inl ⟨rfl, rfl⟩⟩
      · exact ⟨front, [c], rfl, Or.inr ⟨c, rfl, by simpa using hbefore c (by simp)⟩⟩
    refine ⟨front, start ++ (gap ++ taken), [], captures, by simp, ?_⟩
    exact ⟨start, gap ++ taken, [], captures, rfl, by simp,
      fits_textStart_or_one.mpr ⟨hopen, rfl⟩, gap, taken, [], captures, rfl, by simp,
      fits_spaces.mpr ⟨hspaces, rfl⟩, taken, [], captures, [], by simp, rfl,
      by simpa using htaken, fits_textEnd.mpr ⟨rfl, rfl, rfl⟩⟩

theorem pattern_required (scopes : List Scope) :
    (required scopes).pattern = atEnd (written scopes) := rfl

theorem pattern_optional (scopes : List Scope) :
    (optional scopes).pattern = atEnd (Pattern.optional true (written scopes)) := rfl

/-! ### Required and optional qualifiers -/

/-- A boundary behind white space is a boundary behind what stands before it, if there is none. -/
theorem isWord_before_iff {before gap : Text} (hgap : ∀ c ∈ gap, isSpace c = true) :
    (∀ c ∈ (before ++ gap).getLast?, isWord c = false) ↔
      (gap = [] → ∀ c ∈ before.getLast?, isWord c = false) := by
  rcases List.eq_nil_or_concat' gap with rfl | ⟨init, d, rfl⟩
  · simp
  · have hd : isWord d = false := isWord_of_isSpace (hgap d (by simp))
    simp [← List.append_assoc, hd]

/-- A required qualifier is accepted exactly where the text ends in a qualification. -/
theorem accepts_required_iff (hscopes : scopes ≠ []) :
    (required scopes).accepts text = true ↔ Nonempty (Qualification scopes text) := by
  rw [accepts, pattern_required, matchesIn_atEnd]
  constructor
  · rintro ⟨before, gapBefore, taken, _, rfl, noMember, isSpace_before, hwritten⟩
    obtain ⟨⟨keyword, gapBehind, joint, rfl, isKeyword, isSpace_behind, isJoint⟩, hedge, -⟩ :=
      (fits_written hscopes).mp hwritten
    have noLongerWord := (isWord_before_iff isSpace_before).mp hedge
    exact ⟨{ before, gapBefore, keyword, gapBehind, joint, text_eq := rfl, noMember,
             isSpace_before, noLongerWord, isKeyword, isSpace_behind, isJoint }⟩
  · rintro ⟨q⟩
    have hedge := (isWord_before_iff q.isSpace_before).mpr q.noLongerWord
    have hwritten := (fits_written hscopes).mpr
      ⟨⟨q.keyword, q.gapBehind, q.joint, rfl, q.isKeyword, q.isSpace_behind, q.isJoint⟩, hedge, rfl⟩
    exact ⟨q.before, q.gapBefore, _, [], q.text_eq, q.noMember, q.isSpace_before, hwritten⟩

/-- Where white space that follows neither a dot nor more white space ends the text, it ends like
one before a bare word. -/
theorem isBare_iff : IsBare text ↔ ∃ before gap, text = before ++ gap ∧
    (∀ c ∈ before.getLast?, c ≠ '.' ∧ isSpace c = false) ∧ ∀ c ∈ gap, isSpace c = true := by
  constructor
  · rintro (hspaces | ⟨front, c, gap, rfl, hspace, hdot, hgap⟩)
    · exact ⟨[], text, rfl, by simp, hspaces⟩
    · exact ⟨front ++ [c], gap, by simp, by simp [hspace, hdot], hgap⟩
  · rintro ⟨before, gap, rfl, hbefore, hgap⟩
    rcases List.eq_nil_or_concat' before with rfl | ⟨front, c, rfl⟩
    · exact Or.inl (by simpa using hgap)
    · obtain ⟨hdot, hspace⟩ := hbefore c (by simp)
      exact Or.inr ⟨front, c, gap, by simp, hspace, hdot, hgap⟩

/-- An optional qualifier is accepted where it would be if it were required, and before a bare
word. -/
theorem accepts_optional_iff : (optional scopes).accepts text = true ↔
    (required scopes).accepts text = true ∨ IsBare text := by
  rw [accepts, accepts, pattern_optional, pattern_required, matchesIn_atEnd, matchesIn_atEnd,
    isBare_iff]
  constructor
  · rintro ⟨before, gap, taken, captures, rfl, hbefore, hgap, htaken⟩
    rcases fits_optional.mp htaken with hwritten | ⟨rfl, -⟩
    · exact Or.inl ⟨before, gap, taken, captures, rfl, hbefore, hgap, hwritten⟩
    · exact Or.inr ⟨before, gap, by simp, hbefore, hgap⟩
  · rintro (⟨before, gap, taken, captures, rfl, hbefore, hgap, hwritten⟩ |
      ⟨before, gap, rfl, hbefore, hgap⟩)
    · exact ⟨before, gap, taken, captures, rfl, hbefore, hgap, fits_optional.mpr (Or.inl hwritten)⟩
    · exact ⟨before, gap, [], [], by simp, hbefore, hgap, fits_optional.mpr (Or.inr ⟨rfl, rfl⟩)⟩

/-- The same scopes in another order, or listed more than once, qualify the same texts. -/
theorem accepts_required_congr {other : List Scope} (hscopes : scopes ≠ [])
    (hother : ∀ scope, scope ∈ other ↔ scope ∈ scopes) :
    (required other).accepts text = (required scopes).accepts text := by
  have hne : other ≠ [] := by
    obtain ⟨scope, hscope⟩ := List.exists_mem_of_ne_nil _ hscopes
    exact List.ne_nil_of_mem ((hother scope).mpr hscope)
  rw [Bool.eq_iff_iff, accepts_required_iff hne, accepts_required_iff hscopes]
  constructor
  · rintro ⟨q⟩
    exact ⟨{ q with isKeyword := q.isKeyword.of_subset fun scope => (hother scope).mp }⟩
  · rintro ⟨q⟩
    exact ⟨{ q with isKeyword := q.isKeyword.of_subset fun scope => (hother scope).mpr }⟩

/-! ### Main result -/

/-- **Qualifiers are accepted by their grammar.** A required qualifier is accepted exactly where the
text ends in the keyword of one of its scopes and a joint, as `Qualification` says; an optional one
also where the text is white space or its last other character is no dot. How the scopes are
ordered and how often they are listed makes no difference. -/
theorem accepts_iff_grammar {scopes : List Scope} (hscopes : scopes ≠ []) (text : Text) :
    ((required scopes).accepts text = true ↔ Nonempty (Qualification scopes text)) ∧
    ((optional scopes).accepts text = true ↔
      (required scopes).accepts text = true ∨ IsBare text) ∧
    ∀ other : List Scope, (∀ scope, scope ∈ other ↔ scope ∈ scopes) →
      (required other).accepts text = (required scopes).accepts text ∧
        (optional other).accepts text = (optional scopes).accepts text := by
  refine ⟨accepts_required_iff hscopes, accepts_optional_iff, ?_⟩
  intro other hother
  have hrequired : (required other).accepts text = (required scopes).accepts text :=
    accepts_required_congr hscopes hother
  refine ⟨hrequired, ?_⟩
  rw [Bool.eq_iff_iff, accepts_optional_iff, accepts_optional_iff, hrequired]

theorem accepts_spaced_qualifier :
    ([.vars, .this] : List Scope) ≠ [] ∧
      Nonempty (Qualification [.vars, .this] "x =\nThiſ [ '".toList) ∧
      ¬ Nonempty (Qualification [.vars, .this] "x .this.".toList) ∧
      (∀ scope : Scope, scope ∈ [Scope.this, .vars, .this] ↔ scope ∈ [Scope.vars, .this]) ∧
      (required [.this, .vars, .this]).accepts "x =\nThiſ [ '".toList = true := by
  have hscopes : ([.vars, .this] : List Scope) ≠ [] := by decide
  have hlisted : ∀ scope : Scope, scope ∈ [Scope.this, .vars, .this] ↔
      scope ∈ [Scope.vars, .this] := by
    intro scope
    cases scope <;> decide
  have haccepts : (required [.vars, .this]).accepts "x =\nThiſ [ '".toList = true := by
    decide +kernel
  have hspaced := accepts_iff_grammar hscopes "x =\nThiſ [ '".toList
  have hmember := accepts_iff_grammar hscopes "x .this.".toList
  refine ⟨hscopes, hspaced.1.mp haccepts, ?_, hlisted, ?_⟩
  · rw [← hmember.1]
    decide +kernel
  · rw [(hspaced.2.2 _ hlisted).1]
    exact haccepts

end CfmlNav.Qualifier
