import CfmlNav.Proofs.Context.Word
import CfmlNav.Proofs.LetterCase.Character
import CfmlNav.Proofs.Text.Block
import CfmlNav.Proofs.Variable.Collection

/-!
# Declarations as words

The identifier of a declaration is found by a form, the word at a cursor by the characters around
it, and the two follow different definitions. They agree from the left: no form names an identifier
behind a word character. So a cursor at the start of a declaration selects the declared identifier
as soon as the identifier consists of word characters and is not followed by one
(`isWordOf_build_iff`). The first fails only for the few characters that patterns alone count as
word characters. The second can fail in one way: the form of a loop variable does not ask for white
space before the keyword `in`, so it takes `beg` for the variable of `var begin`.
-/

namespace CfmlNav

open Text Pattern Character

/-! ### The word at a boundary -/

namespace Context

variable {dialect : Dialect} {raw lead rest : Text} {position : Position}

/-- At a boundary without a word before it, the word is the one that starts there. -/
theorem word_build_boundary (file : FileId) (component : Option Component)
    (htext : Comment.strip dialect raw = lead ++ rest)
    (hlead : trailingWord lead = [])
    (hposition : position = (Comment.strip dialect raw).positionAt lead.byteSize) :
    (build file dialect component raw position).word = rest.leadingWord ∧
      (build file dialect component raw position).wordRange =
        (Comment.strip dialect raw).spanAt
          ⟨lead.byteSize, lead.byteSize + rest.leadingWord.byteSize⟩ := by
  have hoffset : (Comment.strip dialect raw).offsetAt position = lead.byteSize := by
    rw [hposition, htext, offsetAt_positionAt_boundary]
  obtain ⟨hword, -, hfront, hbytes⟩ := exists_cut_build file component htext hoffset
  obtain ⟨hempty, hspan⟩ := wordRange_build file component htext hoffset
  rw [hlead, List.nil_append] at hword
  rw [hlead, List.append_nil] at hfront
  refine ⟨hword, ?_⟩
  -- without a word the context has the empty range at the boundary
  by_cases hnil : (build file dialect component raw position).word = []
  · rw [hempty hnil, ← hword, hnil, hposition]
    rfl
  · rw [hspan hnil, hbytes, ← hfront, hword]
    rfl

end Context

namespace Variable

/-! ### Agreement -/

/-- Whether the word of a context is the identifier of a variable, at the place where the variable
is declared. -/
def IsWordOf (v : Variable) (context : Context) : Prop :=
  context.word = v.identifier ∧ context.wordRange = v.declaration.range

instance (v : Variable) (context : Context) : Decidable (v.IsWordOf context) :=
  inferInstanceAs (Decidable (_ ∧ _))

/-- The text behind the declaration of a variable. -/
def textBehind (v : Variable) (text : Text) : Text :=
  text.slice ⟨text.offsetAt v.declaration.range.stop, text.byteSize⟩

theorem StandsBetween.textBehind_eq {v : Variable} {text lead rest : Text}
    (h : v.StandsBetween text lead rest) : v.textBehind text = rest := by
  have htext : text = (lead ++ v.identifier) ++ rest := by simpa using h.text_eq
  rw [textBehind, h.offsetAt_stop, htext, slice_boundary_end]

section Agreement

variable {v : Variable} {file : FileId} {dialect : Dialect} {component : Option Component}
  {raw lead rest : Text} {c : Char}

/-- A context at the start of a declaration that follows no word character selects the declared
identifier if and only if that is a whole run of word characters. -/
theorem isWordOf_build_iff
    (hstands : v.StandsBetween (Comment.strip dialect raw) (lead ++ [c]) rest)
    (hc : isWordCharacter c = false) :
    v.IsWordOf (Context.build file dialect component raw v.declaration.range.start) ↔
      (∀ d ∈ v.identifier, isWordCharacter d = true) ∧
        ∀ d ∈ rest.head?, isWordCharacter d = false := by
  obtain ⟨hword, hrange⟩ := Context.word_build_boundary file component
    hstands.text_eq (trailingWord_eq_nil_iff.mpr (by simpa using hc)) hstands.start_eq
  rw [IsWordOf, hword, hrange, ← leadingWord_append_eq_iff, hstands.range_eq]
  constructor
  · exact And.left
  · intro h
    rw [h]
    exact ⟨rfl, rfl⟩

end Agreement

/-! ### Around the identifier -/

/-- Whether all variables of a form stand between two characters that belong to no word. -/
def Encloses (form : Pattern) : Prop :=
  ∀ {front taken behind : Text} {captures : List Capture},
    form.Fits front taken behind captures → ∃ lead c identifier d rest,
      Names (front ++ (taken ++ behind)) captures (lead ++ [c]) identifier (d :: rest) ∧
        isWordCharacter c = false ∧ isWordCharacter d = false

theorem isWordCharacter_of_quote {c : Char} (hc : c = '\'' ∨ c = '"') :
    isWordCharacter c = false := by
  rcases hc with rfl | rfl <;> decide +kernel

theorem encloses_bracketAssignment : Encloses bracketAssignment := by
  intro front taken behind captures h
  obtain ⟨lead, c, identifier, d, rest, hnames, hc, hd, -⟩ :=
    exists_names_of_fits_bracketAssignment h
  exact ⟨lead, c, identifier, d, rest, hnames, isWordCharacter_of_quote hc,
    isWordCharacter_of_quote hd⟩

theorem encloses_paramTag : Encloses paramTag := by
  intro front taken behind captures h
  obtain ⟨lead, c, identifier, d, rest, hnames, hc, hd⟩ := exists_names_of_fits_paramTag h
  refine ⟨lead, c, identifier, d, rest, hnames, ?_, isWordCharacter_of_quote hd⟩
  rcases hc with ⟨hquote, -⟩ | rfl
  · exact isWordCharacter_of_quote hquote
  · decide +kernel

theorem encloses_memberAssignment {keyword : Pattern} {words : List Text}
    (hkeyword : IsKeyword keyword words) : Encloses (memberAssignment keyword) := by
  intro front taken behind captures h
  obtain ⟨a, -, hnames⟩ := exists_assignment_of_fits hkeyword rfl h
  have hdot : isWordCharacter '.' = false := by decide +kernel
  have hequals : isWordCharacter '=' = false := by decide +kernel
  obtain ⟨init, c, hlead, hc⟩ :=
    exists_concat_of_block isWordCharacter_of_isSpace a.isSpace_behindDot hdot
  obtain ⟨d, rest, hrest, hd⟩ : ∃ d rest, a.gapBeforeEquals ++ '=' :: a.behind = d :: rest ∧
      isWordCharacter d = false :=
    exists_cons_of_block isWordCharacter_of_isSpace a.isSpace_beforeEquals hequals
  refine ⟨a.before ++ (a.keyword ++ (a.gapBeforeDot ++ init)), c, a.identifier, d, rest, ?_, hc, hd⟩
  rw [hrest] at hnames
  simpa [Assignment.lead, hlead] using hnames

section Places

variable {v : Variable} {file : FileId} {text front part back : Text} {form : Pattern}
  {scope : Scope}

theorem exists_standsBetween_of_encloses (hform : Encloses form)
    (htext : text = front ++ (part ++ back))
    (h : v ∈ collect file text front.byteSize part form scope) :
    ∃ lead c d rest, v.StandsBetween text (lead ++ [c]) (d :: rest) ∧
      isWordCharacter c = false ∧ isWordCharacter d = false := by
  obtain ⟨found, -, first, taken, behind, hmatch, hplace⟩ := exists_match_of_mem_collect htext h
  obtain ⟨lead, c, identifier, d, rest, hnames, hc, hd⟩ := hform hmatch.fits
  rw [← hmatch.text_eq] at hnames
  obtain ⟨-, hstands⟩ := hplace hnames
  exact ⟨front ++ lead, c, d, rest ++ back, by simpa using hstands, hc, hd⟩

theorem asciiLower_i : asciiLower 'i' = 'i' := by decide

theorem asciiLower_n : asciiLower 'n' = 'n' := by decide

/-- Behind an identifier, a character that belongs to no word rules out the keyword of a loop. -/
theorem startsWithIgnoringCase_in {d : Char} (hd : isWordCharacter d = false) (rest : Text) :
    startsWithIgnoringCase "in".toList (d :: rest) = false := by
  have hne : 'i' ≠ asciiLower d := by
    intro hlower
    rw [← caseBlind_isWordCharacter d, ← hlower] at hd
    revert hd
    decide
  have hfirst : startsWithIgnoringCase "in".toList (d :: rest) =
      (asciiLower 'i' == asciiLower d && startsWithIgnoringCase ['n'] rest) := rfl
  rw [hfirst, asciiLower_i, beq_eq_false_iff_ne.mpr hne, Bool.false_and]

/-- The identifier of a declaration follows no word character, and it is followed by one only where
the keyword of a loop is. -/
theorem exists_standsBetween_of_varDeclaration (htext : text = front ++ (part ++ back))
    (h : v ∈ collect file text front.byteSize part varDeclaration scope) :
    ∃ lead c rest, v.StandsBetween text (lead ++ [c]) rest ∧ isWordCharacter c = false ∧
      ((∀ d ∈ rest.head?, isWordCharacter d = false) ↔
        startsWithIgnoringCase "in".toList rest = false) := by
  obtain ⟨found, -, first, taken, behind, hmatch, hplace⟩ := exists_match_of_mem_collect htext h
  obtain ⟨lead, c, gap, identifier, gap', rest, hnames, -, hgap, hspaces, hspaces', hrest⟩ :=
    exists_names_of_fits_varDeclaration hmatch.fits
  rw [← hmatch.text_eq] at hnames
  obtain ⟨init, e, rfl⟩ := (List.eq_nil_or_concat' gap).resolve_left hgap
  obtain ⟨-, hstands⟩ := hplace hnames
  refine ⟨front ++ (lead ++ c :: init), e, gap' ++ (rest ++ back), by simpa using hstands,
    isWordCharacter_of_isSpace (hspaces e (by simp)), ?_⟩
  have hfree {d : Char} (hd : isWordCharacter d = false) (tail : Text) :
      (∀ e ∈ (d :: tail).head?, isWordCharacter e = false) ↔
        startsWithIgnoringCase "in".toList (d :: tail) = false :=
    iff_of_true (by simpa using hd) (startsWithIgnoringCase_in hd tail)
  -- only a keyword without white space before it goes on with a word character
  rcases gap' with _ | ⟨d, gap'⟩
  · rcases hrest with hequals | ⟨i, n, tail, rfl, hi, hn⟩
    · obtain ⟨tail, rfl⟩ := List.head?_eq_some_iff.mp hequals
      have hd : isWordCharacter '=' = false := by decide +kernel
      exact hfree hd (tail ++ back)
    · have hi' : asciiLower i = 'i' := asciiLower_of_foldCode (by decide) (by decide) (by decide)
        (by decide) hi
      have hn' : asciiLower n = 'n' := asciiLower_of_foldCode (by decide) (by decide) (by decide)
        (by decide) hn
      have hword : isWordCharacter i = true := by
        rw [← caseBlind_isWordCharacter i, hi']
        decide
      refine iff_of_false (by simp [hword]) ?_
      simp [startsWithIgnoringCase, hi', hn', asciiLower_i, asciiLower_n]
  · exact hfree (isWordCharacter_of_isSpace (hspaces' d List.mem_cons_self))
      (gap' ++ (rest ++ back))

end Places

/-! ### Main result -/

/-- **Declarations are whole words, but for two exceptions.** The word at the start of a declaration
is the declared identifier, at the declared place, if and only if the identifier consists of word
characters and, for the variables of a function, is not cut off before a keyword `in`. -/
theorem isWordOf_iff_of_declared (file : FileId) (dialect : Dialect) (component : Option Component)
    (raw : Text) :
    (∀ v ∈ assignedIn file dialect raw,
      v.IsWordOf (Context.build file dialect component raw v.declaration.range.start) ↔
        v.identifier.all isWordCharacter = true) ∧
    ∀ position body, ∀ v ∈ localsIn (Context.build file dialect component raw position) body,
      v.IsWordOf (Context.build file dialect component raw v.declaration.range.start) ↔
        v.identifier.all isWordCharacter = true ∧
          startsWithIgnoringCase "in".toList (v.textBehind (Comment.strip dialect raw)) = false := by
  constructor
  · intro v hv
    have hwhole : Comment.strip dialect raw = [] ++ (Comment.strip dialect raw ++ []) := by simp
    have hplace : ∃ lead c d rest,
        v.StandsBetween (Comment.strip dialect raw) (lead ++ [c]) (d :: rest) ∧
          isWordCharacter c = false ∧ isWordCharacter d = false := by
      rcases mem_assignedIn.mp hv with hscoped | hbracket | ⟨-, hparam⟩
      · exact exists_standsBetween_of_encloses (encloses_memberAssignment isKeyword_scopeKeyword)
          hwhole hscoped
      · exact exists_standsBetween_of_encloses encloses_bracketAssignment hwhole hbracket
      · exact exists_standsBetween_of_encloses encloses_paramTag hwhole hparam
    obtain ⟨lead, c, d, rest, hstands, hc, hd⟩ := hplace
    rw [isWordOf_build_iff hstands hc, List.all_eq_true]
    simp [hd]
  · intro position body v hv
    rcases body with _ | body
    · simp [localsIn] at hv
    obtain ⟨front, back, hbody, hstart⟩ := exists_parts_of_body (Comment.strip dialect raw) body
    have hplace : ∃ lead c rest,
        v.StandsBetween (Comment.strip dialect raw) (lead ++ [c]) rest ∧
          isWordCharacter c = false ∧ ((∀ d ∈ rest.head?, isWordCharacter d = false) ↔
            startsWithIgnoringCase "in".toList rest = false) := by
      rcases mem_localsIn.mp hv with hvar | hlocal
      · exact exists_standsBetween_of_varDeclaration hbody (hstart ▸ hvar)
      · obtain ⟨lead, c, d, rest, hstands, hc, hd⟩ :=
          exists_standsBetween_of_encloses (encloses_memberAssignment (isKeyword_word _)) hbody
            (hstart ▸ hlocal)
        exact ⟨lead, c, d :: rest, hstands, hc,
          iff_of_true (by simpa using hd) (startsWithIgnoringCase_in hd rest)⟩
    obtain ⟨lead, c, rest, hstands, hc, hrest⟩ := hplace
    rw [isWordOf_build_iff hstands hc, hstands.textBehind_eq, hrest, List.all_eq_true]

theorem isWordOf_loopVariable :
    (∃ v ∈ assignedIn ⟨0⟩ .script "session.rows = 1".toList, v.IsWordOf
      (Context.build ⟨0⟩ .script none "session.rows = 1".toList v.declaration.range.start)) ∧
    ∃ v ∈ localsIn (.build ⟨0⟩ .script none "var i in x".toList .origin) (some ⟨.origin, ⟨0, 10⟩⟩),
      v.IsWordOf (Context.build ⟨0⟩ .script none "var i in x".toList v.declaration.range.start) := by
  constructor
  · refine ⟨⟨"rows".toList, .session, ⟨⟨0⟩, ⟨⟨0, 8⟩, ⟨0, 12⟩⟩⟩⟩, by decide +kernel, ?_⟩
    exact ((isWordOf_iff_of_declared ⟨0⟩ .script none _).1 _ (by decide +kernel)).mpr
      (by decide +kernel)
  · refine ⟨⟨"i".toList, .locals, ⟨⟨0⟩, ⟨⟨0, 4⟩, ⟨0, 5⟩⟩⟩⟩, by decide +kernel, ?_⟩
    exact ((isWordOf_iff_of_declared ⟨0⟩ .script none _).2 .origin (some ⟨.origin, ⟨0, 10⟩⟩) _
      (by decide +kernel)).mpr (by decide +kernel)

/-- In `var begin`, the variable that is found is a proper part of the word. -/
example :
    (localsIn (.build ⟨0⟩ .script none "var begin".toList .origin)
      (some ⟨.origin, ⟨0, 9⟩⟩)).map Variable.identifier = ["beg".toList] ∧
    (Context.build ⟨0⟩ .script none "var begin".toList ⟨0, 4⟩).word = "begin".toList := by
  decide +kernel

end Variable

end CfmlNav
