import CfmlNav.Variable.Assignment
import CfmlNav.Proofs.Character
import CfmlNav.Proofs.Pattern.Search

/-!
# What the forms of assignments fit

Each form names one identifier, and what stands around it is known from the form alone. For
`scope.name =` and `local.name =`, which differ in the keyword only, a fit is an `Assignment` of the
text: the parts of the text from the keyword to the equals sign, together with the conditions on
them (`exists_assignment_of_fits`, `exists_fits_of_assignment`). Of the other forms it is enough to
know the character before the identifier and the text behind it (`Names`).
-/

namespace CfmlNav

open Text Pattern

namespace Variable

/-! ### Parts of the forms -/

section Parts

variable {front taken behind : Text} {captures : List Capture}

theorem fits_freshStart : freshStart.Fits front taken behind captures ↔
    (front = [] ∧ taken = [] ∨ ∃ c, taken = [c] ∧ c ≠ '.' ∧ isNamePart c = false) ∧
      captures = [] := by
  rw [freshStart, fits_textStart_or_one]
  simp

theorem fits_equals : equals.Fits front taken behind captures ↔
    (∃ last, taken = '=' :: last ∧ ((∃ c, last = [c] ∧ c ≠ '=') ∨ last = [] ∧ behind = [])) ∧
      captures = [] := by
  constructor
  · rintro ⟨_, last, _, _, rfl, rfl, hequals, hlast⟩
    obtain ⟨rfl, rfl⟩ := fits_char.mp hequals
    rcases hlast with ⟨⟨c, hc, rfl⟩, rfl⟩ | hend
    · exact ⟨⟨[c], rfl, Or.inl ⟨c, rfl, by simpa using hc⟩⟩, rfl⟩
    · obtain ⟨rfl, rfl, hbehind⟩ := fits_textEnd.mp hend
      exact ⟨⟨[], rfl, Or.inr ⟨rfl, hbehind⟩⟩, rfl⟩
  · rintro ⟨⟨last, rfl, hlast⟩, rfl⟩
    refine ⟨['='], last, [], [], rfl, rfl, fits_char.mpr ⟨rfl, rfl⟩, ?_⟩
    rcases hlast with ⟨c, rfl, hc⟩ | ⟨rfl, hbehind⟩
    · exact Or.inl ⟨⟨c, by simpa using hc, rfl⟩, rfl⟩
    · exact Or.inr (fits_textEnd.mpr ⟨rfl, rfl, hbehind⟩)

theorem fits_dot : dot.Fits front taken behind captures ↔
    (∃ gap gap', taken = gap ++ '.' :: gap' ∧ (∀ c ∈ gap, Character.isSpace c = true) ∧
      ∀ c ∈ gap', Character.isSpace c = true) ∧ captures = [] := by
  constructor
  · rintro ⟨gap, _, _, _, rfl, rfl, hgap, _, gap', _, _, rfl, rfl, hdot, hgap'⟩
    obtain ⟨hspaces, rfl⟩ := fits_spaces.mp hgap
    obtain ⟨rfl, rfl⟩ := fits_char.mp hdot
    obtain ⟨hspaces', rfl⟩ := fits_spaces.mp hgap'
    exact ⟨⟨gap, gap', rfl, hspaces, hspaces'⟩, rfl⟩
  · rintro ⟨⟨gap, gap', rfl, hgap, hgap'⟩, rfl⟩
    exact ⟨gap, '.' :: gap', [], [], rfl, rfl, fits_spaces.mpr ⟨hgap, rfl⟩, ['.'], gap', [], [], rfl,
      rfl, fits_char.mpr ⟨rfl, rfl⟩, fits_spaces.mpr ⟨hgap', rfl⟩⟩

theorem fits_name : name.Fits front taken behind captures ↔
    taken ≠ [] ∧ (∀ c ∈ taken, isNamePart c = true) ∧
      captures = [⟨nameGroup, front.byteSize, byteSize (front ++ taken)⟩] := by
  rw [name, fits_capture]
  constructor
  · rintro ⟨inner, rfl, hidentifier⟩
    obtain ⟨hne, hparts, rfl⟩ := fits_identifier.mp hidentifier
    exact ⟨hne, hparts, rfl⟩
  · rintro ⟨hne, hparts, rfl⟩
    exact ⟨[], rfl, fits_identifier.mpr ⟨hne, hparts, rfl⟩⟩

end Parts

/-! ### The named identifier -/

/-- Captures that name the identifier between `lead` and `rest`. -/
structure Names (text : Text) (captures : List Capture) (lead identifier rest : Text) : Prop where
  text_eq : text = lead ++ (identifier ++ rest)
  captures_eq : ∃ others,
    captures = ⟨nameGroup, lead.byteSize, lead.byteSize + identifier.byteSize⟩ :: others

section Names

variable {ps qs : List Pattern} {p q : Pattern} {front taken behind : Text}
  {captures : List Capture}

/-- What stands in a form directly before the name fits the end of the text before the identifier,
and what stands directly behind it the start of the text behind it. -/
theorem exists_names_of_fits (hq : q.isSilent = true) (hqs : (sequence qs).isSilent = true)
    (h : (sequence (ps ++ p :: name :: q :: qs)).Fits front taken behind captures) :
    ∃ lead part identifier part' rest, taken = lead ++ (part ++ (identifier ++ (part' ++ rest))) ∧
      Names (front ++ (taken ++ behind)) captures (front ++ (lead ++ part)) identifier
        (part' ++ (rest ++ behind)) ∧
      (∃ behind' captured, (sequence ps).Fits front lead behind' captured) ∧
      (∃ behind' captured, p.Fits (front ++ lead) part behind' captured) ∧
      (∃ front' captured, q.Fits front' part' (rest ++ behind) captured) ∧
      ∃ front' captured, (sequence qs).Fits front' rest behind captured := by
  obtain ⟨lead, _, captured, _, rfl, rfl, hlead, hpart⟩ := (fits_sequence_append _ _).mp h
  obtain ⟨part, _, captured', _, rfl, rfl, hfirst, hnamed⟩ := fits_sequence_cons.mp hpart
  obtain ⟨identifier, _, _, _, rfl, rfl, hname, hbehind⟩ := fits_sequence_cons.mp hnamed
  obtain ⟨part', rest, _, _, rfl, rfl, hpart', hrest⟩ := fits_sequence_cons.mp hbehind
  obtain ⟨-, -, rfl⟩ := fits_name.mp hname
  obtain rfl := hpart'.captures_eq_nil hq
  obtain rfl := hrest.captures_eq_nil hqs
  refine ⟨lead, part, identifier, part', rest, rfl, ?_, ⟨_, _, hlead⟩, ⟨_, _, hfirst⟩,
    ⟨_, _, hpart'⟩, ⟨_, _, hrest⟩⟩
  exact ⟨by simp, captured' ++ captured, by simp [Nat.add_assoc]⟩

/-- The identifier of a bracket assignment is quoted, in a bracket. -/
theorem exists_names_of_fits_bracketAssignment
    (h : bracketAssignment.Fits front taken behind captures) :
    ∃ lead c identifier d rest,
      Names (front ++ (taken ++ behind)) captures (lead ++ [c]) identifier (d :: rest) ∧
      (c = '\'' ∨ c = '"') ∧ (d = '\'' ∨ d = '"') ∧
      ∃ init gap, lead = init ++ '[' :: gap ∧ ∀ e ∈ gap, Character.isSpace e = true := by
  have hform : (sequence (([freshStart, scopeKeyword, spaces] ++ [char '[', spaces]) ++ quote ::
    name :: quote :: [spaces, char ']', spaces, equals])).Fits front taken behind captures := h
  obtain ⟨_, _, identifier, _, rest, rfl, hnames, ⟨_, _, hlead⟩, ⟨_, _, hquote⟩, ⟨_, _, hquote'⟩,
    -⟩ := exists_names_of_fits (by decide) (by decide) hform
  obtain ⟨⟨c, hc, rfl⟩, -⟩ := fits_quote.mp hquote
  obtain ⟨⟨d, hd, rfl⟩, -⟩ := fits_quote.mp hquote'
  obtain ⟨lead, _, _, _, rfl, -, -, _, gap, _, _, rfl, -, hbracket, hgap⟩ :=
    (fits_sequence_append _ _).mp hlead
  obtain ⟨rfl, -⟩ := fits_char.mp hbracket
  obtain ⟨hspaces, -⟩ := fits_spaces.mp hgap
  refine ⟨front ++ (lead ++ '[' :: gap), c, identifier, d, rest ++ behind, by simpa using hnames,
    hc, hd, front ++ lead, gap, by simp, hspaces⟩

/-- The identifier of a parameter tag follows a quote behind an equals sign, or the dot behind a
scope, and is followed by a quote. -/
theorem exists_names_of_fits_paramTag (h : paramTag.Fits front taken behind captures) :
    ∃ lead c identifier d rest,
      Names (front ++ (taken ++ behind)) captures (lead ++ [c]) identifier (d :: rest) ∧
      (((c = '\'' ∨ c = '"') ∧
          ∃ init gap, lead = init ++ '=' :: gap ∧ ∀ e ∈ gap, Character.isSpace e = true) ∨
        c = '.') ∧ (d = '\'' ∨ d = '"') := by
  have hform : (sequence ((([word "<cfparam".toList, someSpaces, word "name".toList, spaces] ++
    [char '=', spaces]) ++ [quote]) ++ optional true (seq scopeKeyword (char '.')) :: name ::
    quote :: [])).Fits front taken behind captures := h
  obtain ⟨_, _, identifier, _, rest, rfl, hnames, ⟨_, _, hlead⟩, ⟨_, _, hscope⟩, ⟨_, _, hquote'⟩,
    -⟩ := exists_names_of_fits (by decide) (by decide) hform
  obtain ⟨⟨d, hd, rfl⟩, -⟩ := fits_quote.mp hquote'
  obtain ⟨_, _, _, _, rfl, -, hinit, hquote⟩ := (fits_sequence_append _ _).mp hlead
  obtain ⟨⟨c, hc, rfl⟩, -⟩ := fits_quote.mp hquote
  obtain ⟨lead, _, _, _, rfl, -, -, _, gap, _, _, rfl, -, hequals, hgap⟩ :=
    (fits_sequence_append _ _).mp hinit
  obtain ⟨rfl, -⟩ := fits_char.mp hequals
  obtain ⟨hspaces, -⟩ := fits_spaces.mp hgap
  rcases fits_optional.mp hscope with ⟨scope, _, _, _, rfl, -, -, hdot⟩ | ⟨rfl, -⟩
  · obtain ⟨rfl, -⟩ := fits_char.mp hdot
    exact ⟨front ++ (lead ++ '=' :: (gap ++ c :: scope)), '.', identifier, d, rest ++ behind,
      by simpa using hnames, Or.inr rfl, hd⟩
  · exact ⟨front ++ (lead ++ '=' :: gap), c, identifier, d, rest ++ behind, by simpa using hnames,
      Or.inl ⟨hc, front ++ lead, gap, by simp, hspaces⟩, hd⟩

/-- The identifier of a declaration follows the keyword and white space. Behind it there is an
equals sign or the keyword of a loop, where white space before either may be missing. -/
theorem exists_names_of_fits_varDeclaration (h : varDeclaration.Fits front taken behind captures) :
    ∃ lead c gap identifier gap' rest,
      Names (front ++ (taken ++ behind)) captures (lead ++ c :: gap) identifier (gap' ++ rest) ∧
      isNamePart c = true ∧ gap ≠ [] ∧ (∀ d ∈ gap, Character.isSpace d = true) ∧
      (∀ d ∈ gap', Character.isSpace d = true) ∧
      (rest.head? = some '=' ∨ ∃ i n tail, rest = i :: n :: tail ∧
        Character.foldCode i = Character.foldCode 'i' ∧
        Character.foldCode n = Character.foldCode 'n') := by
  have hform : (sequence (([boundary] ++ [word "var".toList]) ++ someSpaces :: name :: spaces ::
    [alt equals (seq (word "in".toList) boundary)])).Fits front taken behind captures := h
  obtain ⟨_, gap, identifier, gap', rest, rfl, hnames, ⟨_, _, hlead⟩, ⟨_, _, hgap⟩, ⟨_, _, hgap'⟩,
    ⟨_, _, hrest⟩⟩ := exists_names_of_fits (by decide) (by decide) hform
  obtain ⟨lead, keyword, _, _, rfl, -, -, hkeyword⟩ := (fits_sequence_append _ _).mp hlead
  obtain ⟨hne, hspaces, -⟩ := fits_someSpaces.mp hgap
  obtain ⟨hspaces', -⟩ := fits_spaces.mp hgap'
  obtain ⟨hfold, -⟩ := fits_word.mp hkeyword
  -- all that matters of the keyword is the letter that it ends with
  obtain ⟨init, c, rfl⟩ : ∃ init c, keyword = init ++ [c] :=
    List.eq_nil_or_concat' keyword |>.resolve_left (by rintro rfl; simp at hfold)
  have hc : isNamePart c = true := Character.isNamePart_of_fold hfold (by decide) c (by simp)
  refine ⟨front ++ (lead ++ init), c, gap, identifier, gap', rest ++ behind, by simpa using hnames,
    hc, hne, hspaces, hspaces', ?_⟩
  rcases hrest with hequals | ⟨tail, _, _, _, rfl, -, hin, rfl, -, -⟩
  · obtain ⟨⟨last, rfl, -⟩, -⟩ := fits_equals.mp hequals
    exact Or.inl rfl
  · obtain ⟨hfold', -⟩ := fits_word.mp hin
    obtain ⟨i, n, rfl⟩ : ∃ i n, tail = [i, n] :=
      List.length_eq_two.mp (by simpa using congrArg List.length hfold')
    exact Or.inr ⟨i, n, behind, rfl, by simpa using hfold'⟩

end Names

end Variable

/-! ### Assignments to members of a scope -/

/-- An assignment `scope.name =` that stands in a text: one of some keywords, in any case, that is
neither a member nor the rest of a longer identifier; a dot; an identifier; and an equals sign that
is not the first half of a comparison. White space may stand between them. -/
@[ext]
structure Assignment (keywords : List Text) (text : Text) where
  before : Text
  keyword : Text
  gapBeforeDot : Text
  gapBehindDot : Text
  identifier : Text
  gapBeforeEquals : Text
  behind : Text
  text_eq : text = before ++ (keyword ++ (gapBeforeDot ++ '.' :: (gapBehindDot ++
    (identifier ++ (gapBeforeEquals ++ '=' :: behind)))))
  fresh : ∀ c ∈ before.getLast?, c ≠ '.' ∧ isNamePart c = false
  isKeyword : ∃ w ∈ keywords, keyword.map Character.foldCode = w.map Character.foldCode
  isSpace_beforeDot : ∀ c ∈ gapBeforeDot, Character.isSpace c = true
  isSpace_behindDot : ∀ c ∈ gapBehindDot, Character.isSpace c = true
  identifier_ne_nil : identifier ≠ []
  isNamePart_identifier : ∀ c ∈ identifier, isNamePart c = true
  isSpace_beforeEquals : ∀ c ∈ gapBeforeEquals, Character.isSpace c = true
  noComparison : behind.head? ≠ some '='

namespace Assignment

variable {keywords : List Text} {text : Text}

/-- The text up to the identifier. -/
def lead (a : Assignment keywords text) : Text :=
  a.before ++ (a.keyword ++ (a.gapBeforeDot ++ '.' :: a.gapBehindDot))

/-- The text up to the equals sign, which is included. -/
def upToEquals (a : Assignment keywords text) : Text :=
  a.lead ++ (a.identifier ++ (a.gapBeforeEquals ++ ['=']))

/-- The bytes of the identifier. -/
def range (a : Assignment keywords text) : ByteRange :=
  ⟨a.lead.byteSize, a.lead.byteSize + a.identifier.byteSize⟩

theorem text_eq_lead (a : Assignment keywords text) :
    text = a.lead ++ (a.identifier ++ (a.gapBeforeEquals ++ '=' :: a.behind)) := by
  simpa [lead] using a.text_eq

theorem text_eq_upToEquals (a : Assignment keywords text) : text = a.upToEquals ++ a.behind := by
  simpa [upToEquals] using a.text_eq_lead

/-- A part of the text covers an assignment as the form does: from the character before the
keyword to the character behind the equals sign, each as far as there is one. -/
structure Covers (a : Assignment keywords text) (front taken behind : Text) : Prop where
  start : a.before = front ∧ front = [] ∨ ∃ c, a.before = front ++ [c]
  stop : front ++ taken = a.upToEquals ∧ behind = [] ∨ ∃ c, front ++ taken = a.upToEquals ++ [c]

end Assignment

namespace Variable

/-- The form of an assignment to a member of a scope, whose keyword is a pattern. -/
def memberAssignment (keyword : Pattern) : Pattern :=
  sequence [freshStart, keyword, dot, name, spaces, equals]

theorem localAssignment_eq : localAssignment = memberAssignment (word "local".toList) := rfl

theorem scopedAssignment_eq : scopedAssignment = memberAssignment scopeKeyword := rfl

/-- A pattern that fits exactly some words in any case, whatever it reports. -/
def IsKeyword (keyword : Pattern) (words : List Text) : Prop :=
  ∀ front taken behind, (∃ captures, keyword.Fits front taken behind captures) ↔
    ∃ w ∈ words, taken.map Character.foldCode = w.map Character.foldCode

/-- The keywords of the scopes whose assignments are found. -/
def scopeWords : List Text := assignedScopes.map Scope.word

theorem isKeyword_word (w : Text) : IsKeyword (word w) [w] := by
  intro front taken behind
  simp [fits_word]

theorem isKeyword_scopeKeyword : IsKeyword scopeKeyword scopeWords := by
  intro front taken behind
  constructor
  · rintro ⟨_, inner, rfl, hword⟩
    exact ((fits_anyWord (by decide)).mp hword).1
  · intro hword
    exact ⟨_, [], rfl, (fits_anyWord (by decide)).mpr ⟨hword, rfl⟩⟩

section MemberAssignment

variable {keyword : Pattern} {words : List Text} (hkeyword : IsKeyword keyword words)

include hkeyword

/-- A fit of the form covers an assignment and names its identifier. -/
theorem exists_assignment_of_fits {text front taken behind : Text} {captures : List Capture}
    (htext : text = front ++ (taken ++ behind))
    (h : (memberAssignment keyword).Fits front taken behind captures) :
    ∃ a : Assignment words text, a.Covers front taken behind ∧
      Names text captures a.lead a.identifier (a.gapBeforeEquals ++ '=' :: a.behind) := by
  obtain ⟨start, _, _, _, rfl, rfl, hstart, key, _, keyCaptures, _, rfl, rfl, hkey, _, _, _, _, rfl,
    rfl, hdot, identifier, _, _, _, rfl, rfl, hname, gap, _, _, _, rfl, rfl, hgap, hequals⟩ := h
  obtain ⟨hfreshStart, rfl⟩ := fits_freshStart.mp hstart
  obtain ⟨⟨gapBeforeDot, gapBehindDot, rfl, hbeforeDot, hbehindDot⟩, rfl⟩ := fits_dot.mp hdot
  obtain ⟨hne, hparts, rfl⟩ := fits_name.mp hname
  obtain ⟨hspaces, rfl⟩ := fits_spaces.mp hgap
  obtain ⟨⟨last, rfl, hlast⟩, rfl⟩ := fits_equals.mp hequals
  have hfresh : ∀ c ∈ (front ++ start).getLast?, c ≠ '.' ∧ isNamePart c = false := by
    rcases hfreshStart with ⟨rfl, rfl⟩ | ⟨c, rfl, hc⟩
    · simp
    · simpa using hc
  have hcomparison : (last ++ behind).head? ≠ some '=' := by
    rcases hlast with ⟨c, rfl, hc⟩ | ⟨rfl, rfl⟩
    · simpa using hc
    · simp
  let a : Assignment words text :=
    { before := front ++ start
      keyword := key
      gapBeforeDot, gapBehindDot, identifier
      gapBeforeEquals := gap
      behind := last ++ behind
      text_eq := by simpa using htext
      fresh := hfresh
      isKeyword := (hkeyword _ _ _).mp ⟨keyCaptures, hkey⟩
      isSpace_beforeDot := hbeforeDot
      isSpace_behindDot := hbehindDot
      identifier_ne_nil := hne
      isNamePart_identifier := hparts
      isSpace_beforeEquals := hspaces
      noComparison := hcomparison }
  refine ⟨a, ⟨?_, ?_⟩, a.text_eq_lead, keyCaptures, ?_⟩
  · rcases hfreshStart with ⟨rfl, rfl⟩ | ⟨c, rfl, -⟩
    · exact Or.inl ⟨rfl, rfl⟩
    · exact Or.inr ⟨c, rfl⟩
  · rcases hlast with ⟨c, rfl, -⟩ | ⟨rfl, rfl⟩
    · exact Or.inr ⟨c, by simp [a, Assignment.upToEquals, Assignment.lead]⟩
    · exact Or.inl ⟨by simp [a, Assignment.upToEquals, Assignment.lead], rfl⟩
  · simp [a, Assignment.lead, Nat.add_assoc]

/-- Every assignment is covered by a fit of the form. -/
theorem exists_fits_of_assignment {text : Text} (a : Assignment words text) :
    ∃ front taken behind captures, text = front ++ (taken ++ behind) ∧
      (memberAssignment keyword).Fits front taken behind captures ∧ a.Covers front taken behind := by
  -- one character is taken on either side, where there is one
  obtain ⟨front, start, hbefore, hstart⟩ : ∃ front start, a.before = front ++ start ∧
      (front = [] ∧ start = [] ∨ ∃ c, start = [c]) := by
    rcases List.eq_nil_or_concat' a.before with hnil | ⟨front, c, hbefore⟩
    · exact ⟨[], [], by simp [hnil], Or.inl ⟨rfl, rfl⟩⟩
    · exact ⟨front, [c], hbefore, Or.inr ⟨c, rfl⟩⟩
  obtain ⟨last, behind, hbehind, hlast⟩ : ∃ last behind, a.behind = last ++ behind ∧
      ((∃ c, last = [c]) ∨ last = [] ∧ behind = []) := by
    rcases a.behind with _ | ⟨c, behind⟩
    · exact ⟨[], [], rfl, Or.inr ⟨rfl, rfl⟩⟩
    · exact ⟨[c], behind, rfl, Or.inl ⟨c, rfl⟩⟩
  have hfreshStart : front = [] ∧ start = [] ∨
      ∃ c, start = [c] ∧ c ≠ '.' ∧ isNamePart c = false := by
    rcases hstart with hnil | ⟨c, rfl⟩
    · exact Or.inl hnil
    · exact Or.inr ⟨c, rfl, a.fresh c (by simp [hbefore])⟩
  have hequals : (∃ c, last = [c] ∧ c ≠ '=') ∨ last = [] ∧ behind = [] := by
    rcases hlast with ⟨c, rfl⟩ | hnil
    · exact Or.inl ⟨c, rfl, by simpa [hbehind] using a.noComparison⟩
    · exact Or.inr hnil
  obtain ⟨keyCaptures, hkey⟩ := (hkeyword (front ++ start) a.keyword (a.gapBeforeDot ++ '.' ::
    a.gapBehindDot ++ (a.identifier ++ (a.gapBeforeEquals ++ '=' :: last)) ++ behind)).mpr
    a.isKeyword
  have hfits : ∃ captures, (memberAssignment keyword).Fits front (start ++ (a.keyword ++
      (a.gapBeforeDot ++ '.' :: a.gapBehindDot ++ (a.identifier ++
        (a.gapBeforeEquals ++ '=' :: last))))) behind captures :=
    ⟨_, start, _, [], _, rfl, rfl, fits_freshStart.mpr ⟨hfreshStart, rfl⟩,
      a.keyword, _, keyCaptures, _, rfl, rfl, hkey,
      a.gapBeforeDot ++ '.' :: a.gapBehindDot, _, [], _, rfl, rfl,
      fits_dot.mpr ⟨⟨_, _, rfl, a.isSpace_beforeDot, a.isSpace_behindDot⟩, rfl⟩,
      a.identifier, _, _, _, rfl, rfl,
      fits_name.mpr ⟨a.identifier_ne_nil, a.isNamePart_identifier, rfl⟩,
      a.gapBeforeEquals, '=' :: last, [], [], rfl, rfl,
      fits_spaces.mpr ⟨a.isSpace_beforeEquals, rfl⟩, fits_equals.mpr ⟨⟨last, rfl, hequals⟩, rfl⟩⟩
  obtain ⟨captures, hfits⟩ := hfits
  refine ⟨front, _, behind, captures, ?_, hfits, ⟨?_, ?_⟩⟩
  · simpa [hbefore, hbehind] using a.text_eq
  · rcases hstart with ⟨rfl, rfl⟩ | ⟨c, rfl⟩
    · exact Or.inl ⟨hbefore, rfl⟩
    · exact Or.inr ⟨c, hbefore⟩
  · rcases hlast with ⟨c, rfl⟩ | ⟨rfl, rfl⟩
    · exact Or.inr ⟨c, by simp [Assignment.upToEquals, Assignment.lead, hbefore]⟩
    · exact Or.inl ⟨by simp [Assignment.upToEquals, Assignment.lead, hbefore], rfl⟩

end MemberAssignment

end Variable

end CfmlNav
