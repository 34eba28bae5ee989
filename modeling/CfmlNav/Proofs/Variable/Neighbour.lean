import CfmlNav.Proofs.Text.Block
import CfmlNav.Proofs.Variable.Collection

/-!
# Assignments one behind the other

The form of an assignment takes one character before the keyword and one behind the equals sign,
and the matches of a search share no character. So where an assignment stands directly behind the
equals sign of another one, or with a single character between them, as in
`application.a = this.b = 1`, both need the same character and only one of them can be found. This
is the only way in which an assignment is lost (`isMatched_iff`): assignments do not overlap
(`exists_between_of_before_lt`), so a match that takes the start of an assignment away is an
assignment that ends there, and the later one is found exactly if the earlier one is not.
-/

namespace CfmlNav

open Text Pattern Character

namespace Assignment

variable {words : List Text} {text : Text}

/-! ### Where the parts end -/

theorem isNamePart_dot : isNamePart '.' = false := by decide +kernel

theorem isNamePart_equals : isNamePart '=' = false := by decide +kernel

theorem isSpace_of_isNamePart {c : Char} (hc : isNamePart c = true) : isSpace c = false := by
  cases hspace : isSpace c with
  | false => rfl
  | true => rw [isNamePart_of_isSpace hspace] at hc; contradiction

/-- Words of small letters, none of them empty. -/
def AreLetters (words : List Text) : Prop :=
  ∀ w ∈ words, w ≠ [] ∧ isLetters w = true

theorem areLetters_local : AreLetters ["local".toList] := by
  rw [AreLetters]
  decide +kernel

theorem areLetters_scopeWords : AreLetters Variable.scopeWords := by
  rw [AreLetters]
  decide +kernel

/-- Behind white space and a character of no identifier, a run of such characters has ended. -/
theorem isNamePart_head_of_spaces {gap tail : Text} {d : Char} (hd : isNamePart d = false)
    (hgap : ∀ c ∈ gap, isSpace c = true) :
    ∀ c ∈ (gap ++ d :: tail).head?, isNamePart c = false := by
  obtain ⟨e, rest, hrest, he⟩ : ∃ e rest, gap ++ d :: tail = e :: rest ∧ isNamePart e = false :=
    exists_cons_of_block isNamePart_of_isSpace hgap hd
  rw [hrest]
  simpa using he

theorem isSpace_head_of_nameParts {part tail : Text} (hne : part ≠ [])
    (hparts : ∀ c ∈ part, isNamePart c = true) :
    ∀ c ∈ (part ++ tail).head?, isSpace c = false := by
  obtain ⟨c, part, rfl⟩ := List.exists_cons_of_ne_nil hne
  simpa using isSpace_of_isNamePart (hparts c List.mem_cons_self)

/-- A place before a character and a keyword is not within white space. -/
theorem exists_behind_gap {gap rest skipped tail : Text} {c d k : Char}
    (h : gap ++ d :: rest = skipped ++ c :: k :: tail) (hgap : ∀ e ∈ gap, isSpace e = true)
    (hd : isNamePart d = false) (hk : isNamePart k = true) :
    ∃ between, skipped = gap ++ between ∧ d :: rest = between ++ c :: k :: tail := by
  rcases behind_or_at_end_of_block h hgap (isSpace_of_isNamePart hk) with hbehind | ⟨-, hsame⟩
  · exact hbehind
  · obtain rfl := (List.cons.inj hsame).1
    rw [hd] at hk
    contradiction

section Parts

variable (a : Assignment words text) (hwords : AreLetters words)

include hwords

theorem keyword_ne_nil : a.keyword ≠ [] := by
  obtain ⟨w, hw, hfold⟩ := a.isKeyword
  rintro hnil
  rw [hnil, List.map_nil, eq_comm, List.map_eq_nil_iff] at hfold
  exact (hwords w hw).1 hfold

theorem isNamePart_keyword : ∀ c ∈ a.keyword, isNamePart c = true := by
  obtain ⟨w, hw, hfold⟩ := a.isKeyword
  exact Character.isNamePart_of_fold hfold (hwords w hw).2

end Parts

/-! ### An assignment is known by its place -/

section Place

variable {a b : Assignment words text} (hwords : AreLetters words)

include hwords

/-- Two assignments that start at one place are the same. -/
theorem eq_of_before (h : a.before = b.before) : a = b := by
  have htext := a.text_eq.symm.trans b.text_eq
  rw [h] at htext
  -- each part is a run of one class, and the next part starts outside that class
  obtain ⟨hkeyword, htext⟩ := append_inj_of_block (p := isNamePart) (List.append_cancel_left htext)
    (a.isNamePart_keyword hwords) (b.isNamePart_keyword hwords)
    (isNamePart_head_of_spaces isNamePart_dot a.isSpace_beforeDot)
    (isNamePart_head_of_spaces isNamePart_dot b.isSpace_beforeDot)
  obtain ⟨hgapBeforeDot, htext⟩ := append_inj_of_block (p := isSpace) htext a.isSpace_beforeDot
    b.isSpace_beforeDot (by simp; decide) (by simp; decide)
  obtain ⟨hgapBehindDot, htext⟩ := append_inj_of_block (p := isSpace) (List.cons.inj htext).2
    a.isSpace_behindDot b.isSpace_behindDot
    (isSpace_head_of_nameParts a.identifier_ne_nil a.isNamePart_identifier)
    (isSpace_head_of_nameParts b.identifier_ne_nil b.isNamePart_identifier)
  obtain ⟨hidentifier, htext⟩ := append_inj_of_block (p := isNamePart) htext
    a.isNamePart_identifier b.isNamePart_identifier
    (isNamePart_head_of_spaces isNamePart_equals a.isSpace_beforeEquals)
    (isNamePart_head_of_spaces isNamePart_equals b.isSpace_beforeEquals)
  obtain ⟨hgapBeforeEquals, htext⟩ := append_inj_of_block (p := isSpace) htext
    a.isSpace_beforeEquals b.isSpace_beforeEquals (by simp; decide) (by simp; decide)
  exact Assignment.ext h hkeyword hgapBeforeDot hgapBehindDot hidentifier hgapBeforeEquals
    (List.cons.inj htext).2

/-- Two assignments of one identifier are the same. -/
theorem eq_of_lead (h : a.lead = b.lead) : a = b := by
  have hlead (c : Assignment words text) :
      c.lead = c.before ++ c.keyword ++ c.gapBeforeDot ++ ['.'] ++ c.gapBehindDot := by
    simp [lead]
  rw [hlead, hlead] at h
  obtain ⟨hdot, -⟩ := append_inj_of_block_right (p := isSpace) h a.isSpace_behindDot
    b.isSpace_behindDot (by simp; decide) (by simp; decide)
  obtain ⟨hgap, -⟩ := List.append_inj' hdot rfl
  have hlast (c : Assignment words text) :
      ∀ d ∈ (c.before ++ c.keyword).getLast?, isSpace d = false := by
    obtain ⟨init, d, hkeyword⟩ :=
      (List.eq_nil_or_concat' c.keyword).resolve_left (c.keyword_ne_nil hwords)
    have hd := c.isNamePart_keyword hwords d (by simp [hkeyword])
    simpa [hkeyword, ← List.append_assoc] using isSpace_of_isNamePart hd
  obtain ⟨hkeyword, -⟩ := append_inj_of_block_right (p := isSpace) hgap a.isSpace_beforeDot
    b.isSpace_beforeDot (hlast a) (hlast b)
  obtain ⟨hbefore, -⟩ := append_inj_of_block_right (p := isNamePart) hkeyword
    (a.isNamePart_keyword hwords) (b.isNamePart_keyword hwords) (fun c hc => (a.fresh c hc).2)
    (fun c hc => (b.fresh c hc).2)
  exact eq_of_before hwords hbefore

theorem eq_of_range (h : a.range = b.range) : a = b := by
  have hsize : a.lead.byteSize = b.lead.byteSize := congrArg ByteRange.start h
  obtain ⟨hlead, -⟩ := append_inj_of_byteSize (a.text_eq_lead.symm.trans b.text_eq_lead) hsize
  exact eq_of_lead hwords hlead

/-- The identifier of an assignment is not the keyword of another one, as an equals sign follows
the former and a dot the latter. -/
theorem identifier_ne_keyword : a.identifier ++ (a.gapBeforeEquals ++ '=' :: a.behind) ≠
    b.keyword ++ (b.gapBeforeDot ++ '.' :: (b.gapBehindDot ++
      (b.identifier ++ (b.gapBeforeEquals ++ '=' :: b.behind)))) := by
  intro h
  obtain ⟨-, hgap⟩ := append_inj_of_block (p := isNamePart) h a.isNamePart_identifier
    (b.isNamePart_keyword hwords) (isNamePart_head_of_spaces isNamePart_equals a.isSpace_beforeEquals)
    (isNamePart_head_of_spaces isNamePart_dot b.isSpace_beforeDot)
  obtain ⟨-, hequals⟩ := append_inj_of_block (p := isSpace) hgap a.isSpace_beforeEquals
    b.isSpace_beforeDot (by simp; decide) (by simp; decide)
  exact absurd (List.cons.inj hequals).1 (by decide)

/-- The walk from one keyword to a later one: the character before the later keyword is neither a
dot nor part of an identifier, so it stands in none of the parts up to the equals sign. -/
theorem exists_between_of_skipped {skipped : Text} {c : Char} (hcDot : c ≠ '.')
    (hc : isNamePart c = false)
    (h : a.keyword ++ (a.gapBeforeDot ++ '.' :: (a.gapBehindDot ++
        (a.identifier ++ (a.gapBeforeEquals ++ '=' :: a.behind)))) =
      skipped ++ c :: (b.keyword ++ (b.gapBeforeDot ++ '.' :: (b.gapBehindDot ++
        (b.identifier ++ (b.gapBeforeEquals ++ '=' :: b.behind)))))) :
    ∃ between, skipped ++ [c] = a.keyword ++ (a.gapBeforeDot ++ '.' :: (a.gapBehindDot ++
      (a.identifier ++ (a.gapBeforeEquals ++ '=' :: between)))) := by
  have hbehind := identifier_ne_keyword hwords (a := a) (b := b)
  obtain ⟨k, keyword, hkeyword⟩ := List.exists_cons_of_ne_nil (b.keyword_ne_nil hwords)
  have hk : isNamePart k = true := b.isNamePart_keyword hwords k (by simp [hkeyword])
  rw [hkeyword, List.cons_append] at h hbehind
  obtain ⟨behindKeyword, rfl, hfromGap⟩ := exists_behind_block h (a.isNamePart_keyword hwords) hc
  obtain ⟨behindGap, rfl, hfromDot⟩ :=
    exists_behind_gap hfromGap a.isSpace_beforeDot isNamePart_dot hk
  rcases behindGap with _ | ⟨d, behindDot⟩
  · exact absurd (List.cons.inj hfromDot).1.symm hcDot
  obtain ⟨rfl, hfromGap'⟩ := List.cons.inj hfromDot
  rcases behind_or_at_end_of_block hfromGap' a.isSpace_behindDot (isSpace_of_isNamePart hk) with
    ⟨behindGap', rfl, hfromIdentifier⟩ | ⟨-, hidentifier⟩
  swap
  · exact absurd hidentifier hbehind
  obtain ⟨behindIdentifier, rfl, hfromGap''⟩ :=
    exists_behind_block hfromIdentifier a.isNamePart_identifier hc
  obtain ⟨behindGap'', rfl, hfromEquals⟩ :=
    exists_behind_gap hfromGap'' a.isSpace_beforeEquals isNamePart_equals hk
  rcases behindGap'' with _ | ⟨d, between⟩
  · obtain ⟨rfl, -⟩ := List.cons.inj hfromEquals
    exact ⟨[], by simp⟩
  · obtain ⟨rfl, -⟩ := List.cons.inj hfromEquals
    exact ⟨between ++ [c], by simp⟩

/-- **Assignments do not overlap.** Of two assignments, the one that starts first has ended with
its equals sign where the keyword of the other starts. -/
theorem exists_between_of_before_lt (h : a.before.length < b.before.length) :
    ∃ between, b.before = a.upToEquals ++ between := by
  have htext := a.text_eq.symm.trans b.text_eq
  obtain ⟨skipped, c, hbefore⟩ : ∃ skipped c, b.before = a.before ++ (skipped ++ [c]) := by
    rcases List.append_eq_append_iff.mp htext with ⟨part, hpart, -⟩ | ⟨part, hpart, -⟩
    · obtain ⟨skipped, c, rfl⟩ := (List.eq_nil_or_concat' part).resolve_left (by
        rintro rfl
        simp [hpart] at h)
      exact ⟨skipped, c, hpart⟩
    · rw [hpart, List.length_append] at h
      omega
  obtain ⟨hcDot, hc⟩ := b.fresh c (by simp [hbefore])
  rw [hbefore] at htext
  obtain ⟨between, hbetween⟩ := exists_between_of_skipped hwords hcDot hc (by simpa using htext)
  exact ⟨between, by rw [hbefore, hbetween]; simp [upToEquals, lead]⟩

end Place

/-! ### Matches -/

/-- Whether a match of the form names the identifier of an assignment. -/
def IsMatched (a : Assignment words text) (keyword : Pattern) : Prop :=
  ∃ found ∈ (Variable.memberAssignment keyword).findAll text,
    found.capture? Variable.nameGroup = some a.range

/-- Whether an assignment ends directly before the keyword of another one, or with a single
character between its equals sign and the keyword. -/
def Touches (a b : Assignment words text) : Prop :=
  ∃ between, b.before = a.upToEquals ++ between ∧ between.length ≤ 1

theorem length_before_lt (a : Assignment words text) :
    a.before.length + 1 < a.upToEquals.length := by
  simp only [upToEquals, lead, List.length_append, List.length_cons, List.length_nil]
  omega

namespace Covers

variable {a : Assignment words text} {front taken behind : Text}

theorem length_before (h : a.Covers front taken behind) :
    a.before.length = front.length + 1 ∨ a.before.length = 0 ∧ front.length = 0 := by
  rcases h.start with ⟨hbefore, rfl⟩ | ⟨c, hbefore⟩
  · simp [hbefore]
  · simp [hbefore]

theorem length_upToEquals (h : a.Covers front taken behind) :
    (front ++ taken).length = a.upToEquals.length + 1 ∨
      (front ++ taken).length = a.upToEquals.length ∧ behind = [] := by
  rcases h.stop with ⟨hstop, rfl⟩ | ⟨c, hstop⟩
  · exact Or.inr ⟨by rw [hstop], rfl⟩
  · exact Or.inl (by rw [hstop, List.length_append, List.length_singleton])

end Covers

section Match

variable {keyword : Pattern} (hkeyword : Variable.IsKeyword keyword words)
  (hwords : AreLetters words)

include hkeyword

/-- A match covers an assignment and names its identifier. -/
theorem exists_covers_of_standsIn {found : Match} {front taken behind : Text}
    (h : (Variable.memberAssignment keyword).StandsIn text found front taken behind) :
    ∃ a : Assignment words text, a.Covers front taken behind ∧
      found.capture? Variable.nameGroup = some a.range := by
  obtain ⟨a, hcovers, hnames⟩ := Variable.exists_assignment_of_fits hkeyword h.text_eq h.fits
  exact ⟨a, hcovers, hnames.capture?⟩

theorem consuming_memberAssignment : (Variable.memberAssignment keyword).Consuming := by
  rintro front taken behind captures h rfl
  obtain ⟨a, hcovers, -⟩ := Variable.exists_assignment_of_fits hkeyword rfl h
  have hstart := hcovers.length_before
  have hstop := hcovers.length_upToEquals
  have hspan := a.length_before_lt
  rw [List.append_nil] at hstop
  omega

include hwords

theorem IsMatched.exists_covers {a : Assignment words text} (h : a.IsMatched keyword) :
    ∃ found ∈ (Variable.memberAssignment keyword).findAll text, ∃ front taken behind,
      (Variable.memberAssignment keyword).StandsIn text found front taken behind ∧
        a.Covers front taken behind ∧ found.capture? Variable.nameGroup = some a.range := by
  obtain ⟨found, hfound, hcapture⟩ := h
  obtain ⟨front, taken, behind, hstands⟩ := standsIn_of_mem_findAll hfound
  obtain ⟨b, hcovers, hcapture'⟩ := exists_covers_of_standsIn hkeyword hstands
  obtain rfl := eq_of_range hwords (Option.some_inj.mp (hcapture.symm.trans hcapture'))
  exact ⟨found, hfound, front, taken, behind, hstands, hcovers, hcapture⟩

/-- An assignment is matched unless a matched one touches it. -/
theorem isMatched_or_exists_touches (b : Assignment words text) :
    b.IsMatched keyword ∨ ∃ a : Assignment words text, a.Touches b ∧ a.IsMatched keyword := by
  obtain ⟨front, taken, behind, captures, htext, hfits, hb⟩ :=
    Variable.exists_fits_of_assignment hkeyword b
  obtain ⟨found, hfound, first, rest, part, back, rfl, hpart, hstands⟩ :=
    exists_mem_findAll_of_fits (consuming_memberAssignment hkeyword) hfits
  rw [← htext] at hfound hstands
  obtain ⟨a, ha, hcapture⟩ := exists_covers_of_standsIn hkeyword hstands
  have hmatched : a.IsMatched keyword := ⟨found, hfound, hcapture⟩
  -- the match starts no later than the fit, so neither does its assignment
  have haBefore := ha.length_before
  have hbBefore := hb.length_before
  rw [List.length_append] at hbBefore
  rcases Nat.lt_trichotomy a.before.length b.before.length with hlt | heq | hgt
  · obtain ⟨between, hbetween⟩ := exists_between_of_before_lt hwords hlt
    have hlength := congrArg List.length hbetween
    have hstop := ha.length_upToEquals
    rw [List.length_append] at hlength hstop
    exact Or.inr ⟨a, ⟨between, hbetween, by omega⟩, hmatched⟩
  · obtain rfl := eq_of_before hwords
      (List.append_inj (a.text_eq.symm.trans b.text_eq) heq).1
    exact Or.inl hmatched
  · obtain ⟨between, hbetween⟩ := exists_between_of_before_lt hwords hgt
    have hlength := congrArg List.length hbetween
    have hspan := b.length_before_lt
    rw [List.length_append] at hlength
    omega

/-- Of two assignments that touch, at most one is matched. -/
theorem not_isMatched_of_touches {a b : Assignment words text} (h : a.Touches b)
    (ha : a.IsMatched keyword) : ¬ b.IsMatched keyword := by
  intro hb
  obtain ⟨between, hbetween, hshort⟩ := h
  obtain ⟨found, hfound, front, taken, behind, hstands, hcovers, hcapture⟩ :=
    ha.exists_covers hkeyword hwords
  obtain ⟨found', hfound', front', taken', behind', hstands', hcovers', hcapture'⟩ :=
    hb.exists_covers hkeyword hwords
  have hlength := congrArg List.length hbetween
  rw [List.length_append] at hlength
  have hspan := a.length_before_lt
  have hspan' := b.length_before_lt
  have hne : found ≠ found' := by
    rintro rfl
    obtain rfl := eq_of_range hwords (Option.some_inj.mp (hcapture.symm.trans hcapture'))
    omega
  have hstart := hcovers.length_before
  have hstop := hcovers.length_upToEquals
  have hstart' := hcovers'.length_before
  have hstop' := hcovers'.length_upToEquals
  -- they overlap: the first takes a character behind its equals sign, as the text goes on there,
  -- and the second one before its keyword
  rcases apart_of_mem_findAll hfound hfound' hne hstands hstands' with hle | hle
  · rcases hstop with hstop | ⟨hstop, rfl⟩
    · omega
    · have htext := congrArg List.length hstands.text_eq
      have htext' := congrArg List.length b.text_eq_upToEquals
      simp only [List.length_append, List.length_nil] at htext htext' hstop
      omega
  · omega

/-- **An assignment is matched if and only if no matched one touches it.** -/
theorem isMatched_iff (b : Assignment words text) :
    b.IsMatched keyword ↔ ∀ a : Assignment words text, a.Touches b → ¬ a.IsMatched keyword := by
  constructor
  · exact fun hb a htouches ha => not_isMatched_of_touches hkeyword hwords htouches ha hb
  · intro h
    rcases isMatched_or_exists_touches hkeyword hwords b with hb | ⟨a, htouches, ha⟩
    · exact hb
    · exact absurd ha (h a htouches)

end Match

/-! ### Variables -/

section Variables

variable {part front back : Text} {file : FileId} {form : Pattern} {scope : Scope} {v : Variable}

/-- Whether one of some variables is declared by the identifier of an assignment in a part of a text
that starts at the byte offset `base`. -/
def IsDeclaredIn (a : Assignment words part) (vs : List Variable) (text : Text) (base : Nat) :
    Prop :=
  ∃ v ∈ vs, v.declaration.range = text.spanAt ⟨base + a.range.start, base + a.range.stop⟩

/-- A variable that is declared by the identifier of an assignment comes from a match that agrees
with the assignment on the text around the identifier. -/
theorem exists_match_of_range (htext : text = front ++ (part ++ back)) (a : Assignment words part)
    (h : v ∈ Variable.collect file text front.byteSize part form scope)
    (hrange : v.declaration.range = text.spanAt
      ⟨front.byteSize + a.range.start, front.byteSize + a.range.stop⟩) :
    ∃ found ∈ form.findAll part, ∃ first taken behind,
      form.StandsIn part found first taken behind ∧ ∀ {lead identifier rest : Text},
        Variable.Names part found.captures lead identifier rest →
          lead = a.lead ∧ rest = a.gapBeforeEquals ++ '=' :: a.behind := by
  obtain ⟨found, hfound, first, taken, behind, hstands, hplace⟩ :=
    Variable.exists_match_of_mem_collect htext h
  refine ⟨found, hfound, first, taken, behind, hstands, ?_⟩
  intro lead identifier rest hnames
  obtain ⟨-, hbetween⟩ := hplace hnames
  have htext' : text = (front ++ a.lead) ++ (a.identifier ++
      (a.gapBeforeEquals ++ '=' :: a.behind ++ back)) := by
    simpa using htext.trans (congrArg (fun t => front ++ (t ++ back)) a.text_eq_lead)
  have hrange' : v.declaration.range = text.spanAt
      ⟨byteSize (front ++ a.lead), byteSize (front ++ a.lead) + a.identifier.byteSize⟩ := by
    rw [hrange, byteSize_append, range, Nat.add_assoc]
  obtain ⟨hlead, -, hrest⟩ := hbetween.eq_of_range htext' hrange'
  exact ⟨List.append_cancel_left hlead, List.append_cancel_right hrest⟩

/-- Among the variables of its form an assignment declares one exactly if it is matched. -/
theorem isDeclaredIn_collect_iff (file : FileId) (scope : Scope) {keyword : Pattern}
    (hkeyword : Variable.IsKeyword keyword words) (hwords : AreLetters words)
    (htext : text = front ++ (part ++ back)) (a : Assignment words part) :
    a.IsDeclaredIn (Variable.collect file text front.byteSize part
      (Variable.memberAssignment keyword) scope) text front.byteSize ↔ a.IsMatched keyword := by
  constructor
  · rintro ⟨v, hv, hrange⟩
    obtain ⟨found, hfound, first, taken, behind, hstands, hplace⟩ :=
      exists_match_of_range htext a hv hrange
    obtain ⟨b, -, hnames⟩ :=
      Variable.exists_assignment_of_fits hkeyword hstands.text_eq hstands.fits
    obtain rfl := eq_of_lead hwords (hplace hnames).1
    exact ⟨found, hfound, hnames.capture?⟩
  · rintro ⟨found, hfound, hcapture⟩
    exact ⟨_, Variable.mem_collect.mpr ⟨found, hfound, a.range, hcapture, rfl⟩, rfl⟩

/-- What stands behind the identifier of an assignment is no quote. -/
theorem ne_quote_of_rest {a : Assignment words text} {d : Char} {rest : Text}
    (h : d :: rest = a.gapBeforeEquals ++ '=' :: a.behind) : ¬ (d = '\'' ∨ d = '"') := by
  have hquote {c : Char} (hc : isSpace c = true) : (c == '\'' || c == '"') = false :=
    of_inRanges (motive := fun c => (c == '\'' || c == '"') = false) (by decide) hc
  obtain ⟨e, tail, htail, he⟩ : ∃ e tail, a.gapBeforeEquals ++ '=' :: a.behind = e :: tail ∧
      (e == '\'' || e == '"') = false :=
    exists_cons_of_block hquote a.isSpace_beforeEquals (by decide)
  obtain rfl := (List.cons.inj (h.trans htail)).1
  simpa using he

/-- Before the identifier of an assignment and the white space there, no identifier ends. -/
theorem lead_ne_of_isNamePart (a : Assignment words text) {front gap : Text} {c : Char}
    (hc : isNamePart c = true) (hgap : ∀ d ∈ gap, isSpace d = true) :
    a.lead ≠ front ++ c :: gap := by
  intro h
  -- without the white space, one side ends with a dot and the other with a name part
  have hlead : (a.before ++ (a.keyword ++ (a.gapBeforeDot ++ ['.']))) ++ a.gapBehindDot =
      (front ++ [c]) ++ gap := by
    simpa [Assignment.lead] using h
  obtain ⟨hdot, -⟩ := append_inj_of_block_right (p := isSpace) hlead a.isSpace_behindDot hgap
    (by simp; decide) (by simpa using isSpace_of_isNamePart hc)
  obtain rfl : '.' = c := by simpa using congrArg List.getLast? hdot
  rw [isNamePart_dot] at hc
  contradiction

/-- A form that quotes the identifier declares at no assignment. -/
theorem not_isDeclaredIn_of_quote (hform : ∀ {first taken behind : Text} {captures : List Capture},
      form.Fits first taken behind captures → ∃ lead identifier d rest,
        Variable.Names (first ++ (taken ++ behind)) captures lead identifier (d :: rest) ∧
          (d = '\'' ∨ d = '"'))
    (htext : text = front ++ (part ++ back)) (a : Assignment words part) :
    ¬ a.IsDeclaredIn (Variable.collect file text front.byteSize part form scope) text
      front.byteSize := by
  rintro ⟨v, hv, hrange⟩
  obtain ⟨found, -, first, taken, behind, hstands, hplace⟩ :=
    exists_match_of_range htext a hv hrange
  obtain ⟨lead, identifier, d, rest, hnames, hd⟩ := hform hstands.fits
  rw [← hstands.text_eq] at hnames
  exact ne_quote_of_rest (hplace hnames).2 hd

theorem not_isDeclaredIn_bracketAssignment (htext : text = front ++ (part ++ back))
    (a : Assignment words part) :
    ¬ a.IsDeclaredIn (Variable.collect file text front.byteSize part Variable.bracketAssignment
      scope) text front.byteSize := by
  refine not_isDeclaredIn_of_quote (fun h => ?_) htext a
  obtain ⟨lead, c, identifier, d, rest, hnames, -, hd, -⟩ :=
    Variable.exists_names_of_fits_bracketAssignment h
  exact ⟨lead ++ [c], identifier, d, rest, hnames, hd⟩

theorem not_isDeclaredIn_paramTag (htext : text = front ++ (part ++ back))
    (a : Assignment words part) :
    ¬ a.IsDeclaredIn (Variable.collect file text front.byteSize part Variable.paramTag
      scope) text front.byteSize := by
  refine not_isDeclaredIn_of_quote (fun h => ?_) htext a
  obtain ⟨lead, c, identifier, d, rest, hnames, -, hd⟩ := Variable.exists_names_of_fits_paramTag h
  exact ⟨lead ++ [c], identifier, d, rest, hnames, hd⟩

theorem not_isDeclaredIn_varDeclaration (htext : text = front ++ (part ++ back))
    (a : Assignment words part) :
    ¬ a.IsDeclaredIn (Variable.collect file text front.byteSize part Variable.varDeclaration
      scope) text front.byteSize := by
  rintro ⟨v, hv, hrange⟩
  obtain ⟨found, -, first, taken, behind, hstands, hplace⟩ :=
    exists_match_of_range htext a hv hrange
  obtain ⟨lead, c, gap, identifier, gap', rest, hnames, hc, -, hspaces, -, -⟩ :=
    Variable.exists_names_of_fits_varDeclaration hstands.fits
  rw [← hstands.text_eq] at hnames
  exact lead_ne_of_isNamePart a hc hspaces (hplace hnames).1.symm

/-- Among the variables of a document, only the form of the scopes declares at an assignment. -/
theorem isDeclaredIn_assignedIn_iff {dialect : Dialect} {raw : Text}
    (a : Assignment Variable.scopeWords (Comment.strip dialect raw)) :
    a.IsDeclaredIn (Variable.assignedIn file dialect raw) (Comment.strip dialect raw) 0 ↔
      a.IsMatched Variable.scopeKeyword := by
  have htext : Comment.strip dialect raw = [] ++ (Comment.strip dialect raw ++ []) := by simp
  have hscope := isDeclaredIn_collect_iff file .unknown Variable.isKeyword_scopeKeyword
    areLetters_scopeWords htext a
  rw [← hscope]
  constructor
  · rintro ⟨v, hv, hrange⟩
    rcases Variable.mem_assignedIn.mp hv with hscoped | hbracket | ⟨-, hparam⟩
    · exact ⟨v, hscoped, hrange⟩
    · exact absurd ⟨v, hbracket, hrange⟩ (not_isDeclaredIn_bracketAssignment htext a)
    · exact absurd ⟨v, hparam, hrange⟩ (not_isDeclaredIn_paramTag htext a)
  · rintro ⟨v, hv, hrange⟩
    exact ⟨v, Variable.mem_assignedIn.mpr (Or.inl hv), hrange⟩

/-- Among the variables of a body, only the form of the local scope declares at an assignment. -/
theorem isDeclaredIn_localsIn_iff {context : Context} {body : Span}
    (a : Assignment ["local".toList]
      (context.text.slice (Variable.bodyBytes context.text body))) :
    a.IsDeclaredIn (Variable.localsIn context (some body)) context.text
        (Variable.bodyBytes context.text body).start ↔
      a.IsMatched (word "local".toList) := by
  obtain ⟨front, back, htext, hstart⟩ := Variable.exists_parts_of_body context.text body
  have hlocal := isDeclaredIn_collect_iff context.file .locals (Variable.isKeyword_word _)
    areLetters_local htext a
  rw [← hlocal, hstart]
  constructor
  · rintro ⟨v, hv, hrange⟩
    rcases Variable.mem_localsIn.mp hv with hvar | hlocal
    · exact absurd ⟨v, hstart ▸ hvar, hrange⟩ (not_isDeclaredIn_varDeclaration htext a)
    · exact ⟨v, hstart ▸ hlocal, hrange⟩
  · rintro ⟨v, hv, hrange⟩
    exact ⟨v, Variable.mem_localsIn.mpr (Or.inr (hstart.symm ▸ hv)), hrange⟩

end Variables

/-! ### Main result -/

/-- **Which assignments declare a variable.** An assignment to a member of a scope declares a
variable at its identifier if and only if no assignment that does so touches it. The same is true of
the assignments to local variables that lie in a body, where the part of the text between the ends
of the body decides. So the first of several assignments that touch is found, the second is not, the
third is, and so on; all others are found. -/
theorem isDeclaredIn_iff_of_touches (file : FileId) (dialect : Dialect) (raw : Text)
    (context : Context) (body : Span) :
    (∀ b : Assignment Variable.scopeWords (Comment.strip dialect raw),
      b.IsDeclaredIn (Variable.assignedIn file dialect raw) (Comment.strip dialect raw) 0 ↔
        ∀ a : Assignment Variable.scopeWords (Comment.strip dialect raw), a.Touches b →
          ¬ a.IsDeclaredIn (Variable.assignedIn file dialect raw) (Comment.strip dialect raw) 0) ∧
    ∀ b : Assignment ["local".toList] (context.text.slice (Variable.bodyBytes context.text body)),
      b.IsDeclaredIn (Variable.localsIn context (some body)) context.text
          (Variable.bodyBytes context.text body).start ↔
        ∀ a : Assignment ["local".toList]
          (context.text.slice (Variable.bodyBytes context.text body)), a.Touches b →
            ¬ a.IsDeclaredIn (Variable.localsIn context (some body)) context.text
              (Variable.bodyBytes context.text body).start := by
  constructor
  · intro b
    simp only [isDeclaredIn_assignedIn_iff]
    exact isMatched_iff Variable.isKeyword_scopeKeyword areLetters_scopeWords b
  · intro b
    simp only [isDeclaredIn_localsIn_iff]
    exact isMatched_iff (Variable.isKeyword_word _) areLetters_local b

/-- Of two assignments with one space between them the second is lost, of three the third is
found again. -/
example :
    (Variable.assignedIn ⟨0⟩ .script "form.a = url.b = this.c = 1".toList).map
      Variable.identifier = ["a".toList, "c".toList] := by
  decide +kernel

end Assignment

end CfmlNav
