import CfmlNav.Proofs.Pattern.Capture
import CfmlNav.Proofs.Text.Order
import CfmlNav.Proofs.Variable.Neighbour

/-!
# Variables in the order of their places

Variables are found by several forms, one search for each, and the lists are merged by place. No
place occurs twice: the matches of one search share no character and each holds the identifier that
it names (`pairwise_collect`), and two forms never name an identifier at the same place, as what
they ask for around it excludes each other (`Surrounds`, `declareApart_of_surrounds`). So the merged
lists are strictly increasing (`pairwise_assignedIn`, `pairwise_localsIn`).
-/

namespace CfmlNav

open Text Pattern Character

namespace Variable

/-! ### The identifier in its match -/

section Collect

variable {file : FileId} {text front part back : Text} {form : Pattern} {scope : Scope}

/-- A form that names nothing but identifiers names a part of its match. -/
theorem exists_identifier_of_capture (hform : form.parts nameGroup = [Pattern.identifier])
    {found : Match} {first taken behind : Text} {range : ByteRange}
    (hstands : form.StandsIn part found first taken behind)
    (hrange : found.capture? nameGroup = some range) :
    ∃ lead identifier rest, part = lead ++ (identifier ++ rest) ∧
      range = ⟨lead.byteSize, lead.byteSize + identifier.byteSize⟩ ∧ identifier ≠ [] ∧
      (∀ c ∈ identifier, isNamePart c = true) ∧
      found.start ≤ range.start ∧ range.stop ≤ found.after.offset := by
  obtain ⟨body, hbody, lead, identifier, rest, captures, rfl, rfl, hfits⟩ :=
    hstands.fitsWithin hrange
  rw [hform, List.mem_singleton] at hbody
  subst hbody
  obtain ⟨hne, hparts, -⟩ := fits_identifier.mp hfits
  refine ⟨first ++ lead, identifier, rest ++ behind, by simpa using hstands.text_eq, rfl, hne,
    hparts, ?_, ?_⟩
  · rw [hstands.start_eq]
    simp
  · rw [hstands.after_eq, Cursor.between]
    simp only [byteSize_append]
    omega

/-- The identifier of a collected variable is one of the text. -/
theorem exists_standsBetween_of_mem_collect (hform : form.parts nameGroup = [Pattern.identifier])
    (htext : text = front ++ (part ++ back)) {v : Variable}
    (h : v ∈ collect file text front.byteSize part form scope) :
    v.declaration.file = file ∧ v.identifier ≠ [] ∧ (∀ c ∈ v.identifier, isNamePart c = true) ∧
      ∃ lead rest, part = lead ++ (v.identifier ++ rest) ∧
        v.StandsBetween text (front ++ lead) (rest ++ back) := by
  obtain ⟨found, hfound, range, hrange, rfl⟩ := mem_collect.mp h
  obtain ⟨first, taken, behind, hstands⟩ := standsIn_of_mem_findAll hfound
  obtain ⟨lead, identifier, rest, hpart, rfl, hne, hparts, -, -⟩ :=
    exists_identifier_of_capture hform hstands hrange
  have hslice : part.slice ⟨lead.byteSize, lead.byteSize + identifier.byteSize⟩ = identifier := by
    rw [hpart, ← List.append_assoc, slice_boundaries]
  refine ⟨rfl, by rwa [hslice], by rwa [hslice], lead, rest, by rwa [hslice], ?_, ?_⟩
  · rw [hslice, htext, hpart]
    simp
  · rw [hslice, byteSize_append, Nat.add_assoc]

/-- The variables of one form come in the order of their places. -/
theorem pairwise_collect (hform : form.parts nameGroup = [Pattern.identifier])
    (htext : text = front ++ (part ++ back)) :
    (collect file text front.byteSize part form scope).Pairwise
      fun v w => v.declaration.range.start < w.declaration.range.start := by
  rw [collect, List.pairwise_filterMap]
  refine (pairwise_findAll part).imp_of_mem ?_
  intro found later hfound hlater hle v hv w hw
  obtain ⟨range, hrange, rfl⟩ := Option.map_eq_some_iff.mp hv
  obtain ⟨range', hrange', rfl⟩ := Option.map_eq_some_iff.mp hw
  obtain ⟨_, _, _, hstands⟩ := standsIn_of_mem_findAll hfound
  obtain ⟨_, _, _, hstands'⟩ := standsIn_of_mem_findAll hlater
  obtain ⟨lead, identifier, rest, hpart, rfl, hne, -, -, hstop⟩ :=
    exists_identifier_of_capture hform hstands hrange
  obtain ⟨lead', identifier', rest', hpart', rfl, -, -, hstart, -⟩ :=
    exists_identifier_of_capture hform hstands' hrange'
  have hpos : identifier.byteSize ≠ 0 := mt byteSize_eq_zero_iff.mp hne
  -- the earlier match holds its whole identifier and ends before the later one starts
  have hlead : lead.byteSize < lead'.byteSize :=
    calc lead.byteSize < lead.byteSize + identifier.byteSize := by omega
      _ ≤ found.after.offset := hstop
      _ ≤ later.start := hle
      _ ≤ lead'.byteSize := hstart
  have hlt : byteSize (front ++ lead) < byteSize (front ++ lead') := by
    rw [byteSize_append, byteSize_append]
    exact Nat.add_lt_add_left hlead _
  have hboundary : text = (front ++ lead) ++ (identifier ++ rest ++ back) := by
    rw [htext, hpart]
    simp
  have hboundary' : text = (front ++ lead') ++ (identifier' ++ rest' ++ back) := by
    rw [htext, hpart']
    simp
  have hposition := positionAt_lt_of_byteSize_lt hboundary hboundary' hlt
  rwa [byteSize_append, byteSize_append] at hposition

end Collect

/-! ### Forms that exclude each other -/

/-- The start of a declaration tells what stands before and behind it. -/
theorem StandsBetween.eq_of_start {v w : Variable} {text lead rest lead' rest' : Text}
    (hv : v.StandsBetween text lead rest) (hw : w.StandsBetween text lead' rest')
    (hstart : v.declaration.range.start = w.declaration.range.start) :
    lead = lead' ∧ v.identifier ++ rest = w.identifier ++ rest' := by
  have hsize : lead.byteSize = lead'.byteSize := by
    rw [← hv.offsetAt_start, ← hw.offsetAt_start, hstart]
  exact append_inj_of_byteSize (hv.text_eq.symm.trans hw.text_eq) hsize

/-- Whether a form names identifiers only between texts that are related in a certain way. -/
def Surrounds (form : Pattern) (around : Text → Text → Prop) : Prop :=
  ∀ {front taken behind : Text} {captures : List Capture},
    form.Fits front taken behind captures → ∃ lead identifier rest,
      Names (front ++ (taken ++ behind)) captures lead identifier rest ∧ around lead rest

/-- Whether variables that two forms collect from a part of a text start at different places. -/
def DeclareApart (form form' : Pattern) : Prop :=
  ∀ {file : FileId} {text front part back : Text} {scope scope' : Scope},
    text = front ++ (part ++ back) →
      ∀ v ∈ collect file text front.byteSize part form scope,
        ∀ w ∈ collect file text front.byteSize part form' scope',
          v.declaration.range.start ≠ w.declaration.range.start

section Apart

variable {form form' : Pattern} {around around' : Text → Text → Prop}

theorem exists_around_of_mem_collect (hform : form.parts nameGroup = [Pattern.identifier])
    (haround : Surrounds form around) {file : FileId} {text front part back : Text} {scope : Scope}
    (htext : text = front ++ (part ++ back)) {v : Variable}
    (h : v ∈ collect file text front.byteSize part form scope) :
    (∀ c ∈ v.identifier, isNamePart c = true) ∧ ∃ lead rest, around lead rest ∧
      v.StandsBetween text (front ++ lead) (rest ++ back) := by
  obtain ⟨-, -, hparts, -⟩ := exists_standsBetween_of_mem_collect hform htext h
  obtain ⟨found, -, first, taken, behind, hstands, hplace⟩ := exists_match_of_mem_collect htext h
  obtain ⟨lead, identifier, rest, hnames, hlead⟩ := haround hstands.fits
  rw [← hstands.text_eq] at hnames
  exact ⟨hparts, lead, rest, hlead, (hplace hnames).2⟩

/-- Two forms declare apart if what they ask for around an identifier excludes each other. -/
theorem declareApart_of_surrounds (hform : form.parts nameGroup = [Pattern.identifier])
    (hform' : form'.parts nameGroup = [Pattern.identifier]) (haround : Surrounds form around)
    (haround' : Surrounds form' around')
    (hapart : ∀ {lead identifier rest identifier' rest' : Text}, around lead rest →
      around' lead rest' → (∀ c ∈ identifier, isNamePart c = true) →
      (∀ c ∈ identifier', isNamePart c = true) → identifier ++ rest ≠ identifier' ++ rest') :
    DeclareApart form form' := by
  intro file text front part back scope scope' htext v hv w hw hstart
  obtain ⟨hparts, lead, rest, hlead, hstands⟩ :=
    exists_around_of_mem_collect hform haround htext hv
  obtain ⟨hparts', lead', rest', hlead', hstands'⟩ :=
    exists_around_of_mem_collect hform' haround' htext hw
  obtain ⟨hsame, hbehind⟩ := hstands.eq_of_start hstands' hstart
  obtain rfl := List.append_cancel_left hsame
  have hbehind' : (v.identifier ++ rest) ++ back = (w.identifier ++ rest') ++ back := by
    simpa using hbehind
  exact hapart hlead hlead' hparts hparts' (List.append_cancel_right hbehind')

end Apart

/-! ### Around the identifier -/

theorem surrounds_memberAssignment {keyword : Pattern} {words : List Text}
    (hkeyword : IsKeyword keyword words) :
    Surrounds (memberAssignment keyword) fun lead rest => ∃ (text : Text)
      (a : Assignment words text), lead = a.lead ∧ rest = a.gapBeforeEquals ++ '=' :: a.behind := by
  intro front taken behind captures h
  obtain ⟨a, -, hnames⟩ := exists_assignment_of_fits hkeyword rfl h
  exact ⟨_, _, _, hnames, _, a, rfl, rfl⟩

theorem surrounds_bracketAssignment :
    Surrounds bracketAssignment fun lead rest =>
      (∃ init gap c, lead = init ++ '[' :: gap ++ [c] ∧ (∀ e ∈ gap, isSpace e = true) ∧
        (c = '\'' ∨ c = '"')) ∧ ∃ d tail, rest = d :: tail ∧ (d = '\'' ∨ d = '"') := by
  intro front taken behind captures h
  obtain ⟨_, c, identifier, d, rest, hnames, hc, hd, init, gap, rfl, hgap⟩ :=
    exists_names_of_fits_bracketAssignment h
  exact ⟨_, _, _, hnames, ⟨init, gap, c, rfl, hgap, hc⟩, d, rest, rfl, hd⟩

theorem surrounds_paramTag :
    Surrounds paramTag fun lead rest =>
      ((∃ init gap c, lead = init ++ '=' :: gap ++ [c] ∧ ∀ e ∈ gap, isSpace e = true) ∨
        ∃ init, lead = init ++ ['.']) ∧ ∃ d tail, rest = d :: tail ∧ (d = '\'' ∨ d = '"') := by
  intro front taken behind captures h
  obtain ⟨lead, c, identifier, d, rest, hnames, hlead, hd⟩ := exists_names_of_fits_paramTag h
  refine ⟨_, _, _, hnames, ?_, d, rest, rfl, hd⟩
  rcases hlead with ⟨-, init, gap, rfl, hgap⟩ | rfl
  · exact Or.inl ⟨init, gap, c, rfl, hgap⟩
  · exact Or.inr ⟨lead, rfl⟩

theorem surrounds_varDeclaration :
    Surrounds varDeclaration fun lead _ =>
      ∃ front c gap, lead = front ++ c :: gap ∧ isNamePart c = true ∧ ∀ d ∈ gap, isSpace d = true := by
  intro front taken behind captures h
  obtain ⟨lead, c, gap, identifier, gap', rest, hnames, hc, -, hspaces, -, -⟩ :=
    exists_names_of_fits_varDeclaration h
  exact ⟨_, _, _, hnames, lead, c, gap, rfl, hc, hspaces⟩

/-! ### Every two forms -/

theorem isNamePart_of_quote {c : Char} (hc : c = '\'' ∨ c = '"') : isNamePart c = false := by
  rcases hc with rfl | rfl <;> decide +kernel

/-- A quoted identifier is not assigned to as a member. -/
theorem declareApart_scoped_of_quote {form : Pattern} {around : Text → Text → Prop}
    (hform : form.parts nameGroup = [Pattern.identifier]) (haround : Surrounds form around)
    (hquote : ∀ {lead rest}, around lead rest →
      ∃ d tail, rest = d :: tail ∧ (d = '\'' ∨ d = '"')) :
    DeclareApart (memberAssignment scopeKeyword) form := by
  refine declareApart_of_surrounds rfl hform (surrounds_memberAssignment isKeyword_scopeKeyword)
    haround ?_
  rintro lead identifier _ identifier' rest' ⟨text, a, -, rfl⟩ hlead hparts hparts' hbehind
  obtain ⟨d, tail, rfl, hd⟩ := hquote hlead
  obtain ⟨-, hrest⟩ := append_inj_of_block hbehind hparts hparts'
    (Assignment.isNamePart_head_of_spaces Assignment.isNamePart_equals a.isSpace_beforeEquals)
    (by simpa using isNamePart_of_quote hd)
  exact Assignment.ne_quote_of_rest hrest.symm hd

/-- Before the quote there is a bracket in one form and an equals sign in the other. -/
theorem declareApart_bracket_paramTag : DeclareApart bracketAssignment paramTag := by
  refine declareApart_of_surrounds rfl rfl surrounds_bracketAssignment surrounds_paramTag ?_
  rintro lead identifier rest identifier' rest' ⟨⟨init, gap, c, rfl, hgap, hc⟩, -⟩ ⟨hlead, -⟩ - - -
  rcases hlead with ⟨init', gap', c', hlead, hgap'⟩ | ⟨init', hlead⟩
  · obtain ⟨hopen, -⟩ := List.append_inj' hlead rfl
    have hblocks : (init ++ ['[']) ++ gap = (init' ++ ['=']) ++ gap' := by simpa using hopen
    obtain ⟨hlast, -⟩ := append_inj_of_block_right (p := isSpace) hblocks hgap hgap'
      (by simp; decide) (by simp; decide)
    simpa using congrArg List.getLast? hlast
  · obtain ⟨-, hlast⟩ := List.append_inj' hlead rfl
    obtain rfl : c = '.' := by simpa using hlast
    simp at hc

theorem declareApart_var_local :
    DeclareApart varDeclaration (memberAssignment (word "local".toList)) := by
  refine declareApart_of_surrounds rfl rfl surrounds_varDeclaration
    (surrounds_memberAssignment (isKeyword_word _)) ?_
  rintro lead identifier rest identifier' rest' ⟨front, c, gap, rfl, hc, hgap⟩ ⟨text, a, hlead, -⟩
    - - -
  exact a.lead_ne_of_isNamePart hc hgap hlead.symm

/-! ### The two lists of variables -/

/-- The variables of a document come in strictly increasing order. -/
theorem pairwise_assignedIn (file : FileId) (dialect : Dialect) (raw : Text) :
    (assignedIn file dialect raw).Pairwise
      fun v w => v.declaration.range.start < w.declaration.range.start := by
  have htext : Comment.strip dialect raw = [] ++ (Comment.strip dialect raw ++ []) := by simp
  rw [assignedIn, sort]
  refine Position.pairwise_sortBy ?_
  refine List.pairwise_append.mpr ⟨List.pairwise_append.mpr ⟨?_, ?_, ?_⟩, ?_, ?_⟩
  · exact (pairwise_collect rfl htext).imp ne_of_lt
  · exact (pairwise_collect rfl htext).imp ne_of_lt
  · exact declareApart_scoped_of_quote rfl surrounds_bracketAssignment And.right htext
  · split
    · exact List.Pairwise.nil
    · exact (pairwise_collect rfl htext).imp ne_of_lt
  · intro v hv w hw
    split at hw
    · simp at hw
    · rcases List.mem_append.mp hv with hscoped | hbracket
      · exact declareApart_scoped_of_quote rfl surrounds_paramTag And.right htext v hscoped w hw
      · exact declareApart_bracket_paramTag htext v hbracket w hw

/-- The variables of a body come in strictly increasing order. -/
theorem pairwise_localsIn (context : Context) (body : Span) :
    (localsIn context (some body)).Pairwise
      fun v w => v.declaration.range.start < w.declaration.range.start := by
  obtain ⟨front, back, htext, hstart⟩ := exists_parts_of_body context.text body
  rw [localsIn, sort]
  simp only [hstart]
  refine Position.pairwise_sortBy ?_
  refine List.pairwise_append.mpr ⟨?_, ?_, ?_⟩
  · exact (pairwise_collect rfl htext).imp ne_of_lt
  · exact (pairwise_collect rfl htext).imp ne_of_lt
  · exact declareApart_var_local htext

end Variable

end CfmlNav
