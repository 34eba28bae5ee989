import CfmlNav.Reference
import CfmlNav.Proofs.Character
import CfmlNav.Proofs.Pattern.Capture
import CfmlNav.Proofs.Pattern.Greedy
import Mathlib.Data.List.DropRight

/-!
# References are whole names

The forms of the language capture a dotted path between other characters than those of names
(`exists_captured_of_mem_findAll`). Behind the path this holds without exception: either the form
asks for a quote, white space or a parenthesis there, or the path is taken as far as it goes. Before
the path there are quotes, white space or an equals sign in most forms. But in the clauses of a
declaration all of these may be left out, so an identifier that begins with the keyword of a clause
is cut in two (`FollowsKeyword`).
-/

namespace CfmlNav.ReferencePattern

open Character Pattern Text

/-! ### Around a captured path -/

/-- Whether a text ends with no character of a name. -/
def EndsInGap (front : Text) : Prop :=
  ∀ c ∈ front.getLast?, isNamePart c = false

/-- Whether a text ends with the keyword of a clause of a declaration, in any case, behind a boundary
of a word. -/
def FollowsKeyword (name front : Text) : Prop :=
  (name = "extends".toList ∨ name = "implements".toList) ∧
    ∃ before keyword, front = before ++ keyword ∧
      keyword.map foldCode = name.map foldCode ∧ ∀ c ∈ before.getLast?, isWord c = false

/-- A match that captures `path` between `front` and `behind`. -/
structure CapturesBetween (text : Text) (found : Match) (front path behind : Text) : Prop where
  text_eq : text = front ++ (path ++ behind)
  capture_eq : found.capture? pathGroup = some ⟨front.byteSize, byteSize (front ++ path)⟩

variable {ps qs gaps : List Pattern} {body : Pattern} {front lead rest taken behind : Text}
  {captures : List Capture} {text : Text} {found : Match}

/-- A path that a sequence captures stands between what the patterns before it and those behind it
fit. -/
theorem exists_capturesBetween (hps : (sequence ps).isSilent = true) (hbody : body.isSilent = true)
    (hqs : (sequence qs).isSilent = true)
    (h : (sequence (ps ++ capture pathGroup body :: qs)).StandsIn text found front taken behind) :
    ∃ lead path rest, CapturesBetween text found (front ++ lead) path (rest ++ behind) ∧
      (sequence ps).Fits front lead (path ++ (rest ++ behind)) [] ∧
      (sequence qs).Fits (front ++ lead ++ path) rest behind [] := by
  obtain ⟨lead, path, rest, rfl, hcaptures, hlead, hrest⟩ :=
    exists_captured_of_fits hps hbody hqs h.fits
  refine ⟨lead, path, rest, ⟨?_, ?_⟩, hlead, hrest⟩
  · rw [h.text_eq]
    simp
  · simp [Match.capture?, hcaptures]

/-! ### Gaps -/

/-- A text ends in a gap that it ends with. -/
theorem endsInGap_append {gap : Text} (hne : gap ≠ []) (hgap : ∀ c ∈ gap, isNamePart c = false)
    (front : Text) : EndsInGap (front ++ gap) := by
  intro c hc
  rw [List.getLast?_append_of_ne_nil _ hne] at hc
  exact hgap c (List.mem_of_mem_getLast? hc)

/-- Whether a pattern takes at least one character, and none of a name. -/
structure IsGap (p : Pattern) : Prop where
  avoids : p.Avoids isNamePart
  consuming : p.Consuming

theorem IsGap.endsInGap (hgaps : IsGap (sequence gaps))
    (h : (sequence (ps ++ gaps)).Fits front lead behind captures) : EndsInGap (front ++ lead) := by
  obtain ⟨start, gap, _, _, rfl, -, -, hgap⟩ := (fits_sequence_append _ _).mp h
  rw [← List.append_assoc]
  exact endsInGap_append (hgaps.consuming hgap) (hgap.forall_of_avoids hgaps.avoids) _

theorem IsGap.startsApart (hgaps : IsGap (sequence gaps))
    (h : (sequence (gaps ++ qs)).Fits front rest behind captures) :
    StartsApart isNamePart (rest ++ behind) := by
  obtain ⟨gap, rest, _, _, rfl, -, hgap, -⟩ := (fits_sequence_append _ _).mp h
  intro c hc
  rw [List.append_assoc, List.head?_append_of_ne_nil _ (hgaps.consuming hgap)] at hc
  exact hgap.forall_of_avoids hgaps.avoids c (List.mem_of_mem_head? hc)

theorem avoids_quote : quote.Avoids isNamePart := by
  intro c hc
  have hquote : c = '\'' ∨ c = '"' := by simpa using hc
  rcases hquote with rfl | rfl <;> decide +kernel

theorem avoids_char {c : Char} (hc : isNamePart c = false) : (char c).Avoids isNamePart := by
  intro d hd
  rwa [beq_iff_eq.mp hd]

theorem avoids_spaces : spaces.Avoids isNamePart :=
  ⟨isNamePart_of_isSpace, trivial⟩

theorem avoids_maybeQuote : maybeQuote.Avoids isNamePart :=
  ⟨avoids_quote, trivial⟩

theorem isGap_quote : IsGap (sequence [quote]) where
  avoids := avoids_quote
  consuming h := by
    obtain ⟨⟨c, -, rfl⟩, -⟩ := fits_quote.mp h
    exact List.cons_ne_nil c []

/-- White space before a path, and possibly a quote. -/
theorem isGap_someSpaces : IsGap (sequence [someSpaces, maybeQuote]) where
  avoids := ⟨isNamePart_of_isSpace, avoids_maybeQuote⟩
  consuming h := by
    obtain ⟨_, _, _, _, rfl, -, hspaces, -⟩ := h
    exact List.append_ne_nil_of_left_ne_nil (fits_someSpaces.mp hspaces).1 _

/-- The opening parenthesis behind a path, possibly behind a quote and white space. -/
theorem isGap_parenthesis : IsGap (sequence [maybeQuote, spaces, char '(']) where
  avoids := ⟨avoids_maybeQuote, avoids_spaces, avoids_char (by decide +kernel)⟩
  consuming h := by
    obtain ⟨_, _, _, _, rfl, -, -, _, _, _, _, rfl, -, -, hchar⟩ := h
    obtain ⟨rfl, -⟩ := fits_char.mp hchar
    simp

/-! ### Forms with gaps on both sides -/

/-- A quoted path stands between its quotes. -/
theorem exists_capturesBetween_of_quoted (hps : (sequence (ps ++ [quote])).isSilent = true)
    (hqs : (sequence (quote :: qs)).isSilent = true)
    (h : found ∈ (sequence (ps ++ quotedPath :: qs)).findAll text) :
    ∃ front path behind, CapturesBetween text found front path behind ∧
      StartsApart isNamePart behind ∧ EndsInGap front := by
  obtain ⟨front, taken, behind, hstands⟩ := standsIn_of_mem_findAll h
  have hfits := (fits_sequence_sequence ps [quote, loosePath, quote] qs).mp hstands.fits
  have hflat : (sequence ((ps ++ [quote]) ++ loosePath :: (quote :: qs))).StandsIn text found front
      taken behind :=
    ⟨hstands.text_eq, by simpa using hfits, hstands.start_eq, hstands.after_eq⟩
  obtain ⟨lead, path, rest, hbetween, hlead, hrest⟩ := exists_capturesBetween hps rfl hqs hflat
  exact ⟨front ++ lead, path, rest ++ behind, hbetween, isGap_quote.startsApart hrest,
    isGap_quote.endsInGap hlead⟩

/-- The path of a new object stands behind white space, and before a parenthesis. -/
theorem exists_capturesBetween_of_new
    (h : found ∈ (sequence [boundary, word "new".toList, someSpaces, maybeQuote, dottedPath,
      maybeQuote, spaces, char '(']).findAll text) :
    ∃ front path behind, CapturesBetween text found front path behind ∧
      StartsApart isNamePart behind ∧ EndsInGap front := by
  obtain ⟨front, taken, behind, hstands⟩ := standsIn_of_mem_findAll h
  have hform : (sequence (([boundary, word "new".toList] ++ [someSpaces, maybeQuote]) ++ dottedPath ::
      [maybeQuote, spaces, char '('])).StandsIn text found front taken behind := hstands
  have hsilent : (sequence ([boundary, word "new".toList] ++ [someSpaces, maybeQuote])).isSilent = true :=
    rfl
  obtain ⟨lead, path, rest, hbetween, hlead, hrest⟩ := exists_capturesBetween hsilent rfl rfl hform
  rw [← List.append_nil [maybeQuote, spaces, char '(']] at hrest
  exact ⟨front ++ lead, path, rest ++ behind, hbetween, isGap_parenthesis.startsApart hrest,
    isGap_someSpaces.endsInGap hlead⟩

/-! ### Forms that end with the path -/

theorem endsApart_dottedPath : EndsApart isNamePart dottedPath :=
  ((endsApart_plus_one isNamePart).seq_star ((endsApart_plus_one isNamePart).seq _)).capture pathGroup

/-- A path at the end of a form is taken as far as it goes. -/
theorem exists_capturesBetween_of_last (hps : (sequence ps).isSilent = true)
    (h : found ∈ (sequence (ps ++ [dottedPath])).findAll text) :
    ∃ front lead path behind, CapturesBetween text found (front ++ lead) path behind ∧
      StartsApart isNamePart behind ∧ (sequence ps).Fits front lead (path ++ behind) [] := by
  obtain ⟨front, back, rfl, hmatch⟩ := exists_matchAt_of_mem_findAll h
  obtain ⟨taken, behind, hstands⟩ := standsIn_of_matchAt hmatch
  have hapart : StartsApart isNamePart behind := by
    have hafter := (endsApart_dottedPath.sequence_concat ps).startsApart_after hmatch
    rwa [hstands.after_eq] at hafter
  obtain ⟨lead, path, _, hbetween, hlead, rfl, -⟩ := exists_capturesBetween hps rfl rfl hstands
  exact ⟨front, lead, path, behind, hbetween, hapart, hlead⟩

theorem exists_capturesBetween_of_import
    (h : found ∈ (sequence [boundary, word "import".toList, someSpaces, maybeQuote,
      dottedPath]).findAll text) :
    ∃ front path behind, CapturesBetween text found front path behind ∧
      StartsApart isNamePart behind ∧ EndsInGap front := by
  have hform : found ∈ (sequence (([boundary, word "import".toList] ++ [someSpaces, maybeQuote]) ++
      [dottedPath])).findAll text := h
  obtain ⟨front, lead, path, behind, hbetween, hapart, hlead⟩ :=
    exists_capturesBetween_of_last rfl hform
  exact ⟨front ++ lead, path, behind, hbetween, hapart, isGap_someSpaces.endsInGap hlead⟩

/-- A keyword that a form asks for stands behind a boundary. -/
theorem apart_of_fits_keyword {w keyword : Text} (hw : w ≠ []) (hletters : isLetters w = true)
    (h : (sequence [boundary, word w]).Fits front keyword behind captures) :
    keyword.map foldCode = w.map foldCode ∧ ∀ c ∈ front.getLast?, isWord c = false := by
  obtain ⟨_, keyword, _, _, rfl, -, hboundary, hword⟩ := h
  obtain rfl := hboundary.1
  obtain ⟨hfold, -⟩ := fits_word.mp hword
  refine ⟨hfold, ?_⟩
  obtain ⟨c, rest, rfl⟩ : ∃ c rest, keyword = c :: rest :=
    List.exists_cons_of_ne_nil (by rintro rfl; exact hw (List.map_eq_nil_iff.mp hfold.symm))
  obtain ⟨hlow, hhigh⟩ := foldCode_of_fold hfold hletters c List.mem_cons_self
  exact ((fits_boundary (isWord_of_foldCode hlow hhigh)).mp hboundary).2

/-- In a clause of a declaration everything between the keyword and the path may be left out. -/
theorem exists_capturesBetween_of_clause {name : String}
    (hname : name = "extends" ∨ name = "implements") (h : found ∈ (clause name).findAll text) :
    ∃ front path behind, CapturesBetween text found front path behind ∧
      StartsApart isNamePart behind ∧ (EndsInGap front ∨ FollowsKeyword name.toList front) := by
  have hform : found ∈ (sequence (([boundary, word name.toList] ++ [spaces,
      optional true (seq (char '=') spaces), maybeQuote]) ++ [dottedPath])).findAll text := h
  have hsilent : (sequence ([boundary, word name.toList] ++ [spaces,
      optional true (seq (char '=') spaces), maybeQuote])).isSilent = true := by
    rcases hname with rfl | rfl <;> rfl
  have hword : name.toList ≠ [] ∧ isLetters name.toList = true := by
    rcases hname with rfl | rfl <;> decide
  have havoids : (sequence [spaces, optional true (seq (char '=') spaces), maybeQuote]).Avoids
      isNamePart :=
    ⟨avoids_spaces, ⟨⟨avoids_char (by decide +kernel), avoids_spaces⟩, trivial⟩, avoids_maybeQuote⟩
  obtain ⟨front, lead, path, behind, hbetween, hapart, hlead⟩ :=
    exists_capturesBetween_of_last hsilent hform
  refine ⟨front ++ lead, path, behind, hbetween, hapart, ?_⟩
  obtain ⟨keyword, gap, _, _, rfl, -, hkeyword, hgap⟩ := (fits_sequence_append _ _).mp hlead
  by_cases hne : gap = []
  · subst hne
    obtain ⟨hfold, hapart⟩ := apart_of_fits_keyword hword.1 hword.2 hkeyword
    rw [List.append_nil]
    exact .inr ⟨hname.imp (congrArg _) (congrArg _), front, keyword, rfl, hfold, hapart⟩
  · rw [← List.append_assoc]
    exact .inl (endsInGap_append hne (hgap.forall_of_avoids havoids) _)

/-! ### All forms of the language -/

theorem exists_capturesBetween_of_mem {form : ReferencePattern} (hform : form ∈ builtIn)
    (h : found ∈ form.form.findAll text) :
    ∃ front path behind, CapturesBetween text found front path behind ∧
      StartsApart isNamePart behind ∧ (EndsInGap front ∨ FollowsKeyword form.name front) := by
  have hgap (hbetween : ∃ front path behind, CapturesBetween text found front path behind ∧
      StartsApart isNamePart behind ∧ EndsInGap front) :
      ∃ front path behind, CapturesBetween text found front path behind ∧
        StartsApart isNamePart behind ∧ (EndsInGap front ∨ FollowsKeyword form.name front) := by
    obtain ⟨front, path, behind, hbetween, hapart, hend⟩ := hbetween
    exact ⟨front, path, behind, hbetween, hapart, .inl hend⟩
  simp only [builtIn, languageForms, List.map_cons, List.map_nil, List.mem_cons, List.not_mem_nil,
    or_false] at hform
  rcases hform with rfl | rfl | rfl | rfl | rfl | rfl | rfl | rfl
  · exact hgap (exists_capturesBetween_of_new h)
  · have hquoted : found ∈ (sequence ([call "createObject", spaces, quote, word "component".toList,
        quote, spaces, char ',', spaces] ++ quotedPath :: [])).findAll text := h
    exact hgap (exists_capturesBetween_of_quoted rfl rfl hquoted)
  · have hquoted : found ∈ (sequence ([call "createObject", spaces] ++ quotedPath ::
        [spaces, char ')'])).findAll text := h
    exact hgap (exists_capturesBetween_of_quoted rfl rfl hquoted)
  · exact hgap (exists_capturesBetween_of_import h)
  · exact exists_capturesBetween_of_clause (.inl rfl) h
  · exact exists_capturesBetween_of_clause (.inr rfl) h
  · have hquoted : found ∈ (sequence ([word "<cfinvoke".toList, boundary,
        star false (one (· != '>')), boundary, word "component".toList, spaces, char '=', spaces] ++
        quotedPath :: [])).findAll text := h
    exact hgap (exists_capturesBetween_of_quoted rfl rfl hquoted)
  · have hquoted : found ∈ (sequence ([call "isInstanceOf", star true (noneOf [',', ')']), char ',',
        spaces] ++ quotedPath :: [])).findAll text := h
    exact hgap (exists_capturesBetween_of_quoted rfl rfl hquoted)

/-- The path of a reference is what its form captures, up to dots at the end. -/
theorem exists_dots_of_reference? {form : ReferencePattern} {reference : Reference}
    {front path behind : Text}
    (h : form.reference? (front ++ (path ++ behind)) ⟨front.byteSize, byteSize (front ++ path)⟩ =
      some reference) :
    reference.pattern = form.name ∧
      ∃ dots, path = reference.path ++ dots ∧ ∀ c ∈ dots, c = '.' := by
  have hslice : slice (front ++ (path ++ behind)) ⟨front.byteSize, byteSize (front ++ path)⟩ = path := by
    rw [byteSize_append, ← List.append_assoc]
    exact slice_boundaries front path behind
  rw [reference?, hslice] at h
  dsimp only at h
  split at h
  next => simp at h
  next =>
    obtain rfl := Option.some_inj.mp h
    refine ⟨rfl, path.rtakeWhile (· == '.'), List.rdropWhile_append_rtakeWhile.symm, ?_⟩
    intro c hc
    simpa using List.mem_rtakeWhile_imp hc

/-- A keyword ends with a character of a name. -/
theorem FollowsKeyword.exists_isNamePart {name front : Text} (h : FollowsKeyword name front) :
    ∃ c ∈ front.getLast?, isNamePart c = true := by
  obtain ⟨hclause, before, keyword, rfl, hfold, -⟩ := h
  have hword : name ≠ [] ∧ isLetters name = true := by
    rcases hclause with rfl | rfl <;> decide
  have hne : keyword ≠ [] := by
    rintro rfl
    exact hword.1 (List.map_eq_nil_iff.mp hfold.symm)
  refine ⟨keyword.getLast hne, ?_, isNamePart_of_fold hfold hword.2 _ (List.getLast_mem hne)⟩
  rw [List.getLast?_append_of_ne_nil _ hne, List.getLast?_eq_getLast_of_ne_nil hne]
  rfl

/-- **References are whole names, but for keywords without a gap.** What a form of the language
captures for a reference is its path, possibly with dots behind it. Directly behind it there is no
character of a name. Directly before it there is one exactly if the form is a clause of a declaration
and its keyword stands there, behind a boundary. -/
theorem exists_captured_of_mem_findAll {text : Text} {reference : Reference}
    (h : reference ∈ findAll builtIn text) :
    ∃ form ∈ builtIn, ∃ found ∈ form.form.findAll text, ∃ front path behind,
      CapturesBetween text found front path behind ∧
      form.reference? text ⟨front.byteSize, byteSize (front ++ path)⟩ = some reference ∧
      reference.pattern = form.name ∧
      (∃ dots, path = reference.path ++ dots ∧ ∀ c ∈ dots, c = '.') ∧
      StartsApart isNamePart behind ∧
      ((∃ c ∈ front.getLast?, isNamePart c = true) ↔ FollowsKeyword reference.pattern front) := by
  obtain ⟨form, hform, hfind⟩ := List.mem_flatMap.mp h
  obtain ⟨found, hfound, hreference⟩ := List.mem_filterMap.mp hfind
  obtain ⟨front, path, behind, hbetween, hapart, hlead⟩ := exists_capturesBetween_of_mem hform hfound
  rw [hbetween.capture_eq, Option.bind_some] at hreference
  obtain ⟨hpattern, hdots⟩ := exists_dots_of_reference? (hbetween.text_eq ▸ hreference)
  refine ⟨form, hform, found, hfound, front, path, behind, hbetween, hreference, hpattern, hdots,
    hapart, ?_, FollowsKeyword.exists_isNamePart⟩
  rintro ⟨c, hc, hname⟩
  rw [hpattern]
  refine hlead.resolve_left fun hgap => ?_
  rw [hgap c hc] at hname
  contradiction

theorem captured_base_model :
    (⟨"extends".toList, "base.Model".toList, "Model".toList, 24⟩ : Reference) ∈
      findAll builtIn "component extends=\"base.Model\" \x7b\x7d".toList ∧
    ∃ front path behind, "component extends=\"base.Model\" \x7b\x7d".toList =
        front ++ (path ++ behind) ∧ StartsApart isNamePart behind ∧
      ((∃ c ∈ front.getLast?, isNamePart c = true) ↔ FollowsKeyword "extends".toList front) := by
  have hmem : (⟨"extends".toList, "base.Model".toList, "Model".toList, 24⟩ : Reference) ∈
      findAll builtIn "component extends=\"base.Model\" \x7b\x7d".toList := by
    decide +kernel
  obtain ⟨_, -, _, -, front, path, behind, hbetween, -, -, -, hapart, hlead⟩ :=
    exists_captured_of_mem_findAll hmem
  exact ⟨hmem, front, path, behind, hbetween.text_eq, hapart, hlead⟩

example : findAll builtIn "extendsFoo".toList =
    [⟨"extends".toList, "Foo".toList, "Foo".toList, 7⟩] := by
  decide +kernel

end CfmlNav.ReferencePattern
