import CfmlNav.Proofs.LetterCase.Text
import CfmlNav.Proofs.Qualifier.Grammar
import CfmlNav.Proofs.Variable.Order

/-!
# Scopes as they are written

The scope of an assigned variable is read twice. A form recognises the keyword of the scope up to
case folding, where the long s is an `s` and the Kelvin sign a `k`; what it captures is then parsed
with the case of ASCII letters ignored, where they are other characters. These two are the only
case variants of keyword letters outside of ASCII, so the readings agree on all keywords without
them (`Scope.parse_of_isNamedBy`), and every keyword with one of them is of no known scope.

Every match of a form declares one variable, and as no two assigned variables stand at the same
place, the match settles its scope (`DeclaredBy.scope_eq`). Two of the forms always capture a scope;
only a parameter tag may come without one (`DeclaredBy.eq_paramTag`).
-/

namespace CfmlNav

open Text Pattern Character

/-! ### Case variants outside of ASCII -/

namespace Character

/-- The long s and the Kelvin sign are the case variants of ASCII letters outside of ASCII. -/
theorem isAscii_eq_false_iff_of_foldCode {c : Char} (hlow : 97 ≤ foldCode c)
    (hhigh : foldCode c ≤ 122) : isAscii c = false ↔ c = 'ſ' ∨ c = '\u212A' :=
  of_foldCode (motive := fun c => isAscii c = false ↔ c = 'ſ' ∨ c = '\u212A') (by decide)
    (by decide) (by decide) (by decide) hlow hhigh

theorem foldCode_of_isAscii {c : Char} (h : isAscii c = true) :
    foldCode c = (asciiLower c).toNat :=
  of_isAscii (motive := fun c => foldCode c = (asciiLower c).toNat) (by decide +kernel) h

end Character

/-- Within ASCII folding is lowering, so texts that fold alike are lowered alike. -/
theorem Text.asciiLowercase_eq_of_fold {text other : Text}
    (hfold : text.map foldCode = other.map foldCode) (htext : text.isAscii = true)
    (hother : other.isAscii = true) : text.asciiLowercase = other.asciiLowercase := by
  have hcodes {part : Text} (h : part.isAscii = true) :
      part.map foldCode = part.asciiLowercase.map Char.toNat := by
    rw [asciiLowercase, List.map_map]
    exact List.map_congr_left fun c hc => foldCode_of_isAscii (List.all_eq_true.mp h c hc)
  rw [hcodes htext, hcodes hother] at hfold
  exact List.map_injective_iff.mpr (fun _ _ => Char.toNat_inj.mp) hfold

/-! ### Keywords of scopes -/

namespace Scope

/-- Whether a text is the keyword of a scope up to case folding. -/
def IsNamedBy (scope : Scope) (keyword : Text) : Prop :=
  keyword.map foldCode = scope.word.map foldCode

instance (scope : Scope) (keyword : Text) : Decidable (scope.IsNamedBy keyword) :=
  inferInstanceAs (Decidable (_ = _))

variable {scope other : Scope} {keyword : Text}

theorem parse_word (scope : Scope) : parse scope.word = scope := by
  cases scope <;> decide +kernel

theorem isAscii_word (scope : Scope) : scope.word.isAscii = true := by
  cases scope <;> decide +kernel

theorem asciiLowercase_word (scope : Scope) : scope.word.asciiLowercase = scope.word := by
  cases scope <;> decide +kernel

/-- No keyword is that of two scopes. -/
theorem IsNamedBy.eq (h : scope.IsNamedBy keyword) (h' : other.IsNamedBy keyword) :
    other = scope := by
  have hlower := asciiLowercase_eq_of_fold (h'.symm.trans h) (isAscii_word other)
    (isAscii_word scope)
  rw [asciiLowercase_word, asciiLowercase_word] at hlower
  rw [← parse_word other, hlower, parse_word]

theorem IsNamedBy.isAscii_eq_false_iff (h : scope.IsNamedBy keyword) :
    keyword.isAscii = false ↔ 'ſ' ∈ keyword ∨ '\u212A' ∈ keyword := by
  have hvariant {c : Char} (hc : c ∈ keyword) :
      Character.isAscii c = false ↔ c = 'ſ' ∨ c = '\u212A' := by
    obtain ⟨hlow, hhigh⟩ := foldCode_of_fold h (Qualifier.isLetters_word scope).2 c hc
    exact isAscii_eq_false_iff_of_foldCode hlow hhigh
  rw [Text.isAscii, List.all_eq_false]
  constructor
  · rintro ⟨c, hc, hascii⟩
    rcases (hvariant hc).mp (Bool.eq_false_iff.mpr hascii) with rfl | rfl
    · exact Or.inl hc
    · exact Or.inr hc
  · rintro (hc | hc)
    · exact ⟨_, hc, by decide⟩
    · exact ⟨_, hc, by decide⟩

/-- What is not in ASCII is the keyword of no scope. -/
theorem parse_of_isAscii_eq_false (h : keyword.isAscii = false) : parse keyword = unknown := by
  -- the words of all scopes are in ASCII, and lowering keeps a text in ASCII or out of it
  have hnone : qualifiers.find? (fun scope => scope.word == keyword.asciiLowercase) = none := by
    rw [List.find?_eq_none]
    intro scope _ hword
    have hascii := isAscii_word scope
    rw [eq_of_beq hword, isAscii_asciiLowercase, h] at hascii
    contradiction
  rw [parse, hnone, Option.getD_none]

/-- A keyword of ASCII is parsed as that of its scope. -/
theorem parse_of_isAscii (h : scope.IsNamedBy keyword) (hascii : keyword.isAscii = true) :
    parse keyword = scope := by
  rw [← parse_asciiLowercase, asciiLowercase_eq_of_fold h hascii (isAscii_word scope),
    asciiLowercase_word, parse_word]

/-- **What parsing makes of a keyword** that a form has recognised. -/
theorem parse_of_isNamedBy (h : scope.IsNamedBy keyword) :
    parse keyword = if 'ſ' ∈ keyword ∨ '\u212A' ∈ keyword then unknown else scope := by
  split
  next hvariant => exact parse_of_isAscii_eq_false (h.isAscii_eq_false_iff.mpr hvariant)
  next hvariant =>
    have hascii := mt h.isAscii_eq_false_iff.mp hvariant
    exact parse_of_isAscii h (Bool.eq_true_of_not_eq_false hascii)

example : parse "SesSION".toList = session ∧ parse "seſſion".toList = unknown := by decide +kernel

end Scope

namespace Variable

/-! ### Matches that declare a variable -/

/-- The forms that are searched for in the documents of a dialect, with the scope of what is
declared where a form captures none. -/
def assignmentForms (dialect : Dialect) : List (Pattern × Scope) :=
  [(scopedAssignment, .unknown), (bracketAssignment, .unknown)] ++
    if dialect.isScript then [] else [(paramTag, .vars)]

/-- A match of a form in a document whose comments are blanked out, where what is captured as the
name is the identifier of a variable, at the range of its declaration. -/
structure DeclaredBy (v : Variable) (dialect : Dialect) (raw : Text) (form : Pattern × Scope)
    (found : Match) : Prop where
  form_mem : form ∈ assignmentForms dialect
  found_mem : found ∈ form.1.findAll (Comment.strip dialect raw)
  names : ∃ range, found.capture? nameGroup = some range ∧
    v.identifier = (Comment.strip dialect raw).slice range ∧
    v.declaration.range = (Comment.strip dialect raw).spanAt range

section Declared

variable {v : Variable} {file : FileId} {dialect : Dialect} {raw text : Text}
  {form : Pattern × Scope} {found : Match} {range : ByteRange}

theorem eq_of_mem_assignmentForms (h : form ∈ assignmentForms dialect) :
    form = (scopedAssignment, .unknown) ∨ form = (bracketAssignment, .unknown) ∨
      form = (paramTag, .vars) := by
  rw [assignmentForms] at h
  split at h
  · have hscoped : form = (scopedAssignment, .unknown) ∨ form = (bracketAssignment, .unknown) := by
      simpa using h
    exact hscoped.imp_right Or.inl
  · simpa using h

theorem mem_assignedIn_iff_form : v ∈ assignedIn file dialect raw ↔
    ∃ form ∈ assignmentForms dialect, v ∈ collect file (Comment.strip dialect raw) 0
      (Comment.strip dialect raw) form.1 form.2 := by
  rw [assignedIn, sort, Position.mem_sortBy, assignmentForms]
  cases dialect.isScript <;> simp

/-- What is captured as a scope is the keyword of one of the scopes whose assignments are found. -/
theorem exists_isNamedBy_of_capture (hform : form ∈ assignmentForms dialect)
    (hfound : found ∈ form.1.findAll text) (hscope : found.capture? scopeGroup = some range) :
    ∃ scope ∈ assignedScopes, scope.IsNamedBy (text.slice range) := by
  have hparts : form.1.parts scopeGroup = [anyWord (assignedScopes.map Scope.word)] := by
    rcases eq_of_mem_assignmentForms hform with rfl | rfl | rfl <;> rfl
  obtain ⟨front, taken, behind, hstands⟩ := standsIn_of_mem_findAll hfound
  obtain ⟨body, hbody, lead, keyword, rest, captures, rfl, rfl, hfits⟩ := hstands.fitsWithin hscope
  rw [hparts, List.mem_singleton] at hbody
  subst hbody
  have htext : text = (front ++ lead) ++ keyword ++ (rest ++ behind) := by
    simpa using hstands.text_eq
  obtain ⟨⟨word, hword, hfold⟩, -⟩ := (fits_anyWord (by decide)).mp hfits
  obtain ⟨scope, hmem, rfl⟩ := List.mem_map.mp hword
  rw [htext, slice_boundaries]
  exact ⟨scope, hmem, hfold⟩

/-- Every assigned variable comes from a match. -/
theorem exists_declaredBy (h : v ∈ assignedIn file dialect raw) :
    ∃ form found, v.DeclaredBy dialect raw form found := by
  obtain ⟨form, hform, hcollect⟩ := mem_assignedIn_iff_form.mp h
  obtain ⟨found, hfound, range, hrange, rfl⟩ := mem_collect.mp hcollect
  exact ⟨form, found, hform, hfound, range, hrange, rfl, by simp only [Nat.zero_add]⟩

/-- Every match yields a variable, as all forms report a name. -/
theorem exists_mem_assignedIn_of_mem_findAll (file : FileId)
    (hform : form ∈ assignmentForms dialect)
    (hfound : found ∈ form.1.findAll (Comment.strip dialect raw)) :
    ∃ v ∈ assignedIn file dialect raw, v.DeclaredBy dialect raw form found ∧
      v.scope = ((found.capture? scopeGroup).map fun keyword =>
        .parse ((Comment.strip dialect raw).slice keyword)).getD form.2 := by
  have hreports : form.1.reports nameGroup = true := by
    rcases eq_of_mem_assignmentForms hform with rfl | rfl | rfl <;> decide +kernel
  obtain ⟨_, _, _, hstands⟩ := standsIn_of_mem_findAll hfound
  obtain ⟨range, hname⟩ := Option.ne_none_iff_exists'.mp (hstands.capture?_ne_none hreports)
  refine ⟨_, mem_assignedIn_iff_form.mpr ⟨form, hform, mem_collect.mpr
    ⟨found, hfound, range, hname, rfl⟩⟩, ⟨hform, hfound, range, hname, rfl, ?_⟩, rfl⟩
  simp only [Nat.zero_add]

/-- No two variables that a document assigns start at the same place. -/
theorem eq_of_start_eq {w : Variable} (hv : v ∈ assignedIn file dialect raw)
    (hw : w ∈ assignedIn file dialect raw)
    (hstart : v.declaration.range.start = w.declaration.range.start) : v = w := by
  have hsymm : Std.Symm fun v w : Variable =>
      v.declaration.range.start ≠ w.declaration.range.start := ⟨fun _ _ => Ne.symm⟩
  have hapart : (assignedIn file dialect raw).Pairwise fun v w =>
      v.declaration.range.start ≠ w.declaration.range.start :=
    (pairwise_assignedIn file dialect raw).imp ne_of_lt
  by_contra hne
  exact hapart.forall hv hw hne hstart

namespace DeclaredBy

/-- Only a parameter tag comes without a scope. -/
theorem eq_paramTag (h : v.DeclaredBy dialect raw form found)
    (hscope : found.capture? scopeGroup = none) : form = (paramTag, .vars) := by
  obtain ⟨_, _, _, hstands⟩ := standsIn_of_mem_findAll h.found_mem
  rcases eq_of_mem_assignmentForms h.form_mem with rfl | rfl | rfl
  · exact absurd hscope (hstands.capture?_ne_none (by decide +kernel))
  · exact absurd hscope (hstands.capture?_ne_none (by decide +kernel))
  · rfl

/-- A match declares one variable. -/
theorem eq {w : Variable} (h : v.DeclaredBy dialect raw form found)
    (h' : w.DeclaredBy dialect raw form found) (hv : v ∈ assignedIn file dialect raw)
    (hw : w ∈ assignedIn file dialect raw) : v = w := by
  obtain ⟨-, -, range, hname, -, hrange⟩ := h
  obtain ⟨-, -, range', hname', -, hrange'⟩ := h'
  obtain rfl := Option.some_inj.mp (hname.symm.trans hname')
  exact eq_of_start_eq hv hw (by rw [hrange, hrange'])

/-- The match that declares an assigned variable settles its scope. -/
theorem scope_eq (h : v.DeclaredBy dialect raw form found) (hv : v ∈ assignedIn file dialect raw) :
    v.scope = ((found.capture? scopeGroup).map fun keyword =>
      .parse ((Comment.strip dialect raw).slice keyword)).getD form.2 := by
  obtain ⟨w, hw, h', hscope⟩ := exists_mem_assignedIn_of_mem_findAll file h.form_mem h.found_mem
  obtain rfl := h.eq h' hv hw
  exact hscope

theorem scope_of_capture_none (h : v.DeclaredBy dialect raw form found)
    (hv : v ∈ assignedIn file dialect raw) (hscope : found.capture? scopeGroup = none) :
    v.scope = .vars := by
  rw [h.scope_eq hv, hscope, Option.map_none, Option.getD_none, h.eq_paramTag hscope]

/-- A captured scope is kept unless its keyword has a case variant outside of ASCII. -/
theorem exists_scope_of_capture (h : v.DeclaredBy dialect raw form found)
    (hv : v ∈ assignedIn file dialect raw) (hscope : found.capture? scopeGroup = some range) :
    ∃ scope ∈ assignedScopes, scope.IsNamedBy ((Comment.strip dialect raw).slice range) ∧
      v.scope = if 'ſ' ∈ (Comment.strip dialect raw).slice range ∨
        '\u212A' ∈ (Comment.strip dialect raw).slice range then .unknown else scope := by
  obtain ⟨scope, hmem, hnamed⟩ := exists_isNamedBy_of_capture h.form_mem h.found_mem hscope
  refine ⟨scope, hmem, hnamed, ?_⟩
  rw [h.scope_eq hv, hscope, Option.map_some, Option.getD_some, Scope.parse_of_isNamedBy hnamed]

end DeclaredBy

end Declared

theorem unknown_notMem_assignedScopes : Scope.unknown ∉ assignedScopes := by decide

/-! ### Main result -/

/-- **Assigned variables keep the scope that is written, unless its keyword leaves ASCII.** Every
match of a form declares one variable, and every variable that a document assigns comes from a
match. Where the match captures no scope, it is one of a parameter tag, and the variable is one of
`variables`. Where it captures one, what is captured is the keyword of exactly one scope, and this
is the scope of the variable, except that it is of no known scope if the keyword is written with a
long s or a Kelvin sign. -/
theorem scope_of_mem_assignedIn (file : FileId) (dialect : Dialect) (raw : Text) :
    let text := Comment.strip dialect raw
    (∀ form ∈ assignmentForms dialect, ∀ found ∈ form.1.findAll text,
      ∃! v, v ∈ assignedIn file dialect raw ∧ v.DeclaredBy dialect raw form found) ∧
    ∀ v ∈ assignedIn file dialect raw,
      (∃ form found, v.DeclaredBy dialect raw form found) ∧
      (∀ form found, v.DeclaredBy dialect raw form found →
        (found.capture? scopeGroup = none → form = (paramTag, .vars) ∧ v.scope = .vars) ∧
        ∀ range, found.capture? scopeGroup = some range →
          ∃ scope ∈ assignedScopes, scope.IsNamedBy (text.slice range) ∧
            (∀ other : Scope, other.IsNamedBy (text.slice range) → other = scope) ∧
            v.scope = if 'ſ' ∈ text.slice range ∨ '\u212A' ∈ text.slice range then .unknown
              else scope) ∧
      (v.scope = .unknown ↔ ∃ form found range, v.DeclaredBy dialect raw form found ∧
        found.capture? scopeGroup = some range ∧
        ('ſ' ∈ text.slice range ∨ '\u212A' ∈ text.slice range)) := by
  intro text
  refine ⟨fun form hform found hfound => ?_, fun v hv => ⟨exists_declaredBy hv,
    fun form found h => ⟨fun hscope => ?_, fun range hscope => ?_⟩, ?_, ?_⟩⟩
  · obtain ⟨v, hv, h, -⟩ := exists_mem_assignedIn_of_mem_findAll file hform hfound
    exact ⟨v, ⟨hv, h⟩, fun w ⟨hw, h'⟩ => h'.eq h hw hv⟩
  · exact ⟨h.eq_paramTag hscope, h.scope_of_capture_none hv hscope⟩
  · obtain ⟨scope, hmem, hnamed, hkept⟩ := h.exists_scope_of_capture hv hscope
    exact ⟨scope, hmem, hnamed, fun other hother => hnamed.eq hother, hkept⟩
  · intro hunknown
    obtain ⟨form, found, h⟩ := exists_declaredBy hv
    cases hscope : found.capture? scopeGroup with
    | none =>
      rw [h.scope_of_capture_none hv hscope] at hunknown
      contradiction
    | some range =>
      obtain ⟨scope, hmem, -, hkept⟩ := h.exists_scope_of_capture hv hscope
      refine ⟨form, found, range, h, hscope, ?_⟩
      -- a scope that is kept is one of those whose assignments are found, and `unknown` is not
      by_contra hplain
      rw [hkept, if_neg hplain] at hunknown
      exact unknown_notMem_assignedScopes (hunknown ▸ hmem)
  · rintro ⟨form, found, range, h, hscope, hvariant⟩
    obtain ⟨scope, -, -, hkept⟩ := h.exists_scope_of_capture hv hscope
    rw [hkept, if_pos hvariant]

/-- The keyword of `this` with a long s: the assignment is found, but not its scope. -/
theorem scope_of_mem_assignedIn_long_s :
    let raw := "SERVER.boot = 1;\nthiſ.x = 1;".toList
    let keyword := (Comment.strip .script raw).slice ⟨17, 22⟩
    let x : Variable := ⟨"x".toList, .unknown, ⟨⟨0⟩, ⟨⟨1, 5⟩, ⟨1, 6⟩⟩⟩⟩
    let found : Match := ⟨16, ⟨some ' ', 27, "1;".toList⟩,
      [⟨nameGroup, ⟨23, 24⟩⟩, ⟨scopeGroup, ⟨17, 22⟩⟩]⟩
    x ∈ assignedIn ⟨0⟩ .script raw ∧
      x.DeclaredBy .script raw (scopedAssignment, .unknown) found ∧ keyword = "thiſ".toList ∧
      Scope.this ∈ assignedScopes ∧ Scope.this.IsNamedBy keyword ∧
      (∀ other : Scope, other.IsNamedBy keyword → other = .this) ∧
      x.scope = if 'ſ' ∈ keyword ∨ '\u212A' ∈ keyword then .unknown else .this := by
  intro raw keyword x found
  have hx : x ∈ assignedIn ⟨0⟩ .script raw := by decide +kernel
  have hdeclared : x.DeclaredBy .script raw (scopedAssignment, .unknown) found :=
    ⟨List.mem_cons_self, by decide +kernel, ⟨23, 24⟩, by decide +kernel, by decide +kernel,
      by decide +kernel⟩
  have hscope : found.capture? scopeGroup = some ⟨17, 22⟩ := by decide +kernel
  have hthis : Scope.this.IsNamedBy keyword := by decide +kernel
  obtain ⟨-, hmatch, -⟩ := (scope_of_mem_assignedIn ⟨0⟩ .script raw).2 x hx
  obtain ⟨scope, hmem, hnamed, honly, hkept⟩ := (hmatch _ found hdeclared).2 ⟨17, 22⟩ hscope
  obtain rfl := honly .this hthis
  exact ⟨hx, hdeclared, by decide +kernel, hmem, hnamed, honly, hkept⟩

end Variable

end CfmlNav
