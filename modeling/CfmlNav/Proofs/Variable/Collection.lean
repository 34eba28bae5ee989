import CfmlNav.Proofs.Variable.Form

/-!
# Where collected variables stand

A form is run on a part of a document, and the variables that it yields are placed in the whole
document. Such a variable stands where the form names an identifier
(`exists_match_of_mem_collect`), and every match that names one yields a variable
(`mem_collect`). The range of the declaration tells where that is (`StandsBetween.eq_of_range`).
-/

namespace CfmlNav

open Text Pattern

/-! ### Order of places -/

namespace Position

variable {α : Type} {place : α → Position} {x y : α} {ys : List α}

theorem mem_insertBy : x ∈ insertBy place y ys ↔ x = y ∨ x ∈ ys := by
  induction ys with
  | nil => simp [insertBy]
  | cons z ys ih =>
    rw [insertBy]
    split
    next => exact List.mem_cons
    next => rw [List.mem_cons, ih, List.mem_cons, or_left_comm]

@[simp] theorem mem_sortBy : x ∈ sortBy place ys ↔ x ∈ ys := by
  induction ys with
  | nil => rfl
  | cons y ys ih => rw [sortBy, mem_insertBy, ih, List.mem_cons]

end Position

namespace Variable

/-! ### Places -/

/-- The identifier of a variable stands between two parts of a text, and its declaration is the
span of it. -/
structure StandsBetween (v : Variable) (text lead rest : Text) : Prop where
  text_eq : text = lead ++ (v.identifier ++ rest)
  range_eq : v.declaration.range =
    text.spanAt ⟨lead.byteSize, lead.byteSize + v.identifier.byteSize⟩

namespace StandsBetween

variable {v : Variable} {text lead rest lead' rest' : Text}

theorem start_eq (h : v.StandsBetween text lead rest) :
    v.declaration.range.start = text.positionAt lead.byteSize := by
  rw [h.range_eq, spanAt]

theorem offsetAt_start (h : v.StandsBetween text lead rest) :
    text.offsetAt v.declaration.range.start = lead.byteSize := by
  rw [h.start_eq, h.text_eq, offsetAt_positionAt_boundary]

theorem offsetAt_stop (h : v.StandsBetween text lead rest) :
    text.offsetAt v.declaration.range.stop = byteSize (lead ++ v.identifier) := by
  have htext : text = (lead ++ v.identifier) ++ rest := by simpa using h.text_eq
  rw [h.range_eq, spanAt, ← byteSize_append, htext, offsetAt_positionAt_boundary]

/-- The range of a declaration tells where the variable stands. -/
theorem eq_of_range {part : Text} (h : v.StandsBetween text lead rest)
    (htext : text = lead' ++ (part ++ rest'))
    (hrange : v.declaration.range =
      text.spanAt ⟨lead'.byteSize, lead'.byteSize + part.byteSize⟩) :
    lead = lead' ∧ v.identifier = part ∧ rest = rest' := by
  have hstart : lead.byteSize = lead'.byteSize := by
    rw [← h.offsetAt_start, hrange, spanAt, htext, offsetAt_positionAt_boundary]
  obtain ⟨hlead, hbehind⟩ := append_inj_of_byteSize (h.text_eq.symm.trans htext) hstart
  have hstop : byteSize (lead ++ v.identifier) = byteSize (lead' ++ part) := by
    have htext' : text = (lead' ++ part) ++ rest' := by simpa using htext
    rw [← h.offsetAt_stop, hrange, spanAt, ← byteSize_append, htext', offsetAt_positionAt_boundary]
  rw [byteSize_append, byteSize_append, hstart, Nat.add_left_cancel_iff] at hstop
  exact ⟨hlead, append_inj_of_byteSize hbehind hstop⟩

end StandsBetween

/-! ### Collecting -/

section Collect

variable {v : Variable} {file : FileId} {text front part back : Text} {form : Pattern}
  {scope : Scope}

theorem mem_collect {base : Nat} : v ∈ collect file text base part form scope ↔
    ∃ found ∈ form.findAll part, ∃ range, found.capture? nameGroup = some range ∧
      v =
        { identifier := part.slice range
          scope := ((found.capture? scopeGroup).map fun keyword =>
            .parse (part.slice keyword)).getD scope
          declaration := ⟨file, text.spanAt ⟨base + range.start, base + range.stop⟩⟩ } := by
  simp only [collect, List.mem_filterMap, Option.map_eq_some_iff, @eq_comm _ v]

/-- A match that names an identifier reports its bytes under the name. -/
theorem Names.capture? {found : Match} {lead identifier rest : Text}
    (h : Names part found.captures lead identifier rest) :
    found.capture? nameGroup = some ⟨lead.byteSize, lead.byteSize + identifier.byteSize⟩ := by
  obtain ⟨others, hcaptures⟩ := h.captures_eq
  simp [Match.capture?, hcaptures]

theorem Names.slice_eq {captures : List Capture} {lead identifier rest : Text}
    (h : Names part captures lead identifier rest) :
    part.slice ⟨lead.byteSize, lead.byteSize + identifier.byteSize⟩ = identifier := by
  have hpart : part = lead ++ identifier ++ rest := by simpa using h.text_eq
  rw [hpart, slice_boundaries]

/-- A collected variable comes from a match of the form, and stands where the match names an
identifier. -/
theorem exists_match_of_mem_collect (htext : text = front ++ (part ++ back))
    (h : v ∈ collect file text front.byteSize part form scope) :
    ∃ found ∈ form.findAll part, ∃ first taken behind,
      form.StandsIn part found first taken behind ∧
      ∀ {lead identifier rest : Text}, Names part found.captures lead identifier rest →
        v.identifier = identifier ∧ v.StandsBetween text (front ++ lead) (rest ++ back) := by
  obtain ⟨found, hfound, range, hrange, rfl⟩ := mem_collect.mp h
  obtain ⟨first, taken, behind, hstands⟩ := standsIn_of_mem_findAll hfound
  refine ⟨found, hfound, first, taken, behind, hstands, ?_⟩
  intro lead identifier rest hnames
  obtain rfl := Option.some_inj.mp (hrange.symm.trans hnames.capture?)
  refine ⟨hnames.slice_eq, ?_, ?_⟩
  · rw [hnames.slice_eq, htext, hnames.text_eq]
    simp
  · rw [hnames.slice_eq, byteSize_append, Nat.add_assoc]

end Collect

/-! ### The two lists of variables -/

/-- The body of a function is a part of the text; if its ends are not in order it is empty. -/
theorem exists_bounds_of_body (text : Text) (body : Span) :
    ∃ front back, text = front ++ (text.slice (bodyBytes text body) ++ back) ∧
      (bodyBytes text body).start = front.byteSize ∧
      (text.slice (bodyBytes text body) ≠ [] →
        text.offsetAt body.stop = byteSize (front ++ text.slice (bodyBytes text body))) := by
  obtain ⟨front, behind, htext, hstart⟩ := exists_boundary_offsetAt text body.start
  obtain ⟨upTo, back, htext', hstop⟩ := exists_boundary_offsetAt text body.stop
  have hbytes : bodyBytes text body =
      ⟨front.byteSize, max upTo.byteSize front.byteSize⟩ := by
    rw [bodyBytes, hstart, hstop]
  rcases Nat.le_total front.byteSize upTo.byteSize with hle | hle
  · obtain ⟨part, rfl, rfl⟩ := exists_append_of_byteSize_le (htext.symm.trans htext') hle
    have hpart : text.slice (bodyBytes text body) = part := by
      rw [hbytes, Nat.max_eq_left hle, byteSize_append, htext', slice_boundaries]
    exact ⟨front, back, by rw [hpart]; exact htext, by rw [hbytes], fun _ => by rw [hpart, hstop]⟩
  · have hpart : text.slice (bodyBytes text body) = [] := by
      have hslice := slice_boundaries front [] behind
      rw [List.append_nil, byteSize_nil, Nat.add_zero, ← htext] at hslice
      rwa [hbytes, Nat.max_eq_right hle]
    exact ⟨front, behind, by rw [hpart]; exact htext, by rw [hbytes], fun hne => absurd hpart hne⟩

theorem exists_parts_of_body (text : Text) (body : Span) :
    ∃ front back, text = front ++ (text.slice (bodyBytes text body) ++ back) ∧
      (bodyBytes text body).start = front.byteSize := by
  obtain ⟨front, back, htext, hstart, -⟩ := exists_bounds_of_body text body
  exact ⟨front, back, htext, hstart⟩

variable {v : Variable}

theorem mem_assignedIn {file : FileId} {dialect : Dialect} {raw : Text} :
    v ∈ assignedIn file dialect raw ↔
      let text := Comment.strip dialect raw
      v ∈ collect file text 0 text (memberAssignment scopeKeyword) .unknown ∨
        v ∈ collect file text 0 text bracketAssignment .unknown ∨
          dialect.isScript = false ∧ v ∈ collect file text 0 text paramTag .vars := by
  cases hscript : dialect.isScript <;>
    simp [assignedIn, sort, scopedAssignment_eq, hscript]

theorem mem_localsIn {context : Context} {body : Span} :
    v ∈ localsIn context (some body) ↔
      let range := bodyBytes context.text body
      let part := context.text.slice range
      v ∈ collect context.file context.text range.start part varDeclaration .locals ∨
        v ∈ collect context.file context.text range.start part
          (memberAssignment (word "local".toList)) .locals := by
  simp [localsIn, sort, localAssignment_eq]

end Variable

end CfmlNav
