import CfmlNav.Proofs.Comment.Blanking
import CfmlNav.Proofs.Variable.Order

/-!
# Declarations in the document as it is written

Variables are found in the document with its comments blanked out, where byte offsets differ from
those of the document as it is written, and local variables in a part of it only. Positions are not
affected: where the blanked text shows an identifier, nothing is blanked, so the document has the
same identifier behind equally many characters and outside of all comments
(`StandsBetween.exists_of_strip`). Hence the range of a declaration cuts the identifier out of the
document itself (`source_of_declared`).
-/

namespace CfmlNav

open Text Pattern Character

/-! ### Identifiers outside of comments -/

theorem Pattern.ne_blank_of_isNamePart {c : Char} (hc : isNamePart c = true) :
    c ≠ ' ' ∧ c ≠ '\n' ∧ c ≠ '\r' := by
  have hspace := Assignment.isSpace_of_isNamePart hc
  refine ⟨?_, ?_, ?_⟩ <;> rintro rfl <;> revert hspace <;> decide

namespace Comment

variable {dialect : Dialect} {raw lead part rest : Text}

/-- A part of a document, not empty, that no comment covers at a boundary is apart from all
comments, as a comment starts at a boundary. -/
theorem apart_of_not_covered (htext : raw = lead ++ (part ++ rest)) (hpart : part ≠ [])
    (h : ∀ front back, raw = front ++ back → lead.byteSize ≤ byteSize front →
      byteSize front < byteSize (lead ++ part) →
        covered (findAll dialect raw) (byteSize front) = false) :
    ∀ comment ∈ findAll dialect raw,
      comment.range.stop ≤ lead.byteSize ∨ byteSize (lead ++ part) ≤ comment.range.start := by
  intro comment hcomment
  obtain ⟨front, inner, back, hraw, hne, hrange⟩ := exists_part_of_mem_findAll hcomment
  have hinner : inner.byteSize ≠ 0 := mt byteSize_eq_zero_iff.mp hne
  have hsize : part.byteSize ≠ 0 := mt byteSize_eq_zero_iff.mp hpart
  rw [hrange]
  by_contra hoverlap
  simp only [byteSize_append] at hoverlap
  -- the later of the two starts is a boundary that both the comment and the part cover
  rcases Nat.le_total front.byteSize lead.byteSize with hle | hle
  · have hcovered : covered (findAll dialect raw) lead.byteSize = true :=
      covered_iff.mpr ⟨comment, hcomment, by rw [hrange]; simp only [byteSize_append]; omega⟩
    have hfree := h lead (part ++ rest) htext (Nat.le_refl _) (by rw [byteSize_append]; omega)
    rw [hfree] at hcovered
    contradiction
  · have hcovered : covered (findAll dialect raw) front.byteSize = true :=
      covered_iff.mpr ⟨comment, hcomment, by rw [hrange]; simp only [byteSize_append]; omega⟩
    have hfree := h front (inner ++ back) hraw hle (by rw [byteSize_append]; omega)
    rw [hfree] at hcovered
    contradiction

end Comment

namespace Variable

/-- Where the blanked text shows a variable, the document has it too, at the same position and
outside of all comments. -/
theorem StandsBetween.exists_of_strip {v : Variable} {dialect : Dialect} {raw lead rest : Text}
    (h : v.StandsBetween (Comment.strip dialect raw) lead rest) (hne : v.identifier ≠ [])
    (hparts : ∀ c ∈ v.identifier, isNamePart c = true) :
    ∃ lead' rest', v.StandsBetween raw lead' rest' ∧ ∀ comment ∈ Comment.findAll dialect raw,
      comment.range.stop ≤ lead'.byteSize ∨
        byteSize (lead' ++ v.identifier) ≤ comment.range.start := by
  have hpaint := (Comment.strip_eq_paint dialect raw).symm.trans h.text_eq
  obtain ⟨lead', behind, hraw, hlength, -, hbehind⟩ := exists_parts_of_paint hpaint
  obtain ⟨part, rest', rfl, -, hpart, -⟩ := exists_parts_of_paint hbehind
  -- an identifier shows no blanks, so none of its characters has been painted
  obtain ⟨rfl, hfree⟩ := eq_of_paint_eq hpart fun c hc => ne_blank_of_isNamePart (hparts c hc)
  have hlayout := Comment.sameLayout_strip dialect raw
  refine ⟨lead', rest', ⟨hraw, ?_⟩, ?_⟩
  · have hstart := hlayout.positionAt_boundary_eq hraw h.text_eq hlength.symm
    have hraw' : raw = (lead' ++ v.identifier) ++ rest' := by simpa using hraw
    have htext' : Comment.strip dialect raw = (lead ++ v.identifier) ++ rest := by
      simpa using h.text_eq
    have hstop := hlayout.positionAt_boundary_eq hraw' htext' (by simp [hlength])
    rw [byteSize_append, byteSize_append] at hstop
    rw [h.range_eq, spanAt, spanAt, hstart, hstop]
  · refine Comment.apart_of_not_covered hraw hne ?_
    intro front back hfront hlow hhigh
    obtain ⟨between, rfl, hsame⟩ := exists_append_of_byteSize_le (hraw.symm.trans hfront) hlow
    have hinside : between.byteSize < v.identifier.byteSize := by
      simpa using hhigh
    obtain ⟨tail, hidentifier, -⟩ := exists_append_of_byteSize_le hsame.symm (Nat.le_of_lt hinside)
    rcases tail with _ | ⟨c, tail⟩
    · rw [hidentifier, List.append_nil] at hinside
      exact absurd hinside (Nat.lt_irrefl _)
    · have hcovered := hfree between c tail hidentifier
      rwa [Nat.zero_add, ← byteSize_append] at hcovered

/-! ### Main result -/

/-- A variable whose declaration shows where it is written in a document: from the one end of the
range to the other there is its identifier, which is not empty and apart from all comments. -/
structure IsWrittenIn (v : Variable) (dialect : Dialect) (raw : Text) : Prop where
  identifier_ne_nil : v.identifier ≠ []
  slice?_eq : raw.slice? ⟨raw.offsetAt v.declaration.range.start,
    raw.offsetAt v.declaration.range.stop⟩ = some v.identifier
  isCode : ∀ comment ∈ Comment.findAll dialect raw,
    comment.range.stop ≤ raw.offsetAt v.declaration.range.start ∨
      raw.offsetAt v.declaration.range.stop ≤ comment.range.start

theorem StandsBetween.isWrittenIn {v : Variable} {dialect : Dialect} {raw lead rest : Text}
    (h : v.StandsBetween (Comment.strip dialect raw) lead rest) (hne : v.identifier ≠ [])
    (hparts : ∀ c ∈ v.identifier, isNamePart c = true) : v.IsWrittenIn dialect raw := by
  obtain ⟨lead', rest', hstands, hcomments⟩ := h.exists_of_strip hne hparts
  refine ⟨hne, ?_, ?_⟩
  · rw [hstands.offsetAt_start, hstands.offsetAt_stop, hstands.text_eq, byteSize_append,
      ← List.append_assoc, slice?_boundaries]
  · rw [hstands.offsetAt_start, hstands.offsetAt_stop]
    exact hcomments

/-- A variable that a form finds in a part of the blanked text is written in the document, between
the ends of the part. -/
theorem isWrittenIn_of_mem_collect {v : Variable} {file : FileId} {dialect : Dialect}
    {raw front part back : Text} {form : Pattern} {scope : Scope}
    (hform : form.parts nameGroup = [Pattern.identifier])
    (htext : Comment.strip dialect raw = front ++ (part ++ back))
    (h : v ∈ collect file (Comment.strip dialect raw) front.byteSize part form scope) :
    v.declaration.file = file ∧ v.IsWrittenIn dialect raw ∧ part ≠ [] ∧
      front.byteSize ≤ (Comment.strip dialect raw).offsetAt v.declaration.range.start ∧
      (Comment.strip dialect raw).offsetAt v.declaration.range.stop ≤ byteSize (front ++ part) := by
  obtain ⟨hfile, hne, hparts, lead, rest, rfl, hstands⟩ :=
    exists_standsBetween_of_mem_collect hform htext h
  refine ⟨hfile, hstands.isWrittenIn hne hparts, by simp [hne], ?_, ?_⟩
  · rw [hstands.offsetAt_start, byteSize_append]
    exact Nat.le_add_right _ _
  · rw [hstands.offsetAt_stop]
    simp only [byteSize_append]
    omega

/-- **Declarations show where their variables are written.** Every variable that a document assigns
and every variable that the body of a function declares has a range that cuts its identifier out of
the document, apart from all comments; those of a body lie between the ends of the body. Both lists
are strictly increasing, so nothing is declared twice. -/
theorem source_of_declared (file : FileId) (dialect : Dialect) (raw : Text) :
    (∀ v ∈ assignedIn file dialect raw, v.declaration.file = file ∧ v.IsWrittenIn dialect raw) ∧
    (assignedIn file dialect raw).Pairwise
      (fun v w => v.declaration.range.start < w.declaration.range.start) ∧
    ∀ (component : Option Component) (position : Position) (body : Span),
      let context := Context.build file dialect component raw position
      (∀ v ∈ localsIn context (some body), v.declaration.file = file ∧ v.IsWrittenIn dialect raw ∧
        raw.offsetAt body.start ≤ raw.offsetAt v.declaration.range.start ∧
        raw.offsetAt v.declaration.range.stop ≤ raw.offsetAt body.stop) ∧
      (localsIn context (some body)).Pairwise
        fun v w => v.declaration.range.start < w.declaration.range.start := by
  refine ⟨?_, pairwise_assignedIn file dialect raw, ?_⟩
  · intro v hv
    have htext : Comment.strip dialect raw = [] ++ (Comment.strip dialect raw ++ []) := by simp
    rcases mem_assignedIn.mp hv with hscoped | hbracket | ⟨-, hparam⟩
    · obtain ⟨hfile, hwritten, -⟩ := isWrittenIn_of_mem_collect rfl htext hscoped
      exact ⟨hfile, hwritten⟩
    · obtain ⟨hfile, hwritten, -⟩ := isWrittenIn_of_mem_collect rfl htext hbracket
      exact ⟨hfile, hwritten⟩
    · obtain ⟨hfile, hwritten, -⟩ := isWrittenIn_of_mem_collect rfl htext hparam
      exact ⟨hfile, hwritten⟩
  · intro component position body context
    refine ⟨?_, pairwise_localsIn context body⟩
    intro v hv
    have hlayout := Comment.sameLayout_strip dialect raw
    obtain ⟨front, back, htext, hstart, hstop⟩ :=
      exists_bounds_of_body (Comment.strip dialect raw) body
    have hfound : v.declaration.file = file ∧ v.IsWrittenIn dialect raw ∧
        (Comment.strip dialect raw).slice (bodyBytes (Comment.strip dialect raw) body) ≠ [] ∧
        front.byteSize ≤ (Comment.strip dialect raw).offsetAt v.declaration.range.start ∧
        (Comment.strip dialect raw).offsetAt v.declaration.range.stop ≤ byteSize (front ++
          (Comment.strip dialect raw).slice (bodyBytes (Comment.strip dialect raw) body)) := by
      rcases mem_localsIn.mp hv with hvar | hlocal
      · exact isWrittenIn_of_mem_collect rfl htext (hstart ▸ hvar)
      · exact isWrittenIn_of_mem_collect rfl htext (hstart ▸ hlocal)
    obtain ⟨hfile, hwritten, hne, hlow, hhigh⟩ := hfound
    refine ⟨hfile, hwritten, ?_, ?_⟩
    · exact (hlayout.offsetAt_le_iff _ _).mpr (hstart.trans_le hlow)
    · exact (hlayout.offsetAt_le_iff _ _).mpr (hhigh.trans_eq (hstop hne).symm)

/-- Behind comments with characters of several bytes, where the offsets of the blanked text are not
those of the document. -/
theorem source_of_declared_behind_comments :
    let raw := "/*é*/ url.a = 1; var b /*€*/ = 2".toList
    let context := Context.build ⟨0⟩ .script none raw .origin
    let a : Variable := ⟨"a".toList, .url, ⟨⟨0⟩, ⟨⟨0, 10⟩, ⟨0, 11⟩⟩⟩⟩
    let b : Variable := ⟨"b".toList, .locals, ⟨⟨0⟩, ⟨⟨0, 21⟩, ⟨0, 22⟩⟩⟩⟩
    (a ∈ assignedIn ⟨0⟩ .script raw ∧ a.IsWrittenIn .script raw) ∧
      b ∈ localsIn context (some ⟨⟨0, 16⟩, ⟨7, 0⟩⟩) ∧ b.IsWrittenIn .script raw := by
  intro raw context a b
  have ha : a ∈ assignedIn ⟨0⟩ .script raw := by decide +kernel
  have hb : b ∈ localsIn context (some ⟨⟨0, 16⟩, ⟨7, 0⟩⟩) := by decide +kernel
  obtain ⟨hassigned, -, hlocals⟩ := source_of_declared ⟨0⟩ .script raw
  exact ⟨⟨ha, (hassigned a ha).2⟩, hb, ((hlocals none .origin ⟨⟨0, 16⟩, ⟨7, 0⟩⟩).1 b hb).2.1⟩

end Variable

end CfmlNav
