import CfmlNav.Context
import CfmlNav.Proofs.Comment.Extent
import Mathlib.Data.List.Pairwise

/-!
# The cursor and the comments

Whether a cursor is in a comment is decided by comparing its byte offset with the ends of the
comments that the lexer has found. What the answer means is said in terms of the text alone: a
comment is open at an offset if the text before the offset starts the comment and does not end it,
where a block or markup comment is ended by the delimiter that closes it and a line comment by the
end of its line. The two agree (`inComment_build_iff`) but for one place: the end of a document
whose last comment is never closed. There the comment ends with the document, so it is taken for a
comment that has been closed, although whatever is written there becomes a part of it.
-/

namespace CfmlNav

open Text

namespace Comment

/-! ### Open and closed comments -/

/-- Whether a comment of a text is closed by a delimiter that ends at an offset. -/
def IsClosedAt (comment : Comment) (text : Text) (stop : Nat) : Prop :=
  ∃ front part back, text = front ++ (part ++ back) ∧ front.byteSize = comment.range.start ∧
    byteSize (front ++ part) = stop ∧ comment.kind.Closes part

/-- Whether a block or markup comment of a text is closed nowhere. -/
def IsNeverClosed (comment : Comment) (text : Text) : Prop :=
  comment.kind ≠ .line ∧ ∀ stop, ¬ comment.IsClosedAt text stop

/-- Whether the text before an offset leaves a comment open: a line comment up to the end of its
line, any other comment as long as it has not been closed. -/
def IsOpenAt (comment : Comment) (text : Text) (offset : Nat) : Prop :=
  comment.range.start < offset ∧
    match comment.kind with
    | .line => offset ≤ comment.range.stop
    | .block | .tag => ∀ stop ≤ offset, ¬ comment.IsClosedAt text stop

section Found

variable {dialect : Dialect} {text : Text} {comment other : Comment} {offset : Nat}

theorem start_lt_stop (h : comment ∈ findAll dialect text) :
    comment.range.start < comment.range.stop := by
  obtain ⟨front, part, back, -, hpart, hrange⟩ := exists_part_of_mem_findAll h
  have hsize : part.byteSize ≠ 0 := mt byteSize_eq_zero_iff.mp hpart
  rw [hrange, byteSize_append]
  simp only
  omega

theorem stop_le_byteSize (h : comment ∈ findAll dialect text) :
    comment.range.stop ≤ text.byteSize := by
  obtain ⟨front, part, back, rfl, -, hrange⟩ := exists_part_of_mem_findAll h
  rw [hrange]
  simp only [byteSize_append]
  omega

/-- Of two comments of a text, one lies before the other. -/
theorem disjoint_of_mem_findAll (h : comment ∈ findAll dialect text)
    (hother : other ∈ findAll dialect text) (hne : comment ≠ other) :
    comment.range.stop ≤ other.range.start ∨ other.range.stop ≤ comment.range.start := by
  have hordered : (findAll dialect text).Pairwise fun a b : Comment =>
      a.range.stop ≤ b.range.start ∨ b.range.stop ≤ a.range.start :=
    (inOrder_readFrom dialect.startMode 0 text).imp Or.inl
  have : Std.Symm fun a b : Comment =>
      a.range.stop ≤ b.range.start ∨ b.range.stop ≤ a.range.start := ⟨fun _ _ => Or.symm⟩
  exact hordered.forall h hother hne

/-- A comment that is found ends where it is closed first, or with the text if it is never
closed. -/
theorem isClosedAt_stop_or_isNeverClosed (h : comment ∈ findAll dialect text)
    (hkind : comment.kind ≠ .line) :
    (comment.IsClosedAt text comment.range.stop ∧
        ∀ stop, comment.IsClosedAt text stop → comment.range.stop ≤ stop) ∨
      comment.IsNeverClosed text ∧ comment.range.stop = text.byteSize := by
  obtain ⟨front, part, behind, htext, hrange, hdelimited⟩ := exists_delimited_of_mem_findAll h
  obtain ⟨kind, range⟩ := comment
  subst hrange
  -- wherever the comment is closed, it is so by a start of what follows its own start
  have hstart {stop : Nat}
      (hclosed : IsClosedAt ⟨kind, ⟨front.byteSize, byteSize (front ++ part)⟩⟩ text stop) :
      ∃ taken, taken <+: part ++ behind ∧ byteSize (front ++ taken) = stop ∧
        kind.Closes taken := by
    obtain ⟨front', taken, back, htext', hfront, hstop, hcloses⟩ := hclosed
    obtain ⟨rfl, hrest⟩ := append_inj_of_byteSize (htext'.symm.trans htext) hfront
    exact ⟨taken, ⟨back, hrest⟩, hstop, hcloses⟩
  cases hdelimited with
  | line hbody hbehind => exact absurd rfl hkind
  | closed hcloses hfirst =>
    refine Or.inl ⟨⟨front, part, behind, htext, rfl, rfl, hcloses⟩, fun stop hclosed => ?_⟩
    obtain ⟨taken, htaken, rfl, htakenCloses⟩ := hstart hclosed
    obtain ⟨tail, rfl⟩ := hfirst taken htaken htakenCloses
    simp only [byteSize_append]
    omega
  | unclosed _ hopening hnever =>
    rw [List.append_nil] at htext
    refine Or.inr ⟨⟨hkind, fun stop hclosed => ?_⟩, by rw [htext]⟩
    obtain ⟨taken, htaken, -, htakenCloses⟩ := hstart hclosed
    rw [List.append_nil] at htaken
    exact hnever taken htaken htakenCloses

theorem stop_of_isNeverClosed (h : comment ∈ findAll dialect text)
    (hnever : comment.IsNeverClosed text) : comment.range.stop = text.byteSize := by
  rcases isClosedAt_stop_or_isNeverClosed h hnever.1 with ⟨hclosed, -⟩ | ⟨-, hstop⟩
  · exact absurd hclosed (hnever.2 _)
  · exact hstop

/-! ### The verdict on one comment -/

theorem contains_iff (h : comment ∈ findAll dialect text) :
    comment.contains offset = true ↔ comment.range.start ≤ offset ∧
      (offset < comment.range.stop ∨ comment.kind = .line ∧ offset = comment.range.stop) := by
  have hlt := start_lt_stop h
  simp only [contains, Bool.or_eq_true, decide_eq_true_eq, Bool.and_eq_true, beq_iff_eq]
  by_cases hkind : comment.kind = .line
  · simp only [hkind, true_and]
    omega
  · simp only [hkind, false_and, or_false]

theorem isOpenAt_iff_of_line (hkind : comment.kind = .line) :
    comment.IsOpenAt text offset ↔ comment.range.start < offset ∧ offset ≤ comment.range.stop := by
  rw [IsOpenAt, hkind]

theorem isOpenAt_iff_of_ne_line (hkind : comment.kind ≠ .line) :
    comment.IsOpenAt text offset ↔
      comment.range.start < offset ∧ ∀ stop ≤ offset, ¬ comment.IsClosedAt text stop := by
  rw [IsOpenAt]
  cases hcase : comment.kind with
  | line => exact absurd hcase hkind
  | block => exact Iff.rfl
  | tag => exact Iff.rfl

/-- A comment contains an offset if it starts or is open there, unless the offset is the end of the
text and the comment is never closed. -/
theorem contains_iff_isOpenAt (h : comment ∈ findAll dialect text)
    (hoffset : offset ≤ text.byteSize) :
    comment.contains offset = true ↔
      (offset = comment.range.start ∨ comment.IsOpenAt text offset) ∧
        ¬ (offset = text.byteSize ∧ comment.IsNeverClosed text) := by
  have hlt := start_lt_stop h
  have hle := stop_le_byteSize h
  rw [contains_iff h]
  by_cases hkind : comment.kind = .line
  · have hclosed : ¬ comment.IsNeverClosed text := fun hnever => hnever.1 hkind
    rw [isOpenAt_iff_of_line hkind]
    simp only [hkind, hclosed, true_and, and_false, not_false_eq_true, and_true]
    omega
  · rw [isOpenAt_iff_of_ne_line hkind]
    rcases isClosedAt_stop_or_isNeverClosed h hkind with ⟨hstop, hleast⟩ | ⟨hnever, hstop⟩
    · have hclosed : ¬ comment.IsNeverClosed text := fun hnever => hnever.2 _ hstop
      have hopen : (∀ stop ≤ offset, ¬ comment.IsClosedAt text stop) ↔
          offset < comment.range.stop := by
        constructor
        · intro hnone
          by_contra hge
          exact hnone _ (by omega) hstop
        · intro hbefore stop hstop' hclosedAt
          have := hleast stop hclosedAt
          omega
      simp only [hkind, hclosed, hopen, false_and, or_false, and_false, not_false_eq_true, and_true]
      omega
    · simp only [hkind, hnever, hnever.2, not_false_eq_true, implies_true, false_and, or_false,
        and_true]
      omega

/-- At the end of a text whose last comment is never closed, no comment contains the offset. -/
theorem not_contains_end_of_isNeverClosed (h : comment ∈ findAll dialect text)
    (hother : other ∈ findAll dialect text) (hnever : other.IsNeverClosed text) :
    ¬ comment.contains text.byteSize = true := by
  have hlt := start_lt_stop h
  have hlt' := start_lt_stop hother
  have hle := stop_le_byteSize h
  have hstop := stop_of_isNeverClosed hother hnever
  rw [contains_iff h]
  rintro ⟨-, hbefore | ⟨hkind, hend⟩⟩
  · omega
  · have hne : comment ≠ other := fun heq => hnever.1 (heq ▸ hkind)
    have hdisjoint := disjoint_of_mem_findAll h hother hne
    omega

end Found

end Comment

/-! ### Main result -/

namespace Context

/-- **A cursor is in a comment where the text before it leaves one open.** For every document and
position, the cursor is in a comment if and only if a comment starts there or is open there, except
at the end of a document whose last comment is never closed: there it is in none. -/
theorem inComment_build_iff (file : FileId) (dialect : Dialect) (component : Option Component)
    (raw : Text) (position : Position) :
    (build file dialect component raw position).inComment = true ↔
      (∃ comment ∈ Comment.findAll dialect raw,
          raw.offsetAt position = comment.range.start ∨
            comment.IsOpenAt raw (raw.offsetAt position)) ∧
        ¬ (raw.offsetAt position = raw.byteSize ∧
          ∃ comment ∈ Comment.findAll dialect raw, comment.IsNeverClosed raw) := by
  have hoffset : raw.offsetAt position ≤ raw.byteSize := by
    obtain ⟨front, back, htext, hfront⟩ := exists_boundary_offsetAt raw position
    rw [hfront, htext, byteSize_append]
    exact Nat.le_add_right _ _
  have hverdict : (build file dialect component raw position).inComment = true ↔
      ∃ comment ∈ Comment.findAll dialect raw,
        comment.contains (raw.offsetAt position) = true := List.any_eq_true
  rw [hverdict]
  constructor
  · rintro ⟨comment, hmem, hcontains⟩
    refine ⟨⟨comment, hmem, ((Comment.contains_iff_isOpenAt hmem hoffset).mp hcontains).1⟩, ?_⟩
    rintro ⟨hend, other, hother, hnever⟩
    rw [hend] at hcontains
    exact Comment.not_contains_end_of_isNeverClosed hmem hother hnever hcontains
  · rintro ⟨⟨comment, hmem, hopen⟩, hexception⟩
    refine ⟨comment, hmem, (Comment.contains_iff_isOpenAt hmem hoffset).mpr ⟨hopen, ?_⟩⟩
    rintro ⟨hend, hnever⟩
    exact hexception ⟨hend, comment, hmem, hnever⟩

/-- A line comment goes on where the document ends, a block comment that is open there does not. -/
example :
    (build ⟨0⟩ .script none "a //b".toList ⟨0, 5⟩).inComment = true ∧
    (build ⟨0⟩ .script none "a /*b".toList ⟨0, 5⟩).inComment = false ∧
    (build ⟨0⟩ .script none "a /*b\n".toList ⟨0, 5⟩).inComment = true := by
  decide

end Context

end CfmlNav
