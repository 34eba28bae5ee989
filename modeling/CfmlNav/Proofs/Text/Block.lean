import CfmlNav.Text.Basic

/-!
# Blocks of characters

A block is a part of a text whose characters all belong to one class. Where a text starts with a
block and goes on with a character outside the class, or ends, there is only one way to cut the
block off (`append_inj_of_block`), and the same from the other end (`append_inj_of_block_right`).
So a place that is recognised by a character outside the class lies behind the block
(`exists_behind_block`); one that is recognised by a pair of characters, the second outside the
class, lies behind the block or at its end (`behind_or_at_end_of_block`).
-/

namespace CfmlNav.Text

variable {p : Char → Bool} {block block' rest rest' front front' : Text}

theorem append_inj_of_block (h : block ++ rest = block' ++ rest')
    (hblock : ∀ c ∈ block, p c = true) (hblock' : ∀ c ∈ block', p c = true)
    (hrest : ∀ c ∈ rest.head?, p c = false) (hrest' : ∀ c ∈ rest'.head?, p c = false) :
    block = block' ∧ rest = rest' := by
  induction block generalizing block' with
  | nil =>
    rcases block' with _ | ⟨c, block'⟩
    · exact ⟨rfl, h⟩
    · rw [List.nil_append] at h
      have hc := hrest c (by rw [h]; rfl)
      rw [hblock' c List.mem_cons_self] at hc
      simp at hc
  | cons c block ih =>
    rcases block' with _ | ⟨d, block'⟩
    · rw [List.nil_append] at h
      have hc := hrest' c (by rw [← h]; rfl)
      rw [hblock c List.mem_cons_self] at hc
      simp at hc
    · rw [List.cons_append, List.cons_append, List.cons.injEq] at h
      rw [List.forall_mem_cons] at hblock hblock'
      obtain ⟨rfl, hsame⟩ := h
      obtain ⟨rfl, rfl⟩ := ih hsame hblock.2 hblock'.2
      exact ⟨rfl, rfl⟩

theorem append_inj_of_block_right (h : front ++ block = front' ++ block')
    (hblock : ∀ c ∈ block, p c = true) (hblock' : ∀ c ∈ block', p c = true)
    (hfront : ∀ c ∈ front.getLast?, p c = false) (hfront' : ∀ c ∈ front'.getLast?, p c = false) :
    front = front' ∧ block = block' := by
  have hreverse : block.reverse ++ front.reverse = block'.reverse ++ front'.reverse := by
    rw [← List.reverse_append, ← List.reverse_append, h]
  obtain ⟨hsame, hsame'⟩ := append_inj_of_block hreverse (by simpa using hblock)
    (by simpa using hblock') (by simpa using hfront) (by simpa using hfront')
  exact ⟨List.reverse_inj.mp hsame', List.reverse_inj.mp hsame⟩

/-- A place before a character outside the class lies behind the block. -/
theorem exists_behind_block {c : Char} (h : block ++ rest = front ++ c :: rest')
    (hblock : ∀ c ∈ block, p c = true) (hc : p c = false) :
    ∃ between, front = block ++ between ∧ rest = between ++ c :: rest' := by
  rcases List.append_eq_append_iff.mp h with ⟨between, hfront, hrest⟩ | ⟨tail, hsplit, hrest⟩
  · exact ⟨between, hfront, hrest⟩
  · rcases tail with _ | ⟨d, tail⟩
    · exact ⟨[], by simpa using hsplit.symm, by simpa using hrest.symm⟩
    · obtain ⟨rfl, -⟩ := List.cons.inj hrest
      have hin := hblock c (by rw [hsplit]; simp)
      rw [hc] at hin
      simp at hin

/-- A place before two characters, the second outside the class, lies behind the block, or its
first character ends the block. -/
theorem behind_or_at_end_of_block {c d : Char} (h : block ++ rest = front ++ c :: d :: rest')
    (hblock : ∀ c ∈ block, p c = true) (hd : p d = false) :
    (∃ between, front = block ++ between ∧ rest = between ++ c :: d :: rest') ∨
      block = front ++ [c] ∧ rest = d :: rest' := by
  have hsplit : block ++ rest = (front ++ [c]) ++ d :: rest' := by simpa using h
  obtain ⟨between, hfront, hrest⟩ := exists_behind_block hsplit hblock hd
  rcases List.eq_nil_or_concat between with rfl | ⟨init, e, rfl⟩
  · exact Or.inr ⟨by simpa using hfront.symm, hrest⟩
  · rw [List.concat_eq_append, ← List.append_assoc] at hfront
    obtain ⟨hinit, he⟩ := List.append_inj' hfront rfl
    obtain rfl : c = e := by simpa using he
    exact Or.inl ⟨init, hinit, by simpa using hrest⟩

/-! ### Blocks that keep two classes apart -/

section Apart

variable {q : Char → Bool} {c : Char} (hq : ∀ {c}, q c = true → p c = false)

include hq

/-- A block of characters outside a class, and one more such character behind it, start with one. -/
theorem exists_cons_of_block (hblock : ∀ d ∈ block, q d = true) (hc : p c = false) :
    ∃ d tail, block ++ c :: rest = d :: tail ∧ p d = false := by
  rcases block with _ | ⟨d, block⟩
  · exact ⟨c, rest, rfl, hc⟩
  · exact ⟨d, block ++ c :: rest, rfl, hq (hblock d List.mem_cons_self)⟩

/-- A block of characters outside a class, and one more such character before it, end with one. -/
theorem exists_concat_of_block (hblock : ∀ d ∈ block, q d = true) (hc : p c = false) :
    ∃ init d, c :: block = init ++ [d] ∧ p d = false := by
  rcases List.eq_nil_or_concat block with rfl | ⟨init, d, rfl⟩
  · exact ⟨[], c, rfl, hc⟩
  · exact ⟨c :: init, d, by simp, hq (hblock d (by simp))⟩

end Apart

end CfmlNav.Text
