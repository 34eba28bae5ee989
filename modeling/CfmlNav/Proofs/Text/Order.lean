import CfmlNav.Proofs.Text.Boundary
import Mathlib.Data.List.Sort
import Mathlib.Order.Basic

/-!
# Positions in the order of a text

Positions are linearly ordered, by line first. Stepping over a character leads to a later position
(`Position.lt_after`), so the positions of a text come in the order of its boundaries
(`positionAt_lt_of_byteSize_lt`). Sorting by position puts entries of different positions in
strictly increasing order (`Position.pairwise_sortBy`). Two texts of the same layout order their
positions alike, whatever the byte offsets (`SameLayout.offsetAt_le_iff`).
-/

namespace CfmlNav

namespace Position

/-! ### The order -/

instance : LinearOrder Position where
  le_refl p := by
    rw [le_def]
    omega
  le_trans p q r := by
    simp only [le_def]
    omega
  le_antisymm p q hpq hqp := by
    rw [le_def] at hpq hqp
    have hline : p.line = q.line := by omega
    have hcolumn : p.column = q.column := by omega
    rcases p with ⟨line, column⟩
    rcases q with ⟨line', column'⟩
    rw [mk.injEq]
    exact ⟨hline, hcolumn⟩
  le_total p q := by
    simp only [le_def]
    omega
  lt_iff_le_not_ge p q := by
    simp only [le_def, lt_def]
    omega
  toDecidableLE := inferInstance

/-! ### Stepping over characters -/

theorem lt_after (p : Position) (c : Char) : p < p.after c := by
  rw [lt_def, after]
  split
  next => exact Or.inl (Nat.lt_succ_self _)
  next => exact Or.inr ⟨rfl, Nat.lt_succ_self _⟩

theorem le_afterAll (p : Position) (text : Text) : p ≤ p.afterAll text := by
  induction text generalizing p with
  | nil => exact le_refl p
  | cons c text ih => exact le_trans (le_of_lt (p.lt_after c)) (ih (p.after c))

theorem lt_afterAll (p : Position) {text : Text} (h : text ≠ []) : p < p.afterAll text := by
  obtain ⟨c, rest, rfl⟩ := List.exists_cons_of_ne_nil h
  exact lt_of_lt_of_le (p.lt_after c) (le_afterAll (p.after c) rest)

@[simp] theorem afterAll_append (p : Position) (front back : Text) :
    p.afterAll (front ++ back) = (p.afterAll front).afterAll back := by
  rw [afterAll, afterAll, afterAll, List.foldl_append]

/-! ### Sorting -/

variable {α : Type} {place : α → Position}

theorem insertBy_eq_orderedInsert (x : α) (ys : List α) :
    insertBy place x ys = ys.orderedInsert (fun a b => place a ≤ place b) x := by
  induction ys with
  | nil => rfl
  | cons y ys ih => rw [insertBy, List.orderedInsert_cons, ih]

theorem sortBy_eq_insertionSort (xs : List α) :
    sortBy place xs = xs.insertionSort fun a b => place a ≤ place b := by
  induction xs with
  | nil => rfl
  | cons x xs ih => rw [sortBy, insertBy_eq_orderedInsert, ih, List.insertionSort_cons]

/-- Entries of pairwise different places come in strictly increasing order. -/
theorem pairwise_sortBy {xs : List α} (h : xs.Pairwise fun x y => place x ≠ place y) :
    (sortBy place xs).Pairwise fun x y => place x < place y := by
  have hperm : (sortBy place xs).Perm xs := by
    rw [sortBy_eq_insertionSort]
    exact List.perm_insertionSort _ xs
  have hne : (sortBy place xs).Pairwise fun x y => place x ≠ place y :=
    hperm.symm.pairwise h fun hxy => hxy.symm
  have htrans : IsTrans α fun a b => place a ≤ place b := ⟨fun _ _ _ => le_trans⟩
  have htotal : Std.Total fun a b : α => place a ≤ place b := ⟨fun _ _ => le_total _ _⟩
  have hle : (sortBy place xs).Pairwise fun x y => place x ≤ place y := by
    rw [sortBy_eq_insertionSort]
    exact List.pairwise_insertionSort _ xs
  exact (hle.and hne).imp fun ⟨hxy, hxy'⟩ => lt_of_le_of_ne hxy hxy'

end Position

namespace Text

open Position

/-! ### Boundaries -/

/-- Of two boundaries of a text, the one with the smaller offset has the earlier position. -/
theorem positionAt_lt_of_byteSize_lt {text front back front' back' : Text}
    (h : text = front ++ back) (h' : text = front' ++ back')
    (hlt : front.byteSize < front'.byteSize) :
    text.positionAt front.byteSize < text.positionAt front'.byteSize := by
  obtain ⟨between, rfl, rfl⟩ := exists_append_of_byteSize_le (h.symm.trans h') (le_of_lt hlt)
  have hne : between ≠ [] := by
    rintro rfl
    simp at hlt
  have hposition : text.positionAt front.byteSize = origin.afterAll front := by
    rw [h, positionAt_boundary]
  have hposition' : text.positionAt (byteSize (front ++ between)) =
      origin.afterAll (front ++ between) := by
    rw [h', positionAt_boundary]
  rw [hposition, hposition', afterAll_append]
  exact lt_afterAll _ hne

theorem positionAt_le_of_byteSize_le {text front back front' back' : Text}
    (h : text = front ++ back) (h' : text = front' ++ back')
    (hle : front.byteSize ≤ front'.byteSize) :
    text.positionAt front.byteSize ≤ text.positionAt front'.byteSize := by
  rcases Nat.eq_or_lt_of_le hle with hsame | hlt
  · rw [hsame]
  · exact le_of_lt (positionAt_lt_of_byteSize_lt h h' hlt)

/-- The bytes before a character increase with the character. -/
theorem byteSize_take_le_iff {text : Text} {k l : Nat} (hk : k ≤ text.length) :
    byteSize (text.take k) ≤ byteSize (text.take l) ↔ k ≤ l := by
  have hmono {i j : Nat} (hij : i ≤ j) : text.take j = text.take i ++ (text.take j).drop i := by
    have hsplit := List.take_append_drop i (text.take j)
    rw [List.take_take, Nat.min_eq_left hij] at hsplit
    exact hsplit.symm
  constructor
  · intro hle
    by_contra hlt
    have hsplit := hmono (Nat.le_of_not_le hlt)
    have hsize := congrArg byteSize hsplit
    rw [byteSize_append] at hsize
    have hnil : (text.take k).drop l = [] := byteSize_eq_zero_iff.mp (by omega)
    have hlength := congrArg List.length hnil
    rw [List.length_drop, List.length_take, List.length_nil] at hlength
    omega
  · intro hle
    rw [hmono hle, byteSize_append]
    exact Nat.le_add_right _ _

/-- Two texts of the same layout order the offsets of positions alike. -/
theorem SameLayout.offsetAt_le_iff {text other : Text} (h : SameLayout text other)
    (p q : Position) : text.offsetAt p ≤ text.offsetAt q ↔ other.offsetAt p ≤ other.offsetAt q := by
  have hlength : text.length = other.length := List.Forall₂.length_eq h
  obtain ⟨k, hk, hp, hp'⟩ := h.exists_offsetAt_eq p
  obtain ⟨l, -, hq, hq'⟩ := h.exists_offsetAt_eq q
  rw [hp, hq, hp', hq', byteSize_take_le_iff hk, byteSize_take_le_iff (hlength ▸ hk)]

end Text

end CfmlNav
