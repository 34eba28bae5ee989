import CfmlNav.Proofs.Pattern.Fit
import Mathlib.Data.List.Pairwise

/-!
# What a search finds

Every match that a search reports comes from a fit of the pattern (`standsIn_of_mem_findAll`), and
no match reaches into a later one (`pairwise_findAll`). The converse holds only up to overlaps: a
search goes on behind each match, so a fit that starts inside a match is not seen. What can be said
is that a fit always starts inside some match, possibly its own (`exists_mem_findAll_of_fits`).
-/

namespace CfmlNav.Pattern

open Text

/-- Where a match stands in a text, with the fit that it comes from. -/
structure StandsIn (p : Pattern) (text : Text) (found : Match) (front taken behind : Text) :
    Prop where
  text_eq : text = front ++ (taken ++ behind)
  fits : p.Fits front taken behind found.captures
  start_eq : found.start = front.byteSize
  after_eq : found.after = .between (front ++ taken) behind

/-- A pattern that never fits nothing. -/
def Consuming (p : Pattern) : Prop :=
  ∀ {front taken behind : Text} {captures : List Capture},
    p.Fits front taken behind captures → taken ≠ []

/-- The search that the matches of a text are chained from. -/
abbrev searchFrom (p : Pattern) (emptyHere : Bool) (cursor : Cursor) : Option Match :=
  p.findFrom emptyHere cursor.before cursor.offset cursor.rest

variable {p : Pattern}

/-! ### One match -/

theorem standsIn_of_matchAt {front back : Text} {found : Match}
    (h : p.matchAt (.between front back) = some found) :
    ∃ taken behind, p.StandsIn (front ++ back) found front taken behind := by
  obtain ⟨taken, behind, captures, rfl, hfits, hfound⟩ := exists_fits_of_run h
  rw [List.append_nil, Option.some_inj] at hfound
  subst hfound
  exact ⟨taken, behind, rfl, hfits, rfl, rfl⟩

theorem matchAt_isSome_of_fits {front taken behind : Text} {captures : List Capture}
    (h : p.Fits front taken behind captures) :
    (p.matchAt (.between front (taken ++ behind))).isSome :=
  run_isSome_of_fits h rfl

/-- A match that takes something is not empty. -/
theorem StandsIn.isEmpty_eq_false {text : Text} {found : Match} {front taken behind : Text}
    (h : p.StandsIn text found front taken behind) (hp : p.Consuming) : found.isEmpty = false := by
  have hne : byteSize taken ≠ 0 := fun hzero => hp h.fits (byteSize_eq_zero_iff.mp hzero)
  have hoffset : found.after.offset = byteSize front + byteSize taken := by
    rw [h.after_eq, Cursor.between, byteSize_append]
  rw [Match.isEmpty, h.start_eq, hoffset, beq_eq_false_iff_ne]
  omega

/-! ### The first match -/

theorem searchFrom_nil (emptyHere : Bool) (front : Text) :
    p.searchFrom emptyHere (.between front []) =
      (p.matchAt (.between front [])).filter fun found => emptyHere || !found.isEmpty := rfl

theorem searchFrom_cons (emptyHere : Bool) (front : Text) (c : Char) (back : Text) :
    p.searchFrom emptyHere (.between front (c :: back)) =
      ((p.matchAt (.between front (c :: back))).filter (fun found => emptyHere || !found.isEmpty) <|>
        p.searchFrom true (.between (front ++ [c]) back)) := by
  simp only [searchFrom, Cursor.between, findFrom, List.getLast?_append, List.getLast?_singleton,
    Option.some_or, byteSize_append, byteSize_cons, byteSize_nil, Nat.add_zero]

/-- A match at the place itself is the first, if it takes something. -/
theorem searchFrom_of_matchAt (hp : p.Consuming) (emptyHere : Bool) {front back : Text}
    {found : Match} (h : p.matchAt (.between front back) = some found) :
    p.searchFrom emptyHere (.between front back) = some found := by
  obtain ⟨taken, behind, hstands⟩ := standsIn_of_matchAt h
  have hne := hstands.isEmpty_eq_false hp
  cases back with
  | nil => rw [searchFrom_nil, h]; simp [hne]
  | cons c back => rw [searchFrom_cons, h]; simp [hne]

/-- What a search finds is the preferred match at some place. -/
theorem exists_matchAt_of_searchFrom {emptyHere : Bool} {front back : Text} {found : Match}
    (h : p.searchFrom emptyHere (.between front back) = some found) :
    ∃ skipped rest, back = skipped ++ rest ∧
      p.matchAt (.between (front ++ skipped) rest) = some found := by
  induction back generalizing front emptyHere with
  | nil =>
    rw [searchFrom_nil] at h
    exact ⟨[], [], rfl, by simpa using (Option.filter_eq_some_iff.mp h).1⟩
  | cons c back ih =>
    rw [searchFrom_cons] at h
    rcases hhere : (p.matchAt (.between front (c :: back))).filter
      (fun found => emptyHere || !found.isEmpty) with _ | here
    · rw [hhere] at h
      obtain ⟨skipped, rest, rfl, hmatch⟩ := ih (by simpa using h)
      exact ⟨c :: skipped, rest, rfl, by simpa using hmatch⟩
    · obtain rfl : here = found := by simpa [hhere] using h
      exact ⟨[], c :: back, rfl, by simpa using (Option.filter_eq_some_iff.mp hhere).1⟩

theorem standsIn_of_searchFrom {emptyHere : Bool} {front back : Text} {found : Match}
    (h : p.searchFrom emptyHere (.between front back) = some found) :
    ∃ skipped taken behind, p.StandsIn (front ++ back) found (front ++ skipped) taken behind := by
  obtain ⟨skipped, rest, rfl, hmatch⟩ := exists_matchAt_of_searchFrom h
  obtain ⟨taken, behind, hstands⟩ := standsIn_of_matchAt hmatch
  exact ⟨skipped, taken, behind, by simpa using hstands⟩

/-- The first match stands at or before any fit. -/
theorem exists_searchFrom_of_fits (hp : p.Consuming) (emptyHere : Bool) (front skipped : Text)
    {taken behind : Text} {captures : List Capture}
    (h : p.Fits (front ++ skipped) taken behind captures) :
    ∃ found first rest part back,
      p.searchFrom emptyHere (.between front (skipped ++ (taken ++ behind))) = some found ∧
      skipped = first ++ rest ∧
      p.StandsIn (front ++ (skipped ++ (taken ++ behind))) found (front ++ first) part back := by
  induction skipped generalizing front emptyHere with
  | nil =>
    rw [List.append_nil] at h
    obtain ⟨found, hmatch⟩ := Option.isSome_iff_exists.mp (matchAt_isSome_of_fits h)
    obtain ⟨part, back, hstands⟩ := standsIn_of_matchAt hmatch
    exact ⟨found, [], [], part, back, searchFrom_of_matchAt hp emptyHere hmatch, rfl,
      by simpa using hstands⟩
  | cons c skipped ih =>
    rw [List.cons_append]
    rcases hmatch : p.matchAt (.between front (c :: (skipped ++ (taken ++ behind)))) with _ | found
    · obtain ⟨found, first, rest, part, back, hfind, rfl, hstands⟩ :=
        ih true (front ++ [c]) (by simpa using h)
      refine ⟨found, c :: first, rest, part, back, ?_, rfl, by simpa using hstands⟩
      rw [searchFrom_cons, hmatch]
      simpa using hfind
    · obtain ⟨part, back, hstands⟩ := standsIn_of_matchAt hmatch
      exact ⟨found, [], c :: skipped, part, back, searchFrom_of_matchAt hp emptyHere hmatch, rfl,
        by simpa using hstands⟩

/-! ### Whether there is a match -/

/-- Where a pattern fits behind a place, a search from there finds something. -/
theorem searchFrom_isSome_of_fits (front skipped : Text) {taken behind : Text}
    {captures : List Capture} (h : p.Fits (front ++ skipped) taken behind captures) :
    (p.searchFrom true (.between front (skipped ++ (taken ++ behind)))).isSome := by
  induction skipped generalizing front with
  | nil =>
    rw [List.append_nil] at h
    have hhere := matchAt_isSome_of_fits h
    rw [List.nil_append]
    cases hback : taken ++ behind with
    | nil =>
      rw [hback] at hhere
      simpa [searchFrom_nil] using hhere
    | cons c back =>
      rw [hback] at hhere
      simp [searchFrom_cons, hhere]
  | cons c skipped ih =>
    have hlater := ih (front ++ [c]) (by simpa using h)
    rw [List.cons_append, searchFrom_cons]
    simp [hlater]

/-- **A text has a match exactly if the pattern fits some part of it.** -/
theorem matchesIn_iff {text : Text} : p.matchesIn text = true ↔
    ∃ front taken behind captures, text = front ++ (taken ++ behind) ∧
      p.Fits front taken behind captures := by
  have hsearch : p.matchesIn text = (p.searchFrom true (.between [] text)).isSome := rfl
  rw [hsearch]
  constructor
  · intro h
    obtain ⟨found, hfound⟩ := Option.isSome_iff_exists.mp h
    obtain ⟨skipped, taken, behind, hstands⟩ := standsIn_of_searchFrom hfound
    exact ⟨_, taken, behind, _, hstands.text_eq, hstands.fits⟩
  · rintro ⟨front, taken, behind, captures, rfl, hfits⟩
    exact searchFrom_isSome_of_fits [] front hfits

/-! ### All matches -/

theorem exists_matchAt_of_mem_chain {bound : Nat} {emptyHere : Bool} {front back : Text}
    {found : Match}
    (h : found ∈ Match.chain p.searchFrom bound emptyHere (.between front back)) :
    ∃ skipped rest, back = skipped ++ rest ∧
      p.matchAt (.between (front ++ skipped) rest) = some found := by
  induction bound generalizing emptyHere front back with
  | zero => simp [Match.chain] at h
  | succ bound ih =>
    rw [Match.chain] at h
    split at h
    next => simp at h
    next first hfirst =>
      rcases List.mem_cons.mp h with rfl | hlater
      · exact exists_matchAt_of_searchFrom hfirst
      · obtain ⟨skipped, taken, behind, hstands⟩ := standsIn_of_searchFrom hfirst
        rw [hstands.after_eq] at hlater
        obtain ⟨skipped', rest, rfl, hmatch⟩ := ih hlater
        refine ⟨skipped ++ taken ++ skipped', rest, ?_, by simpa using hmatch⟩
        simpa using hstands.text_eq

theorem standsIn_of_mem_chain {bound : Nat} {emptyHere : Bool} {front back : Text} {found : Match}
    (h : found ∈ Match.chain p.searchFrom bound emptyHere (.between front back)) :
    ∃ skipped taken behind, p.StandsIn (front ++ back) found (front ++ skipped) taken behind := by
  obtain ⟨skipped, rest, rfl, hmatch⟩ := exists_matchAt_of_mem_chain h
  obtain ⟨taken, behind, hstands⟩ := standsIn_of_matchAt hmatch
  exact ⟨skipped, taken, behind, by simpa using hstands⟩

/-- Every match is the preferred one at its place. -/
theorem exists_matchAt_of_mem_findAll {text : Text} {found : Match} (h : found ∈ p.findAll text) :
    ∃ front rest, text = front ++ rest ∧ p.matchAt (.between front rest) = some found := by
  have hchain : found ∈ Match.chain p.searchFrom (text.length + 1) true (.between [] text) := h
  exact exists_matchAt_of_mem_chain hchain

/-- Every match comes from a fit. -/
theorem standsIn_of_mem_findAll {text : Text} {found : Match} (h : found ∈ p.findAll text) :
    ∃ front taken behind, p.StandsIn text found front taken behind := by
  obtain ⟨front, rest, rfl, hmatch⟩ := exists_matchAt_of_mem_findAll h
  obtain ⟨taken, behind, hstands⟩ := standsIn_of_matchAt hmatch
  exact ⟨front, taken, behind, hstands⟩

/-- No match reaches into a later one. -/
theorem pairwise_findAll (text : Text) :
    (p.findAll text).Pairwise fun found later => found.after.offset ≤ later.start := by
  have hchain (bound : Nat) (emptyHere : Bool) (front back : Text) :
      (Match.chain p.searchFrom bound emptyHere (.between front back)).Pairwise
        fun found later => found.after.offset ≤ later.start := by
    induction bound generalizing emptyHere front back with
    | zero => exact List.Pairwise.nil
    | succ bound ih =>
      rw [Match.chain]
      split
      next => exact List.Pairwise.nil
      next first hfirst =>
        obtain ⟨skipped, taken, behind, hstands⟩ := standsIn_of_searchFrom hfirst
        rw [hstands.after_eq]
        refine List.pairwise_cons.mpr ⟨fun later hlater => ?_, ih _ _ _⟩
        obtain ⟨skipped', taken', behind', hstands'⟩ := standsIn_of_mem_chain hlater
        rw [hstands'.start_eq, hstands.after_eq, Cursor.between]
        simp
  exact hchain _ true [] text

/-- Two different matches share no character. -/
theorem apart_of_mem_findAll {text : Text} {found found' : Match}
    {front taken behind front' taken' behind' : Text} (h : found ∈ p.findAll text)
    (h' : found' ∈ p.findAll text) (hne : found ≠ found')
    (hstands : p.StandsIn text found front taken behind)
    (hstands' : p.StandsIn text found' front' taken' behind') :
    (front ++ taken).length ≤ front'.length ∨ (front' ++ taken').length ≤ front.length := by
  have hlength {front taken behind front' taken' behind' : Text} {found found' : Match}
      (hstands : p.StandsIn text found front taken behind)
      (hstands' : p.StandsIn text found' front' taken' behind')
      (hle : found.after.offset ≤ found'.start) : (front ++ taken).length ≤ front'.length := by
    rw [hstands.after_eq, hstands'.start_eq, Cursor.between] at hle
    have htext : (front ++ taken) ++ behind = front' ++ (taken' ++ behind') := by
      rw [List.append_assoc, ← hstands.text_eq, hstands'.text_eq]
    obtain ⟨between, rfl, -⟩ := exists_append_of_byteSize_le htext hle
    simp
  have hsymm : Std.Symm fun found later : Match =>
      found.after.offset ≤ later.start ∨ later.after.offset ≤ found.start := ⟨fun _ _ => Or.symm⟩
  have hpairwise : (p.findAll text).Pairwise fun found later =>
      found.after.offset ≤ later.start ∨ later.after.offset ≤ found.start :=
    (pairwise_findAll text).imp fun hle => Or.inl hle
  rcases hpairwise.forall h h' hne with hle | hle
  · exact Or.inl (hlength hstands hstands' hle)
  · exact Or.inr (hlength hstands' hstands hle)

theorem exists_mem_chain_of_fits (hp : p.Consuming) {bound : Nat} (emptyHere : Bool)
    (front skipped : Text) {taken behind : Text} {captures : List Capture}
    (h : p.Fits (front ++ skipped) taken behind captures)
    (hbound : (skipped ++ (taken ++ behind)).length < bound) :
    ∃ found ∈ Match.chain p.searchFrom bound emptyHere
        (.between front (skipped ++ (taken ++ behind))),
      ∃ first rest part back, front ++ skipped = first ++ rest ∧ rest.length < part.length ∧
        p.StandsIn (front ++ (skipped ++ (taken ++ behind))) found first part back := by
  induction bound generalizing emptyHere front skipped with
  | zero => omega
  | succ bound ih =>
    obtain ⟨found, first, rest, part, back, hfind, rfl, hstands⟩ :=
      exists_searchFrom_of_fits hp emptyHere front skipped h
    rw [Match.chain, hfind]
    by_cases hinside : rest.length < part.length
    · exact ⟨found, List.mem_cons_self, front ++ first, rest, part, back, by simp, hinside,
        hstands⟩
    -- the match ends before the fit, so the search that goes on behind it still meets the fit
    · have hsame : part ++ back = rest ++ (taken ++ behind) := by
        have htext := hstands.text_eq
        simp only [List.append_assoc, List.append_cancel_left_eq] at htext
        exact htext.symm
      obtain ⟨later, rfl, rfl⟩ : ∃ later, rest = part ++ later ∧
          back = later ++ (taken ++ behind) := by
        rcases List.append_eq_append_iff.mp hsame with ⟨later, hrest, hback⟩ | ⟨later, hpart, -⟩
        · exact ⟨later, hrest, hback⟩
        · have hnil : later = [] := by
            rw [hpart, List.length_append] at hinside
            exact List.eq_nil_of_length_eq_zero (by omega)
          subst hnil
          rw [List.append_nil] at hpart
          exact ⟨[], by simp [hpart], by simpa [hpart] using hsame⟩
      have hpos : 0 < part.length := List.length_pos_iff.mpr (hp hstands.fits)
      obtain ⟨found', hmem, first', rest', part', back', hfront, hinside', hstands'⟩ :=
        ih false (front ++ first ++ part) later (by simpa using h)
          (by simp only [List.length_append] at hbound ⊢; omega)
      refine ⟨found', List.mem_cons_of_mem _ ?_, first', rest', part', back', ?_, hinside', ?_⟩
      · rw [hstands.after_eq]
        exact hmem
      · simpa using hfront
      · simpa using hstands'

/-- **Every fit starts inside a match.** It is found itself unless the match has started
before it. -/
theorem exists_mem_findAll_of_fits (hp : p.Consuming) {front taken behind : Text}
    {captures : List Capture} (h : p.Fits front taken behind captures) :
    ∃ found ∈ p.findAll (front ++ (taken ++ behind)),
      ∃ first rest part back, front = first ++ rest ∧ rest.length < part.length ∧
        p.StandsIn (front ++ (taken ++ behind)) found first part back :=
  exists_mem_chain_of_fits hp true [] front h (Nat.lt_succ_self _)

end CfmlNav.Pattern
