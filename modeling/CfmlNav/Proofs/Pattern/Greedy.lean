import CfmlNav.Proofs.Pattern.Search

/-!
# Where greedy patterns end

A greedy repetition gives characters back only if what follows it asks for them. Where nothing is
asked behind a pattern, that is where the continuation succeeds at every later place, a greedy
repetition of characters of a class ends before a character outside of it, and so does a pattern
that ends with such a repetition (`EndsApart`). Hence a match of the whole pattern is not followed
by a character of the class (`EndsApart.startsApart_after`).
-/

namespace CfmlNav.Pattern

open Text

/-- Whether a text starts with no character of a class. -/
def StartsApart (accepts : Char → Bool) (text : Text) : Prop :=
  ∀ c ∈ text.head?, accepts c = false

/-- Whether a continuation succeeds at all places behind a cursor. -/
def SucceedsBehind {α : Type} (next : Progress → Option α) (here : Cursor) : Prop :=
  ∀ there : Progress, here.offset < there.offset → (next there).isSome = true

/-- Whether a pattern leaves no character of a class behind it, if nothing is asked there. -/
structure EndsApart (accepts : Char → Bool) (p : Pattern) : Prop where
  exists_of_run : ∀ {α : Type} {front back : Text} {captured : List Capture}
    {next : Progress → Option α} {a : α}, SucceedsBehind next (.between front back) →
      p.run ⟨.between front back, captured⟩ next = some a →
        ∃ taken behind captures, StartsApart accepts behind ∧
          next ⟨.between (front ++ taken) behind, captures⟩ = some a

section Run

variable {α : Type} {accepts : Char → Bool} {p q : Pattern} {front back : Text}
  {captured : List Capture} {next : Progress → Option α} {a : α}

/-- What succeeds behind a place succeeds behind any later one. -/
theorem SucceedsBehind.append (h : SucceedsBehind next (.between front back)) (taken behind : Text) :
    SucceedsBehind next (.between (front ++ taken) behind) := by
  intro there hlt
  refine h there (Nat.lt_of_le_of_lt ?_ hlt)
  simp [Cursor.between]

/-- A repetition may end before any round. -/
theorem rounds_isSome {greedy : Bool} {round : Progress → (Progress → Option α) → Option α}
    (bound : Text) {here : Progress} (h : (next here).isSome = true) :
    (rounds greedy round bound here next).isSome = true := by
  cases bound with
  | nil => exact h
  | cons c bound => cases greedy <;> simp [rounds, h]

/-- A continuation with further rounds before it succeeds where it does. -/
theorem SucceedsBehind.rounds {here : Cursor} (h : SucceedsBehind next here)
    (round : Progress → (Progress → Option α) → Option α) (bound : Progress → Text)
    (otherwise : Progress → Option α) :
    SucceedsBehind (fun there =>
      if here.offset < there.offset then Pattern.rounds true round (bound there) there next
      else otherwise there) here := by
  intro there hlt
  simpa [hlt] using rounds_isSome (bound there) (h there hlt)

/-! ### Repetitions of characters -/

theorem run_one_cons (accepts : Char → Bool) (front : Text) (c : Char) (back : Text)
    (captured : List Capture) (next : Progress → Option α) :
    (one accepts).run ⟨.between front (c :: back), captured⟩ next =
      if accepts c then next ⟨.between (front ++ [c]) back, captured⟩ else none := by
  rw [← Cursor.advance_between]
  rfl

/-- Rounds of single characters go on as far as there are characters of the class. -/
theorem exists_of_rounds_one (hhere : (next ⟨.between front back, captured⟩).isSome = true)
    (hnext : SucceedsBehind next (.between front back))
    (h : rounds true (fun progress behind => (one accepts).run progress behind) back
      ⟨.between front back, captured⟩ next = some a) :
    ∃ taken behind, StartsApart accepts behind ∧
      next ⟨.between (front ++ taken) behind, captured⟩ = some a := by
  induction back generalizing front with
  | nil => exact ⟨[], [], by simp [StartsApart], by simpa [rounds] using h⟩
  | cons c back ih =>
    have hlt := (Cursor.offset_between_lt front [c] (c :: back) back).mpr (List.cons_ne_nil c [])
    rw [rounds, if_pos rfl, run_one_cons, if_pos hlt] at h
    by_cases hc : accepts c = true
    · -- one more round succeeds, so it is preferred
      have hthere := hnext ⟨.between (front ++ [c]) back, captured⟩ hlt
      obtain ⟨b, hb⟩ := Option.isSome_iff_exists.mp (rounds_isSome back hthere)
      rw [if_pos hc, hb] at h
      obtain rfl : b = a := by simpa using h
      obtain ⟨taken, behind, hbehind, htaken⟩ := ih hthere (hnext.append [c] back) hb
      exact ⟨c :: taken, behind, hbehind, by simpa using htaken⟩
    · rw [if_neg hc] at h
      exact ⟨[], c :: back, by simpa [StartsApart] using hc, by simpa using h⟩

theorem endsApart_plus_one (accepts : Char → Bool) : EndsApart accepts (plus true (one accepts)) := by
  constructor
  intro α front back captured next a hnext h
  rcases back with _ | ⟨c, back⟩
  · simp [run, Cursor.between] at h
  have hlt := (Cursor.offset_between_lt front [c] (c :: back) back).mpr (List.cons_ne_nil c [])
  rw [run, run_one_cons] at h
  split at h
  next hc =>
    obtain ⟨taken, behind, hbehind, htaken⟩ :=
      exists_of_rounds_one (hnext _ hlt) (hnext.append [c] back) h
    exact ⟨c :: taken, behind, captured, hbehind, by simpa using htaken⟩
  next => simp at h

/-! ### Repetitions of patterns -/

/-- Further rounds of a pattern leave no character of the class behind, if the rounds so far have
left none. -/
theorem EndsApart.exists_of_rounds (hp : EndsApart accepts p) (bound : Text)
    (hback : StartsApart accepts back) (hnext : SucceedsBehind next (.between front back))
    (h : rounds true (fun progress behind => p.run progress behind) bound
      ⟨.between front back, captured⟩ next = some a) :
    ∃ taken behind captures, StartsApart accepts behind ∧
      next ⟨.between (front ++ taken) behind, captures⟩ = some a := by
  induction bound generalizing front back captured with
  | nil => exact ⟨[], back, captured, hback, by simpa [rounds] using h⟩
  | cons c bound ih =>
    rw [rounds, if_pos rfl] at h
    rcases hmore : p.run ⟨.between front back, captured⟩ (fun there =>
        if (Cursor.between front back).offset < there.offset then
          rounds true (fun progress behind => p.run progress behind) bound there next
        else none) with _ | b
    · rw [hmore] at h
      exact ⟨[], back, captured, hback, by simpa using h⟩
    · rw [hmore] at h
      obtain rfl : b = a := by simpa using h
      obtain ⟨taken, behind, captures, hbehind, hrest⟩ := hp.exists_of_run (hnext.rounds _ _ _) hmore
      split at hrest
      next =>
        obtain ⟨taken', behind', captures', hbehind', hnext'⟩ :=
          ih hbehind (hnext.append taken behind) hrest
        exact ⟨taken ++ taken', behind', captures', hbehind', by simpa using hnext'⟩
      next => simp at hrest

theorem EndsApart.plus (hp : EndsApart accepts p) : EndsApart accepts (plus true p) := by
  constructor
  intro α front back captured next a hnext h
  obtain ⟨taken, behind, captures, hbehind, hrest⟩ := hp.exists_of_run (hnext.rounds _ _ _) h
  split at hrest
  next =>
    obtain ⟨taken', behind', captures', hbehind', hnext'⟩ :=
      hp.exists_of_rounds _ hbehind (hnext.append taken behind) hrest
    exact ⟨taken ++ taken', behind', captures', hbehind', by simpa using hnext'⟩
  next => exact ⟨taken, behind, captures, hbehind, hrest⟩

/-! ### Sequences and captures -/

theorem EndsApart.seq (hq : EndsApart accepts q) (p : Pattern) : EndsApart accepts (seq p q) := by
  constructor
  intro α front back captured next a hnext h
  rw [run] at h
  obtain ⟨first, left, captures, rfl, -, hsecond⟩ := exists_fits_of_run h
  obtain ⟨taken, behind, captures', hbehind, hafter⟩ :=
    hq.exists_of_run (hnext.append first left) hsecond
  exact ⟨first ++ taken, behind, captures', hbehind, by simpa using hafter⟩

/-- What may be repeated behind a pattern may also be left out. -/
theorem EndsApart.seq_star (hp : EndsApart accepts p) (hq : EndsApart accepts q) :
    EndsApart accepts (Pattern.seq p (star true q)) := by
  constructor
  intro α front back captured next a hnext h
  have hstar (there : Progress) : (star true q).run there next =
      ((Pattern.plus true q).run there next <|> next there) := rfl
  have hsucceeds : SucceedsBehind (fun there => (star true q).run there next)
      (.between front back) := by
    intro there hlt
    have hthere := hnext there hlt
    show ((star true q).run there next).isSome = true
    rw [hstar]
    simp [hthere]
  obtain ⟨taken, behind, captures, hbehind, hrest⟩ := hp.exists_of_run hsucceeds h
  replace hrest : (star true q).run _ next = some a := hrest
  rw [hstar] at hrest
  rcases hmore : (Pattern.plus true q).run ⟨.between (front ++ taken) behind, captures⟩ next with _ | b
  · rw [hmore] at hrest
    exact ⟨taken, behind, captures, hbehind, by simpa using hrest⟩
  · rw [hmore] at hrest
    obtain rfl : b = a := by simpa using hrest
    obtain ⟨taken', behind', captures', hbehind', hnext'⟩ :=
      hq.plus.exists_of_run (hnext.append taken behind) hmore
    exact ⟨taken ++ taken', behind', captures', hbehind', by simpa using hnext'⟩

theorem EndsApart.capture (hp : EndsApart accepts p) (name : Text) :
    EndsApart accepts (capture name p) := by
  constructor
  intro α front back captured next a hnext h
  have hsucceeds : SucceedsBehind (fun there =>
      next { there with captures := ⟨name, front.byteSize, there.offset⟩ :: there.captures })
      (.between front back) := fun there hlt => hnext _ hlt
  obtain ⟨taken, behind, captures, hbehind, hafter⟩ := hp.exists_of_run hsucceeds h
  exact ⟨taken, behind, _, hbehind, hafter⟩

theorem EndsApart.sequence_concat (hq : EndsApart accepts q) (ps : List Pattern) :
    EndsApart accepts (sequence (ps ++ [q])) := by
  induction ps with
  | nil => exact hq
  | cons p ps ih =>
    rcases ps with _ | ⟨p', ps⟩
    · exact hq.seq p
    · exact ih.seq p

/-! ### Matches -/

/-- A match is not followed by a character of the class. -/
theorem EndsApart.startsApart_after (hp : EndsApart accepts p) {found : Match}
    (h : p.matchAt (.between front back) = some found) : StartsApart accepts found.after.rest := by
  have hsucceeds : SucceedsBehind (fun there : Progress =>
      some (⟨(Cursor.between front back).offset, there.toCursor, there.captures⟩ : Match))
      (.between front back) := fun _ _ => rfl
  obtain ⟨taken, behind, captures, hbehind, hfound⟩ := hp.exists_of_run hsucceeds h
  obtain rfl := Option.some_inj.mp hfound
  exact hbehind

end Run

end CfmlNav.Pattern
