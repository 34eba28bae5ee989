import CfmlNav.Pattern.Match
import CfmlNav.Proofs.Text.Boundary

/-!
# What a pattern fits

`p.Fits front taken behind captures` says without any order of trying that `p` fits the part
`taken` of the text `front ++ taken ++ behind` and reports `captures` for it, the latest first.
Running a pattern is a search among these fits: an answer comes from a fit on which the
continuation succeeds (`exists_fits_of_run`), and where there is such a fit there is an answer
(`run_isSome_of_fits`). Which of several fits is taken is left to the order of preference; where
all fits agree on what matters, the relation is all that is needed.
-/

namespace CfmlNav

open Text

/-- The place between two parts of a text. -/
def Cursor.between (front back : Text) : Cursor :=
  ⟨front.getLast?, front.byteSize, back⟩

@[simp] theorem Cursor.advance_between (front : Text) (c : Char) (rest : Text) :
    (Cursor.between front (c :: rest)).advance c rest = .between (front ++ [c]) rest := by
  simp [advance, between]

/-- A place is behind another one if something stands between them. -/
theorem Cursor.offset_between_lt (front taken : Text) (back back' : Text) :
    (Cursor.between front back).offset < (Cursor.between (front ++ taken) back').offset ↔
      taken ≠ [] := by
  have hzero : taken.byteSize = 0 ↔ taken = [] := byteSize_eq_zero_iff
  simp only [between, byteSize_append]
  rw [Ne, ← hzero]
  omega

namespace Pattern

/-! ### The relation -/

/-- Rounds of a repetition, each of which takes at least one character. -/
inductive Rounds (round : Text → Text → Text → List Capture → Prop) :
    (front taken behind : Text) → List Capture → Prop
  | done (front behind : Text) : Rounds round front [] behind []
  | more {front first rest behind : Text} {captures later : List Capture} (hfirst : first ≠ [])
      (hround : round front first (rest ++ behind) captures)
      (hrest : Rounds round (front ++ first) rest behind later) :
      Rounds round front (first ++ rest) behind (later ++ captures)

/-- Rounds that take nothing are none, so they report nothing. -/
theorem Rounds.captures_eq_nil {round : Text → Text → Text → List Capture → Prop}
    {front behind : Text} {captures : List Capture} (h : Rounds round front [] behind captures) :
    captures = [] := by
  generalize htaken : ([] : Text) = taken at h
  cases h with
  | done => rfl
  | more hfirst _ _ => exact absurd (List.append_eq_nil_iff.mp htaken.symm).1 hfirst

/-- Whether a pattern fits the part `taken` between `front` and `behind`, and what it reports for
it. A repetition whose first round takes nothing ends with that round. -/
def Fits : Pattern → (front taken behind : Text) → (captures : List Capture) → Prop
  | empty, _, taken, _, captures => taken = [] ∧ captures = []
  | one accepts, _, taken, _, captures => (∃ c, accepts c = true ∧ taken = [c]) ∧ captures = []
  | anchor a, front, taken, behind, captures =>
    taken = [] ∧ captures = [] ∧ (Cursor.between front behind).satisfies a = true
  | seq p q, front, taken, behind, captures =>
    ∃ first second captured later, taken = first ++ second ∧ captures = later ++ captured ∧
      p.Fits front first (second ++ behind) captured ∧ q.Fits (front ++ first) second behind later
  | alt p q, front, taken, behind, captures =>
    p.Fits front taken behind captures ∨ q.Fits front taken behind captures
  | plus _ p, front, taken, behind, captures =>
    ∃ first rest captured later, taken = first ++ rest ∧ captures = later ++ captured ∧
      p.Fits front first (rest ++ behind) captured ∧ (first = [] → rest = []) ∧
      Rounds p.Fits (front ++ first) rest behind later
  | capture name p, front, taken, behind, captures =>
    ∃ inner, captures = ⟨name, front.byteSize, byteSize (front ++ taken)⟩ :: inner ∧
      p.Fits front taken behind inner

section Run

variable {α : Type} {greedy : Bool} {round : Progress → (Progress → Option α) → Option α}
  {fits : Text → Text → Text → List Capture → Prop}

/-! ### Answers come from fits -/

/-- If each answer of a round comes from a fit, each answer of a repetition comes from rounds. -/
theorem exists_rounds_of_rounds
    (hround : ∀ {front back : Text} {captured : List Capture} {next : Progress → Option α} {a : α},
      round ⟨.between front back, captured⟩ next = some a →
        ∃ taken behind captures, back = taken ++ behind ∧ fits front taken behind captures ∧
          next ⟨.between (front ++ taken) behind, captures ++ captured⟩ = some a)
    (bound : Text) {front back : Text} {captured : List Capture} {next : Progress → Option α}
    {a : α} (h : rounds greedy round bound ⟨.between front back, captured⟩ next = some a) :
    ∃ taken behind captures, back = taken ++ behind ∧ Rounds fits front taken behind captures ∧
      next ⟨.between (front ++ taken) behind, captures ++ captured⟩ = some a := by
  induction bound generalizing front back captured with
  | nil => exact ⟨[], back, [], rfl, .done front back, by simpa [rounds] using h⟩
  | cons c bound ih =>
    -- the answer is that of one more round or that behind the rounds so far
    have hcases : (round ⟨.between front back, captured⟩ fun there =>
          if (Cursor.between front back).offset < there.offset then
            rounds greedy round bound there next else none) = some a ∨
        next ⟨.between front back, captured⟩ = some a := by
      rw [rounds] at h
      cases greedy
      · rcases hnext : next ⟨.between front back, captured⟩ with _ | b
        · exact Or.inl (by simpa [hnext] using h)
        · exact Or.inr (by simpa [hnext] using h)
      · rcases hmore : (round ⟨.between front back, captured⟩ fun there =>
          if (Cursor.between front back).offset < there.offset then
            rounds true round bound there next else none) with _ | b
        · exact Or.inr (by simpa [hmore] using h)
        · exact Or.inl (by simpa [hmore] using h)
    rcases hcases with hmore | hnext
    · obtain ⟨first, left, captures, rfl, hfits, hrest⟩ := hround hmore
      split at hrest
      next hlt =>
        obtain ⟨rest, behind, later, rfl, hrounds, hnext⟩ := ih hrest
        refine ⟨first ++ rest, behind, later ++ captures, by simp, ?_, by simpa using hnext⟩
        exact .more ((Cursor.offset_between_lt _ _ _ _).mp hlt) hfits hrounds
      next => simp at hrest
    · exact ⟨[], back, [], rfl, .done front back, by simpa using hnext⟩

/-- **Answers come from fits.** -/
theorem exists_fits_of_run {p : Pattern} {front back : Text} {captured : List Capture}
    {next : Progress → Option α} {a : α}
    (h : p.run ⟨.between front back, captured⟩ next = some a) :
    ∃ taken behind captures, back = taken ++ behind ∧ p.Fits front taken behind captures ∧
      next ⟨.between (front ++ taken) behind, captures ++ captured⟩ = some a := by
  induction p generalizing front back captured next a with
  | empty => exact ⟨[], back, [], rfl, ⟨rfl, rfl⟩, by simpa [run] using h⟩
  | one accepts =>
    rcases back with _ | ⟨c, rest⟩
    · simp [run, Cursor.between] at h
    · have hrest : (Cursor.between front (c :: rest)).rest = c :: rest := rfl
      simp only [run, hrest] at h
      split at h
      next hc =>
        refine ⟨[c], rest, [], rfl, ⟨⟨c, hc, rfl⟩, rfl⟩, ?_⟩
        simpa using h
      next => simp at h
  | anchor a =>
    rw [run] at h
    split at h
    next hsat => exact ⟨[], back, [], rfl, ⟨rfl, rfl, hsat⟩, by simpa using h⟩
    next => simp at h
  | seq p q ihp ihq =>
    obtain ⟨first, left, captures, rfl, hfirst, hsecond⟩ := ihp h
    obtain ⟨second, behind, later, rfl, hsecond, hnext⟩ := ihq hsecond
    refine ⟨first ++ second, behind, later ++ captures, by simp, ?_, by simpa using hnext⟩
    exact ⟨first, second, captures, later, rfl, rfl, hfirst, hsecond⟩
  | alt p q ihp ihq =>
    rw [run] at h
    rcases hp : p.run ⟨.between front back, captured⟩ next with _ | b
    · obtain ⟨taken, behind, captures, hback, hfits, hnext⟩ := ihq (by simpa [hp] using h)
      exact ⟨taken, behind, captures, hback, Or.inr hfits, hnext⟩
    · obtain rfl : b = a := by simpa [hp] using h
      obtain ⟨taken, behind, captures, hback, hfits, hnext⟩ := ihp hp
      exact ⟨taken, behind, captures, hback, Or.inl hfits, hnext⟩
  | plus greedy p ih =>
    obtain ⟨first, left, captures, rfl, hfirst, hrest⟩ := ih h
    split at hrest
    next hlt =>
      have hne := (Cursor.offset_between_lt _ _ _ _).mp hlt
      obtain ⟨rest, behind, later, hleft, hrounds, hnext⟩ := exists_rounds_of_rounds ih _ hrest
      obtain rfl : left = rest ++ behind := hleft
      refine ⟨first ++ rest, behind, later ++ captures, by simp, ?_, by simpa using hnext⟩
      exact ⟨first, rest, captures, later, rfl, rfl, hfirst, fun h => absurd h hne, hrounds⟩
    next hlt =>
      obtain rfl : first = [] := by
        rw [Cursor.offset_between_lt] at hlt
        exact Classical.not_not.mp hlt
      refine ⟨[], left, captures, rfl, ?_, hrest⟩
      exact ⟨[], [], captures, [], rfl, rfl, hfirst, fun _ => rfl, .done _ _⟩
  | capture name p ih =>
    obtain ⟨taken, behind, captures, rfl, hfits, hnext⟩ := ih h
    exact ⟨taken, behind, _ :: captures, rfl, ⟨captures, rfl, hfits⟩, hnext⟩

/-! ### Where there is a fit there is an answer -/

/-- If a round answers wherever it fits, a repetition answers wherever rounds fit, as long as the
bound allows as many rounds as there are characters. -/
theorem rounds_isSome_of_rounds
    (hround : ∀ {front taken behind : Text} {captures captured : List Capture}
      {next : Progress → Option α}, fits front taken behind captures →
        (next ⟨.between (front ++ taken) behind, captures ++ captured⟩).isSome →
          (round ⟨.between front (taken ++ behind), captured⟩ next).isSome)
    {front taken behind : Text} {captures captured : List Capture} {next : Progress → Option α}
    (h : Rounds fits front taken behind captures) {bound : Text}
    (hbound : taken.length ≤ bound.length)
    (hnext : (next ⟨.between (front ++ taken) behind, captures ++ captured⟩).isSome) :
    (rounds greedy round bound ⟨.between front (taken ++ behind), captured⟩ next).isSome := by
  induction h generalizing bound captured with
  | done front behind =>
    have hhere : (next ⟨.between front behind, captured⟩).isSome := by simpa using hnext
    cases bound with
    | nil => exact hhere
    | cons c bound => cases greedy <;> simp [rounds, hhere]
  | @more front first rest behind captures later hfirst hfits _ ih =>
    have hpos : 0 < first.length := List.length_pos_iff.mpr hfirst
    rw [List.length_append] at hbound
    rcases bound with _ | ⟨c, bound⟩
    · rw [List.length_nil] at hbound
      omega
    · rw [List.length_cons] at hbound
      have hmore : (round ⟨.between front (first ++ (rest ++ behind)), captured⟩ fun there =>
          if (Cursor.between front (first ++ (rest ++ behind))).offset < there.offset then
            rounds greedy round bound there next else none).isSome := by
        refine hround hfits ?_
        rw [if_pos ((Cursor.offset_between_lt _ _ _ _).mpr hfirst)]
        exact ih (by omega) (by simpa using hnext)
      rw [List.append_assoc]
      cases greedy <;> simp [rounds, hmore]

/-- **Where there is a fit there is an answer,** if the continuation succeeds on the fit. -/
theorem run_isSome_of_fits {p : Pattern} {front taken behind : Text}
    {captures captured : List Capture} {next : Progress → Option α}
    (h : p.Fits front taken behind captures)
    (hnext : (next ⟨.between (front ++ taken) behind, captures ++ captured⟩).isSome) :
    (p.run ⟨.between front (taken ++ behind), captured⟩ next).isSome := by
  induction p generalizing front taken behind captures captured next with
  | empty =>
    obtain ⟨rfl, rfl⟩ := h
    simpa [run] using hnext
  | one accepts =>
    obtain ⟨⟨c, hc, rfl⟩, rfl⟩ := h
    have hrest : (Cursor.between front (c :: behind)).rest = c :: behind := rfl
    simpa only [run, List.cons_append, List.nil_append, hrest, hc, if_true,
      Cursor.advance_between] using hnext
  | anchor a =>
    obtain ⟨rfl, rfl, hsat⟩ := h
    simpa [run, hsat] using hnext
  | seq p q ihp ihq =>
    obtain ⟨first, second, captures, later, rfl, rfl, hfirst, hsecond⟩ := h
    rw [List.append_assoc]
    exact ihp hfirst (ihq hsecond (by simpa using hnext))
  | alt p q ihp ihq =>
    rw [run]
    rcases h with h | h
    · simp [ihp h hnext]
    · simp [ihq h hnext]
  | plus greedy p ih =>
    obtain ⟨first, rest, captures, later, rfl, rfl, hfirst, hempty, hrounds⟩ := h
    rw [List.append_assoc]
    refine ih hfirst ?_
    split
    next => exact rounds_isSome_of_rounds ih hrounds (by simp [Cursor.between]) (by simpa using hnext)
    next hlt =>
      obtain rfl : first = [] := by
        rw [Cursor.offset_between_lt] at hlt
        exact Classical.not_not.mp hlt
      obtain rfl : rest = [] := hempty rfl
      obtain rfl := hrounds.captures_eq_nil
      simpa using hnext
  | capture name p ih =>
    obtain ⟨inner, rfl, hfits⟩ := h
    exact ih hfits hnext

end Run

/-! ### Patterns without captures -/

/-- Whether a pattern has no part to be reported. -/
def isSilent : Pattern → Bool
  | empty => true
  | one _ => true
  | anchor _ => true
  | seq p q => p.isSilent && q.isSilent
  | alt p q => p.isSilent && q.isSilent
  | plus _ p => p.isSilent
  | capture _ _ => false

theorem Rounds.captures_eq_nil_of_round {round : Text → Text → Text → List Capture → Prop}
    (hround : ∀ {front taken behind : Text} {captures : List Capture},
      round front taken behind captures → captures = [])
    {front taken behind : Text} {captures : List Capture}
    (h : Rounds round front taken behind captures) : captures = [] := by
  induction h with
  | done => rfl
  | more _ hfirst _ ih => rw [ih, hround hfirst]; rfl

theorem Fits.captures_eq_nil {p : Pattern} {front taken behind : Text} {captures : List Capture}
    (h : p.Fits front taken behind captures) (hp : p.isSilent = true) : captures = [] := by
  induction p generalizing front taken behind captures with
  | empty => exact h.2
  | one accepts => exact h.2
  | anchor a => exact h.2.1
  | seq p q ihp ihq =>
    obtain ⟨_, _, captured, later, rfl, rfl, hfirst, hsecond⟩ := h
    rw [isSilent, Bool.and_eq_true] at hp
    rw [ihp hfirst hp.1, ihq hsecond hp.2]
    rfl
  | alt p q ihp ihq =>
    rw [isSilent, Bool.and_eq_true] at hp
    rcases h with h | h
    · exact ihp h hp.1
    · exact ihq h hp.2
  | plus greedy p ih =>
    obtain ⟨_, _, captured, later, rfl, rfl, hfirst, -, hrest⟩ := h
    rw [ih hfirst hp, hrest.captures_eq_nil_of_round fun h => ih h hp]
    rfl
  | capture name p ih => simp [isSilent] at hp

/-! ### Patterns that avoid a class of characters -/

/-- Whether none of the characters that a pattern asks for belongs to a class. -/
def Avoids (accepts : Char → Bool) : Pattern → Prop
  | empty => True
  | one asked => ∀ {c}, asked c = true → accepts c = false
  | anchor _ => True
  | seq p q => p.Avoids accepts ∧ q.Avoids accepts
  | alt p q => p.Avoids accepts ∧ q.Avoids accepts
  | plus _ p => p.Avoids accepts
  | capture _ p => p.Avoids accepts

theorem Rounds.forall_mem {round : Text → Text → Text → List Capture → Prop} {P : Char → Prop}
    (hround : ∀ {front taken behind : Text} {captures : List Capture},
      round front taken behind captures → ∀ c ∈ taken, P c)
    {front taken behind : Text} {captures : List Capture}
    (h : Rounds round front taken behind captures) : ∀ c ∈ taken, P c := by
  induction h with
  | done => simp
  | more _ hfirst _ ih => exact List.forall_mem_append.mpr ⟨hround hfirst, ih⟩

theorem Fits.forall_of_avoids {accepts : Char → Bool} {p : Pattern} {front taken behind : Text}
    {captures : List Capture} (h : p.Fits front taken behind captures) (hp : p.Avoids accepts) :
    ∀ c ∈ taken, accepts c = false := by
  induction p generalizing front taken behind captures with
  | empty =>
    obtain ⟨rfl, -⟩ := h
    simp
  | one asked =>
    obtain ⟨⟨c, hc, rfl⟩, -⟩ := h
    simpa using hp hc
  | anchor a =>
    obtain ⟨rfl, -, -⟩ := h
    simp
  | seq p q ihp ihq =>
    obtain ⟨_, _, _, _, rfl, -, hfirst, hsecond⟩ := h
    exact List.forall_mem_append.mpr ⟨ihp hfirst hp.1, ihq hsecond hp.2⟩
  | alt p q ihp ihq =>
    rcases h with h | h
    · exact ihp h hp.1
    · exact ihq h hp.2
  | plus greedy p ih =>
    obtain ⟨_, _, _, _, rfl, -, hfirst, -, hrest⟩ := h
    exact List.forall_mem_append.mpr ⟨ih hfirst hp, hrest.forall_mem fun h => ih h hp⟩
  | capture name p ih =>
    obtain ⟨_, -, hfits⟩ := h
    exact ih hfits hp

/-! ### Fits of derived patterns -/

section Derived

variable {front taken behind : Text} {captures : List Capture}

theorem fits_seq {p q : Pattern} : (seq p q).Fits front taken behind captures ↔
    ∃ first second captured later, taken = first ++ second ∧ captures = later ++ captured ∧
      p.Fits front first (second ++ behind) captured ∧
      q.Fits (front ++ first) second behind later := Iff.rfl

/-- A sequence fits if its first pattern does and then the rest of it. -/
theorem fits_sequence_cons {p : Pattern} {ps : List Pattern} :
    (sequence (p :: ps)).Fits front taken behind captures ↔
      (seq p (sequence ps)).Fits front taken behind captures := by
  rcases ps with _ | ⟨q, ps⟩
  · constructor
    · intro h
      exact ⟨taken, [], captures, [], by simp, by simp, by simpa [sequence] using h, rfl, rfl⟩
    · rintro ⟨first, _, captured, _, rfl, rfl, hfirst, rfl, rfl⟩
      simpa [sequence] using hfirst
  · exact Iff.rfl

/-- A sequence fits if its first part does and then the rest of it. -/
theorem fits_sequence_append (ps qs : List Pattern) :
    (sequence (ps ++ qs)).Fits front taken behind captures ↔
      (seq (sequence ps) (sequence qs)).Fits front taken behind captures := by
  induction ps generalizing front taken captures with
  | nil =>
    constructor
    · intro h
      exact ⟨[], taken, [], captures, rfl, by simp, ⟨rfl, rfl⟩, by simpa using h⟩
    · rintro ⟨_, second, _, later, rfl, rfl, ⟨rfl, rfl⟩, hsecond⟩
      simpa using hsecond
  | cons p ps ih =>
    rw [List.cons_append, fits_sequence_cons]
    constructor
    · rintro ⟨first, _, captured, _, rfl, rfl, hfirst, hrest⟩
      obtain ⟨second, third, captured', later, rfl, rfl, hsecond, hthird⟩ := ih.mp hrest
      refine ⟨first ++ second, third, captured' ++ captured, later, by simp, by simp, ?_,
        by simpa using hthird⟩
      exact fits_sequence_cons.mpr ⟨first, second, captured, captured', rfl, rfl,
        by simpa using hfirst, hsecond⟩
    · rintro ⟨_, third, _, later, rfl, rfl, hpart, hthird⟩
      obtain ⟨first, second, captured, captured', rfl, rfl, hfirst, hsecond⟩ :=
        fits_sequence_cons.mp hpart
      refine ⟨first, second ++ third, captured, later ++ captured', by simp, by simp,
        by simpa using hfirst, ?_⟩
      exact ih.mpr ⟨second, third, captured', later, rfl, rfl, hsecond, by simpa using hthird⟩

/-- A sequence within a sequence is a part of it. -/
theorem fits_sequence_sequence (ps qs rs : List Pattern) :
    (sequence (ps ++ sequence qs :: rs)).Fits front taken behind captures ↔
      (sequence (ps ++ (qs ++ rs))).Fits front taken behind captures := by
  simp only [fits_sequence_append, fits_seq, fits_sequence_cons]

theorem fits_choice {ps : List Pattern} (hps : ps ≠ []) :
    (choice ps).Fits front taken behind captures ↔
      ∃ p ∈ ps, p.Fits front taken behind captures := by
  induction ps using choice.induct with
  | case1 => exact absurd rfl hps
  | case2 p => simp [choice]
  | case3 p q rest ih =>
    show (p.Fits _ _ _ _ ∨ (choice (q :: rest)).Fits _ _ _ _) ↔ _
    rw [ih (List.cons_ne_nil q rest)]
    exact (List.exists_mem_cons_iff (fun r => Fits r front taken behind captures) p _).symm

theorem fits_optional {greedy : Bool} {p : Pattern} :
    (optional greedy p).Fits front taken behind captures ↔
      p.Fits front taken behind captures ∨ taken = [] ∧ captures = [] := by
  cases greedy
  · exact Or.comm
  · exact Iff.rfl

theorem fits_capture {name : Text} {p : Pattern} :
    (capture name p).Fits front taken behind captures ↔
      ∃ inner, captures = ⟨name, front.byteSize, byteSize (front ++ taken)⟩ :: inner ∧
        p.Fits front taken behind inner := Iff.rfl

theorem fits_one {accepts : Char → Bool} : (one accepts).Fits front taken behind captures ↔
    (∃ c, accepts c = true ∧ taken = [c]) ∧ captures = [] := Iff.rfl

theorem fits_char {c : Char} : (char c).Fits front taken behind captures ↔
    taken = [c] ∧ captures = [] := by
  simp [char, fits_one]

theorem fits_quote : quote.Fits front taken behind captures ↔
    (∃ c, (c = '\'' ∨ c = '"') ∧ taken = [c]) ∧ captures = [] := by
  simp [quote, oneOf, fits_one]

/-- Before a word character there is a boundary if no such character stands on the other side. -/
theorem fits_boundary {c : Char} (hc : Character.isWord c = true) :
    boundary.Fits front [] (c :: behind) captures ↔
      captures = [] ∧ ∀ d ∈ front.getLast?, Character.isWord d = false := by
  have hedge : (Cursor.between front (c :: behind)).satisfies (.word .boundary false) = true ↔
      ∀ d ∈ front.getLast?, Character.isWord d = false := by
    cases hlast : front.getLast? <;>
      simp [Cursor.satisfies, Cursor.between, Cursor.isWordSide, WordEdge.isBetween, hc, hlast]
  simp [boundary, Fits, hedge]

/-- The start of the text, or else one character of a class. -/
theorem fits_textStart_or_one {accepts : Char → Bool} :
    (alt (anchor .textStart) (one accepts)).Fits front taken behind captures ↔
      (front = [] ∧ taken = [] ∨ ∃ c, taken = [c] ∧ accepts c = true) ∧ captures = [] := by
  have hstart : (Cursor.between front behind).satisfies .textStart = true ↔ front = [] := by
    simp [Cursor.satisfies, Cursor.between]
  constructor
  · rintro (⟨rfl, rfl, hsat⟩ | ⟨⟨c, hc, rfl⟩, rfl⟩)
    · exact ⟨Or.inl ⟨hstart.mp hsat, rfl⟩, rfl⟩
    · exact ⟨Or.inr ⟨c, rfl, hc⟩, rfl⟩
  · rintro ⟨⟨hfront, rfl⟩ | ⟨c, rfl, hc⟩, rfl⟩
    · exact Or.inl ⟨rfl, rfl, hstart.mpr hfront⟩
    · exact Or.inr ⟨⟨c, hc, rfl⟩, rfl⟩

theorem fits_textEnd : (anchor .textEnd).Fits front taken behind captures ↔
    taken = [] ∧ captures = [] ∧ behind = [] := by
  have hend : (Cursor.between front behind).satisfies .textEnd = true ↔ behind = [] := by
    simp [Cursor.satisfies, Cursor.between]
  exact and_congr_right' (and_congr_right' hend)

/-- Rounds of single characters are the texts of such characters. -/
theorem rounds_one {accepts : Char → Bool} :
    Rounds (one accepts).Fits front taken behind captures ↔
      (∀ c ∈ taken, accepts c = true) ∧ captures = [] := by
  constructor
  · intro h
    induction h with
    | done => simp
    | more _ hround _ ih =>
      obtain ⟨⟨c, hc, rfl⟩, rfl⟩ := hround
      simpa [hc] using ih
  · rintro ⟨htaken, rfl⟩
    induction taken generalizing front with
    | nil => exact .done front behind
    | cons c taken ih =>
      rw [List.forall_mem_cons] at htaken
      show Rounds _ front ([c] ++ taken) behind ([] ++ [])
      exact .more (List.cons_ne_nil c []) ⟨⟨c, htaken.1, rfl⟩, rfl⟩ (ih htaken.2)

theorem fits_plus_one {greedy : Bool} {accepts : Char → Bool} :
    (plus greedy (one accepts)).Fits front taken behind captures ↔
      taken ≠ [] ∧ (∀ c ∈ taken, accepts c = true) ∧ captures = [] := by
  constructor
  · rintro ⟨_, rest, _, _, rfl, rfl, ⟨⟨c, hc, rfl⟩, rfl⟩, -, hrest⟩
    obtain ⟨hparts, rfl⟩ := rounds_one.mp hrest
    simpa [hc] using hparts
  · rintro ⟨hne, htaken, rfl⟩
    obtain ⟨c, rest, rfl⟩ := List.exists_cons_of_ne_nil hne
    rw [List.forall_mem_cons] at htaken
    exact ⟨[c], rest, [], [], rfl, rfl, ⟨⟨c, htaken.1, rfl⟩, rfl⟩, by simp,
      rounds_one.mpr ⟨htaken.2, rfl⟩⟩

theorem fits_spaces : spaces.Fits front taken behind captures ↔
    (∀ c ∈ taken, Character.isSpace c = true) ∧ captures = [] := by
  rw [spaces, star, fits_optional, fits_plus_one]
  constructor
  · rintro (⟨-, h⟩ | ⟨rfl, rfl⟩)
    · exact h
    · simp
  · intro h
    by_cases hne : taken = []
    · exact Or.inr ⟨hne, h.2⟩
    · exact Or.inl ⟨hne, h⟩

theorem fits_someSpaces : someSpaces.Fits front taken behind captures ↔
    taken ≠ [] ∧ (∀ c ∈ taken, Character.isSpace c = true) ∧ captures = [] :=
  fits_plus_one

theorem fits_identifier : identifier.Fits front taken behind captures ↔
    taken ≠ [] ∧ (∀ c ∈ taken, isNamePart c = true) ∧ captures = [] :=
  fits_plus_one

/-- A word fits the texts that fold to the same code points. -/
theorem fits_word {w : Text} : (word w).Fits front taken behind captures ↔
    taken.map Character.foldCode = w.map Character.foldCode ∧ captures = [] := by
  induction w generalizing front taken captures with
  | nil => simp [word, sequence, Fits]
  | cons c w ih =>
    rw [word, List.map_cons, fits_sequence_cons, fits_seq]
    constructor
    · rintro ⟨_, rest, _, _, rfl, rfl, ⟨⟨d, hd, rfl⟩, rfl⟩, hrest⟩
      obtain ⟨hfold, rfl⟩ := ih.mp hrest
      simpa [hfold] using hd
    · rintro ⟨htaken, rfl⟩
      obtain ⟨d, rest, rfl⟩ : ∃ d rest, taken = d :: rest :=
        List.exists_cons_of_ne_nil (by rintro rfl; simp at htaken)
      rw [List.map_cons, List.map_cons, List.cons.injEq] at htaken
      exact ⟨[d], rest, [], [], rfl, rfl, ⟨⟨d, by simp [htaken.1], rfl⟩, rfl⟩,
        ih.mpr ⟨htaken.2, rfl⟩⟩

theorem fits_anyWord {words : List Text} (hwords : words ≠ []) :
    (anyWord words).Fits front taken behind captures ↔
      (∃ w ∈ words, taken.map Character.foldCode = w.map Character.foldCode) ∧ captures = [] := by
  have hne : words.map word ≠ [] := by simpa using hwords
  rw [anyWord, fits_choice hne]
  constructor
  · rintro ⟨_, hp, hfits⟩
    obtain ⟨w, hw, rfl⟩ := List.mem_map.mp hp
    exact ⟨⟨w, hw, (fits_word.mp hfits).1⟩, (fits_word.mp hfits).2⟩
  · rintro ⟨⟨w, hw, hfold⟩, hcaptures⟩
    exact ⟨word w, List.mem_map_of_mem hw, fits_word.mpr ⟨hfold, hcaptures⟩⟩

end Derived

end Pattern

end CfmlNav
