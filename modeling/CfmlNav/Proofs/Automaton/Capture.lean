import CfmlNav.Proofs.Match
import CfmlNav.Reference

/-!
# Automata report parts of the text

The ways that a search with an automaton tries are cut from the text at character boundaries: a way
ends at a place of the text, each of its open groups was opened between its start and that place,
and each part that it has captured lies there too (`Thread.StaysIn`). One step of the automaton
keeps this, whatever its states are, and so does a whole search. So every match of every automaton
stays in the text (`staysIn_of_mem_findAll`), and no match reaches into a later one
(`pairwise_findAll`), as for patterns.
-/

namespace CfmlNav

open Text

/-! ### Cursors -/

namespace Cursor

variable {text : Text} {cursor next : Cursor}

theorem StandsIn.takeEach? {sets : List CharacterSet} (h : cursor.StandsIn text)
    (hnext : cursor.takeEach? sets = some next) :
    next.StandsIn text ∧ cursor.offset ≤ next.offset := by
  induction sets generalizing cursor with
  | nil =>
    obtain rfl := Option.some.inj hnext
    exact ⟨h, Nat.le_refl _⟩
  | cons set sets ih =>
    rw [Cursor.takeEach?] at hnext
    split at hnext
    next => simp at hnext
    next c rest hrest =>
      split at hnext
      next =>
        obtain ⟨hstands, hle⟩ := ih (h.advance hrest) hnext
        exact ⟨hstands, Nat.le_trans (Nat.le_add_right _ _) hle⟩
      next => simp at hnext

end Cursor

/-! ### Ways -/

/-- A way through an automaton that is cut from a text. -/
structure Thread.StaysIn (thread : Thread) (text : Text) : Prop where
  cursor : thread.cursor.StandsIn text
  start_le : thread.start ≤ thread.cursor.offset
  opened : ∀ group ∈ thread.opened, text.IsBoundary group.2 ∧
    thread.start ≤ group.2 ∧ group.2 ≤ thread.cursor.offset
  captured : ∀ capture ∈ thread.captures, capture.range.IsPartOf text ∧
    thread.start ≤ capture.range.start ∧ capture.range.stop ≤ thread.cursor.offset

namespace Thread.StaysIn

variable {text : Text} {thread : Thread}

theorem toMatch (h : thread.StaysIn text) : thread.toMatch.StaysIn text :=
  ⟨h.cursor, h.start_le, h.captured⟩

theorem moveTo (h : thread.StaysIn text) (state : Nat) : (thread.moveTo state).StaysIn text :=
  ⟨h.cursor, h.start_le, h.opened, h.captured⟩

/-- A way may go on to any later place of the text. -/
theorem goOn {cursor : Cursor} (h : thread.StaysIn text) (hcursor : cursor.StandsIn text)
    (hle : thread.cursor.offset ≤ cursor.offset) (state : Nat) :
    { thread with state, cursor }.StaysIn text where
  cursor := hcursor
  start_le := Nat.le_trans h.start_le hle
  opened group hgroup := by
    obtain ⟨hboundary, hstart, hstop⟩ := h.opened group hgroup
    exact ⟨hboundary, hstart, Nat.le_trans hstop hle⟩
  captured capture hcapture := by
    obtain ⟨hpart, hstart, hstop⟩ := h.captured capture hcapture
    exact ⟨hpart, hstart, Nat.le_trans hstop hle⟩

/-- A group is opened at the place that the way has come to. -/
theorem openGroup (h : thread.StaysIn text) (name : Text) :
    { thread with opened := (name, thread.cursor.offset) :: thread.opened }.StaysIn text where
  cursor := h.cursor
  start_le := h.start_le
  opened := List.forall_mem_cons.mpr
    ⟨⟨h.cursor.isBoundary, h.start_le, Nat.le_refl _⟩, h.opened⟩
  captured := h.captured

/-- What a closed group captures lies between two boundaries. -/
theorem closeGroup (h : thread.StaysIn text) : thread.closeGroup.StaysIn text := by
  rcases hopened : thread.opened with _ | ⟨⟨name, start⟩, opened⟩
  · rwa [Thread.closeGroup, hopened]
  · have hgroups := h.opened
    rw [hopened] at hgroups
    obtain ⟨⟨hboundary, hstart, hstop⟩, hothers⟩ := List.forall_mem_cons.mp hgroups
    rw [Thread.closeGroup, hopened]
    exact ⟨h.cursor, h.start_le, hothers, List.forall_mem_cons.mpr
      ⟨⟨hboundary.isPartOf h.cursor.isBoundary hstop, hstart, Nat.le_refl _⟩, h.captured⟩⟩

end Thread.StaysIn

@[simp] theorem Thread.start_closeGroup (thread : Thread) :
    thread.closeGroup.start = thread.start := by
  rw [closeGroup]
  split <;> rfl

/-! ### Searches -/

namespace Automaton

variable {automaton : Automaton} {text : Text}

theorem staysIn_thread {cursor : Cursor} (h : cursor.StandsIn text) :
    (automaton.thread cursor).StaysIn text where
  cursor := h
  start_le := Nat.le_refl _
  opened := by simp [thread]
  captured := by simp [thread]

/-- Each way on from a way in a text is one, and has the same start. -/
theorem staysIn_of_mem_step {thread next : Thread} (h : thread.StaysIn text)
    (hnext : next ∈ automaton.step thread) : next.StaysIn text ∧ next.start = thread.start := by
  rw [step] at hnext
  split at hnext
  next => simp at hnext
  next => simp at hnext
  next sets state hstate =>
    split at hnext
    next => simp at hnext
    next cursor htake =>
      obtain rfl := List.mem_singleton.mp hnext
      obtain ⟨hcursor, hle⟩ := h.cursor.takeEach? htake
      exact ⟨h.goOn hcursor hle state, rfl⟩
  next a state hstate =>
    split at hnext
    next =>
      obtain rfl := List.mem_singleton.mp hnext
      exact ⟨h.moveTo state, rfl⟩
    next => simp at hnext
  next preferred other hstate =>
    rcases List.mem_pair.mp hnext with rfl | rfl
    · exact ⟨h.moveTo preferred, rfl⟩
    · exact ⟨h.moveTo other, rfl⟩
  next name state hstate =>
    obtain rfl := List.mem_singleton.mp hnext
    exact ⟨(h.openGroup name).moveTo state, rfl⟩
  next state hstate =>
    obtain rfl := List.mem_singleton.mp hnext
    exact ⟨h.closeGroup.moveTo state, thread.start_closeGroup⟩

/-- What a search finds stays in the text and starts at or behind `low`, if the ways on the stack
do so and those that are still to be started will. -/
theorem staysIn_of_searchWithin {bound low : Nat} {visited visited' : Visited} {cursor : Cursor}
    {stack : List Thread} {found : Match} (hcursor : cursor.StandsIn text)
    (hlow : low ≤ cursor.offset)
    (hstack : ∀ thread ∈ stack, thread.StaysIn text ∧ low ≤ thread.start)
    (h : automaton.searchWithin bound visited cursor stack = (some found, visited')) :
    found.StaysIn text ∧ low ≤ found.start := by
  induction bound generalizing visited cursor stack with
  | zero => simp [searchWithin] at h
  | succ bound ih =>
    rcases stack with _ | ⟨thread, stack⟩
    · rw [searchWithin] at h
      split at h
      next => simp at h
      next c rest hrest =>
        have hadvance := hcursor.advance hrest
        have hlow' : low ≤ (cursor.advance c rest).offset :=
          Nat.le_trans hlow (Nat.le_add_right _ _)
        refine ih hadvance hlow' ?_ h
        intro thread hthread
        obtain rfl := List.mem_singleton.mp hthread
        exact ⟨staysIn_thread hadvance, hlow'⟩
    · obtain ⟨⟨hthread, hstart⟩, hothers⟩ := List.forall_mem_cons.mp hstack
      rw [searchWithin] at h
      split at h
      next => exact ih hcursor hlow hothers h
      next =>
        split at h
        next =>
          obtain rfl := Option.some.inj (Prod.mk.inj h).1
          exact ⟨hthread.toMatch, hstart⟩
        next =>
          refine ih hcursor hlow (List.forall_mem_append.mpr ⟨fun next hnext => ?_, hothers⟩) h
          obtain ⟨hstays, hsame⟩ := staysIn_of_mem_step hthread hnext
          exact ⟨hstays, hsame ▸ hstart⟩

/-- The next match stays in the text and starts at or behind the cursor. -/
theorem staysIn_of_findFrom {bound : Nat} {emptyHere : Bool} {visited visited' : Visited}
    {cursor : Cursor} {found : Match} (hcursor : cursor.StandsIn text)
    (h : automaton.findFrom bound emptyHere visited cursor = (some found, visited')) :
    found.StaysIn text ∧ cursor.offset ≤ found.start := by
  have hsearch {here : Cursor} {visited visited' : Visited} {found : Match}
      (hhere : here.StandsIn text) (hle : cursor.offset ≤ here.offset)
      (hfound : automaton.searchWithin bound (visited.forget here.offset) here
        [automaton.thread here] = (some found, visited')) :
      found.StaysIn text ∧ cursor.offset ≤ found.start := by
    refine staysIn_of_searchWithin hhere hle ?_ hfound
    intro thread hthread
    obtain rfl := List.mem_singleton.mp hthread
    exact ⟨staysIn_thread hhere, hle⟩
  rw [findFrom] at h
  split at h
  next => simp at h
  next first visited hfirst =>
    split at h
    next =>
      obtain rfl := Option.some.inj (Prod.mk.inj h).1
      exact hsearch hcursor (Nat.le_refl _) hfirst
    next =>
      split at h
      next => simp at h
      next c rest hrest =>
        exact hsearch (hcursor.advance hrest) (Nat.le_add_right _ _) h

/-- The matches behind a cursor stay in the text and behind the cursor, and none reaches into a
later one. -/
theorem staysIn_and_pairwise_matchesWithin {bound count : Nat} {emptyHere : Bool}
    {visited : Visited} {cursor : Cursor} (hcursor : cursor.StandsIn text) :
    (∀ found ∈ automaton.matchesWithin bound count emptyHere visited cursor,
        found.StaysIn text ∧ cursor.offset ≤ found.start) ∧
      (automaton.matchesWithin bound count emptyHere visited cursor).Pairwise
        fun found later => found.after.offset ≤ later.start := by
  induction count generalizing emptyHere visited cursor with
  | zero => exact ⟨by simp [matchesWithin], List.Pairwise.nil⟩
  | succ count ih =>
    rw [matchesWithin]
    split
    next => exact ⟨by simp, List.Pairwise.nil⟩
    next found visited hfound =>
      obtain ⟨hstays, hstart⟩ := staysIn_of_findFrom hcursor hfound
      obtain ⟨hlater, hpairwise⟩ := @ih false visited _ hstays.after
      refine ⟨List.forall_mem_cons.mpr ⟨⟨hstays, hstart⟩, fun later hmem => ?_⟩,
        List.pairwise_cons.mpr ⟨fun later hmem => (hlater later hmem).2, hpairwise⟩⟩
      exact ⟨(hlater later hmem).1,
        Nat.le_trans hstart (Nat.le_trans hstays.start_le (hlater later hmem).2)⟩

/-- **Every match of an automaton stays in the text.** -/
theorem staysIn_of_mem_findAll {found : Match} (h : found ∈ automaton.findAll text) :
    found.StaysIn text := by
  rw [findAll] at h
  split at h
  next => simp at h
  next => exact ((staysIn_and_pairwise_matchesWithin (.start text)).1 found h).1

/-- No match of an automaton reaches into a later one. -/
theorem pairwise_findAll (automaton : Automaton) (text : Text) :
    (automaton.findAll text).Pairwise fun found later => found.after.offset ≤ later.start := by
  rw [findAll]
  split
  next => exact List.Pairwise.nil
  next => exact (staysIn_and_pairwise_matchesWithin (.start text)).2

end Automaton

/-! ### Forms of references -/

namespace ReferenceForm

/-- Every occurrence of a form stays in the text. -/
theorem staysIn_of_mem_findAll {form : ReferenceForm} {text : Text} {found : Match}
    (h : found ∈ form.findAll text) : found.StaysIn text := by
  cases form with
  | builtIn pattern => exact Pattern.staysIn_of_mem_findAll h
  | written automaton => exact Automaton.staysIn_of_mem_findAll h

/-- No occurrence of a form reaches into a later one. -/
theorem pairwise_findAll (form : ReferenceForm) (text : Text) :
    (form.findAll text).Pairwise fun found later => found.after.offset ≤ later.start := by
  cases form with
  | builtIn pattern => exact pattern.pairwise_findAll text
  | written automaton => exact automaton.pairwise_findAll text

end ReferenceForm

end CfmlNav
