import CfmlNav.Proofs.Pattern.Search

/-!
# What a match reports

A pattern reports some of its parts under names. Whatever a fit of the pattern reports under a name
is itself fitted by a part of the pattern that has this name, at the reported place, and lies within
what the whole pattern takes (`exists_part_of_mem_captures`). So it is known from the pattern alone
which texts can be reported, and that they stand between boundaries. Since the matches of a text
share no character, what one match reports ends before what a later match reports starts. It is
known from the pattern as well which names have something reported in every match (`reports`).
-/

namespace CfmlNav.Pattern

open Text

/-- The parts of a pattern that are reported under a name. -/
def parts (name : Text) : Pattern → List Pattern
  | empty => []
  | one _ => []
  | anchor _ => []
  | seq p q => p.parts name ++ q.parts name
  | alt p q => p.parts name ++ q.parts name
  | plus _ p => p.parts name
  | capture other p => if other = name then p :: p.parts name else p.parts name

/-- Whether one of some patterns fits the bytes `range`, which lie in the part `taken` of the text
`front ++ taken ++ behind`. -/
def FitsWithin (bodies : List Pattern) (front taken behind : Text) (range : ByteRange) : Prop :=
  ∃ body ∈ bodies, ∃ lead part rest captures, taken = lead ++ (part ++ rest) ∧
    range = ⟨byteSize (front ++ lead), byteSize (front ++ lead) + part.byteSize⟩ ∧
    body.Fits (front ++ lead) part (rest ++ behind) captures

namespace FitsWithin

variable {bodies bodies' : List Pattern} {front first second behind : Text} {range : ByteRange}

theorem mono (h : FitsWithin bodies front first behind range)
    (hbodies : ∀ body ∈ bodies, body ∈ bodies') : FitsWithin bodies' front first behind range := by
  obtain ⟨body, hbody, hfits⟩ := h
  exact ⟨body, hbodies body hbody, hfits⟩

theorem of_first (h : FitsWithin bodies front first (second ++ behind) range) :
    FitsWithin bodies front (first ++ second) behind range := by
  obtain ⟨body, hbody, lead, part, rest, captures, rfl, rfl, hfits⟩ := h
  exact ⟨body, hbody, lead, part, rest ++ second, captures, by simp, rfl, by simpa using hfits⟩

theorem of_second (h : FitsWithin bodies (front ++ first) second behind range) :
    FitsWithin bodies front (first ++ second) behind range := by
  obtain ⟨body, hbody, lead, part, rest, captures, rfl, rfl, hfits⟩ := h
  exact ⟨body, hbody, first ++ lead, part, rest, captures, by simp, by simp, by simpa using hfits⟩

end FitsWithin

/-- What rounds report comes from one of them. -/
theorem Rounds.fitsWithin_of_mem {round : Text → Text → Text → List Capture → Prop}
    {bodies : Capture → List Pattern}
    (hround : ∀ {front taken behind : Text} {captures : List Capture} {capture : Capture},
      round front taken behind captures → capture ∈ captures →
        FitsWithin (bodies capture) front taken behind capture.range)
    {front taken behind : Text} {captures : List Capture} {capture : Capture}
    (h : Rounds round front taken behind captures) (hmem : capture ∈ captures) :
    FitsWithin (bodies capture) front taken behind capture.range := by
  induction h with
  | done => simp at hmem
  | more _ hfirst _ ih =>
    rcases List.mem_append.mp hmem with hlater | hhere
    · exact (ih hlater).of_second
    · exact (hround hfirst hhere).of_first

/-- **What a fit reports is fitted by a part of the pattern.** -/
theorem exists_part_of_mem_captures {p : Pattern} {front taken behind : Text}
    {captures : List Capture} {capture : Capture} (h : p.Fits front taken behind captures)
    (hmem : capture ∈ captures) :
    FitsWithin (p.parts capture.name) front taken behind capture.range := by
  induction p generalizing front taken behind captures capture with
  | empty =>
    obtain ⟨-, rfl⟩ := h
    simp at hmem
  | one accepts =>
    obtain ⟨-, rfl⟩ := h
    simp at hmem
  | anchor a =>
    obtain ⟨-, rfl, -⟩ := h
    simp at hmem
  | seq p q ihp ihq =>
    obtain ⟨first, second, captured, later, rfl, rfl, hfirst, hsecond⟩ := h
    rcases List.mem_append.mp hmem with hlater | hhere
    · exact (ihq hsecond hlater).of_second.mono fun _ => List.mem_append_right _
    · exact (ihp hfirst hhere).of_first.mono fun _ => List.mem_append_left _
  | alt p q ihp ihq =>
    rcases h with h | h
    · exact (ihp h hmem).mono fun _ => List.mem_append_left _
    · exact (ihq h hmem).mono fun _ => List.mem_append_right _
  | plus greedy p ih =>
    obtain ⟨first, rest, captured, later, rfl, rfl, hfirst, -, hrest⟩ := h
    rcases List.mem_append.mp hmem with hlater | hhere
    · exact (hrest.fitsWithin_of_mem ih hlater).of_second
    · exact (ih hfirst hhere).of_first
  | capture name p ih =>
    obtain ⟨inner, rfl, hfits⟩ := h
    rcases List.mem_cons.mp hmem with rfl | hinner
    · refine ⟨p, by simp [parts], [], taken, [], inner, by simp, by simp, by simpa using hfits⟩
    · refine (ih hfits hinner).mono fun body hbody => ?_
      rw [parts]
      split
      next => exact List.mem_cons_of_mem _ hbody
      next => exact hbody

/-- What a match reports under a name is fitted by a part of that name. -/
theorem StandsIn.fitsWithin {p : Pattern} {text : Text} {found : Match} {front taken behind : Text}
    {name : Text} {range : ByteRange} (h : p.StandsIn text found front taken behind)
    (hrange : found.capture? name = some range) :
    FitsWithin (p.parts name) front taken behind range := by
  obtain ⟨capture, hfind, rfl⟩ := Option.map_eq_some_iff.mp hrange
  have hmem := List.mem_of_find?_eq_some hfind
  have hname : capture.name = name := by simpa using List.find?_some hfind
  rw [← hname]
  exact exists_part_of_mem_captures h.fits hmem

/-! ### What is always reported -/

/-- Whether a pattern reports something under a name whenever it fits. -/
def reports (name : Text) : Pattern → Bool
  | empty => false
  | one _ => false
  | anchor _ => false
  | seq p q => p.reports name || q.reports name
  | alt p q => p.reports name && q.reports name
  | plus _ p => p.reports name
  | capture other p => other == name || p.reports name

theorem exists_mem_captures_of_reports {p : Pattern} {name front taken behind : Text}
    {captures : List Capture} (h : p.Fits front taken behind captures)
    (hp : p.reports name = true) : ∃ capture ∈ captures, capture.name = name := by
  induction p generalizing front taken behind captures with
  | empty => simp [reports] at hp
  | one accepts => simp [reports] at hp
  | anchor a => simp [reports] at hp
  | seq p q ihp ihq =>
    obtain ⟨_, _, captured, later, rfl, rfl, hfirst, hsecond⟩ := h
    rcases Bool.or_eq_true_iff.mp hp with hp | hp
    · obtain ⟨capture, hcapture, hname⟩ := ihp hfirst hp
      exact ⟨capture, List.mem_append_right _ hcapture, hname⟩
    · obtain ⟨capture, hcapture, hname⟩ := ihq hsecond hp
      exact ⟨capture, List.mem_append_left _ hcapture, hname⟩
  | alt p q ihp ihq =>
    rw [reports, Bool.and_eq_true] at hp
    rcases h with h | h
    · exact ihp h hp.1
    · exact ihq h hp.2
  | plus greedy p ih =>
    obtain ⟨_, _, captured, later, rfl, rfl, hfirst, -, -⟩ := h
    obtain ⟨capture, hcapture, hname⟩ := ih hfirst hp
    exact ⟨capture, List.mem_append_right _ hcapture, hname⟩
  | capture other p ih =>
    obtain ⟨inner, rfl, hfits⟩ := h
    rcases Bool.or_eq_true_iff.mp hp with hother | hp
    · exact ⟨_, List.mem_cons_self, eq_of_beq hother⟩
    · obtain ⟨capture, hcapture, hname⟩ := ih hfits hp
      exact ⟨capture, List.mem_cons_of_mem _ hcapture, hname⟩

/-- A match has all the parts that its pattern always reports. -/
theorem StandsIn.capture?_ne_none {p : Pattern} {text : Text} {found : Match}
    {front taken behind name : Text} (h : p.StandsIn text found front taken behind)
    (hp : p.reports name = true) : found.capture? name ≠ none := by
  obtain ⟨capture, hcapture, rfl⟩ := exists_mem_captures_of_reports h.fits hp
  rw [Match.capture?, Ne, Option.map_eq_none_iff, List.find?_eq_none]
  intro hnone
  exact hnone capture hcapture (beq_self_eq_true capture.name)

/-! ### A sequence with one captured part -/

/-- Where a sequence reports one part of it, what stands before that part fits the patterns before
it, and what stands behind it those behind it. -/
theorem exists_captured_of_fits {ps qs : List Pattern} {name : Text} {body : Pattern}
    (hps : (sequence ps).isSilent = true) (hbody : body.isSilent = true)
    (hqs : (sequence qs).isSilent = true) {front taken behind : Text} {captures : List Capture}
    (h : (sequence (ps ++ capture name body :: qs)).Fits front taken behind captures) :
    ∃ lead part rest, taken = lead ++ (part ++ rest) ∧
      captures = [⟨name, byteSize (front ++ lead), byteSize (front ++ lead ++ part)⟩] ∧
      (sequence ps).Fits front lead (part ++ (rest ++ behind)) [] ∧
      (sequence qs).Fits (front ++ lead ++ part) rest behind [] := by
  obtain ⟨lead, _, _, _, rfl, rfl, hlead, hrest⟩ := (fits_sequence_append _ _).mp h
  obtain ⟨part, rest, _, _, rfl, rfl, hpart, hbehind⟩ := fits_sequence_cons.mp hrest
  obtain ⟨inner, rfl, hinner⟩ := fits_capture.mp hpart
  obtain rfl := hlead.captures_eq_nil hps
  obtain rfl := hinner.captures_eq_nil hbody
  obtain rfl := hbehind.captures_eq_nil hqs
  exact ⟨lead, part, rest, rfl, rfl, by simpa using hlead, hbehind⟩

end CfmlNav.Pattern
