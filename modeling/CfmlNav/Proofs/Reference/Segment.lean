import CfmlNav.Definition.References
import CfmlNav.Proofs.Automaton.Capture
import CfmlNav.Proofs.Comment.Blanking
import Mathlib.Data.List.DropRight

/-!
# The last segment of a path

A reference is found through the last segment of its path. The segment is a part of the text, not
empty and without a dot, and the path ends with it (`Reference.EndsPathIn`), whatever the form of
the reference is: dots behind the path are cut off before the segment is looked for, which leaves
the segment where it is. The segments of one form stand in the order of the text and share no
character.

A lookup asks for the segment with lines and columns. Between boundaries these are in the order of
the byte offsets, so it finds exactly the references whose segment contains the offset of the
cursor, both ends included (`referenced_eq_filterMap`).
-/

namespace CfmlNav

open Text

/-! ### The segment of a reference -/

/-- A reference whose name is the last segment of its path and stands at its place in a text. -/
structure Reference.EndsPathIn (reference : Reference) (text : Text) : Prop where
  name_ne_nil : reference.name ≠ []
  dot_notMem : '.' ∉ reference.name
  path_eq : reference.path = reference.name ∨
    ∃ parents, reference.path = parents ++ '.' :: reference.name
  slice?_eq : text.slice? ⟨reference.nameStart, reference.nameStop⟩ = some reference.name

theorem Reference.EndsPathIn.isPartOf {reference : Reference} {text : Text}
    (h : reference.EndsPathIn text) :
    ByteRange.IsPartOf ⟨reference.nameStart, reference.nameStop⟩ text :=
  ByteRange.isPartOf_iff.mpr (Option.isSome_of_eq_some h.slice?_eq)

namespace ReferencePattern

variable {form : ReferencePattern} {text : Text} {captured : ByteRange} {reference : Reference}

/-- The parents of a path are what is left before its last segment, with their last dot. -/
theorem reference?_eq (form : ReferencePattern) (text : Text) (captured : ByteRange) :
    let path : Text := (text.slice captured).rdropWhile (· == '.')
    let parents : Text := path.rdropWhile (· != '.')
    let name : Text := path.rtakeWhile (· != '.')
    form.reference? text captured =
      if name.isEmpty then none
      else some ⟨form.name, path, name, captured.start + parents.byteSize⟩ := by
  intro path parents name
  have hpath : parents ++ name = path := List.rdropWhile_append_rtakeWhile
  have htake : path.take (path.length - name.length) = parents := by
    rw [← hpath, List.length_append, Nat.add_sub_cancel, List.take_left]
  rw [← htake]
  rfl

/-- What a form captures is the parents of a reference, its name, and dots behind it. -/
theorem exists_pieces_of_reference? (h : form.reference? text captured = some reference) :
    ∃ parents dots, text.slice captured = parents ++ (reference.name ++ dots) ∧
      reference.path = parents ++ reference.name ∧ (∀ c ∈ parents.getLast?, c = '.') ∧
      reference.name ≠ [] ∧ '.' ∉ reference.name ∧
      reference.nameStart = captured.start + parents.byteSize := by
  let path : Text := (text.slice captured).rdropWhile (· == '.')
  let parents : Text := path.rdropWhile (· != '.')
  let name : Text := path.rtakeWhile (· != '.')
  have hpath : path ++ (text.slice captured).rtakeWhile (· == '.') = text.slice captured :=
    List.rdropWhile_append_rtakeWhile
  have hparents : parents ++ name = path := List.rdropWhile_append_rtakeWhile
  rw [reference?_eq] at h
  split at h
  next => simp at h
  next hname =>
    obtain rfl := Option.some_inj.mp h
    refine ⟨parents, (text.slice captured).rtakeWhile (· == '.'), ?_, hparents.symm, ?_,
      by simpa using hname, ?_, rfl⟩
    · rw [← List.append_assoc]
      exact ((congrArg (· ++ _) hparents).trans hpath).symm
    · intro c hc
      obtain ⟨init, hinit⟩ := List.getLast?_eq_some_iff.mp hc
      have hlast := List.rdropWhile_last_not (· != '.') path (by simp [parents, hinit])
      simpa [parents, hinit] using hlast
    · intro hdot
      simpa using List.mem_rtakeWhile_imp hdot

/-- The reference of a captured part ends its path in the text, within the part. -/
theorem endsPathIn_of_reference? (hcaptured : captured.IsPartOf text)
    (h : form.reference? text captured = some reference) :
    reference.EndsPathIn text ∧ captured.start ≤ reference.nameStart ∧
      reference.nameStop ≤ captured.stop := by
  obtain ⟨parents, dots, hslice, hpath, hlast, hne, hdot, hstart⟩ := exists_pieces_of_reference? h
  obtain ⟨front, part, behind, rfl, rfl⟩ := hcaptured
  have hpart : part = parents ++ (reference.name ++ dots) := by
    rw [← hslice, byteSize_append, ← List.append_assoc, slice_boundaries]
  have hstop : reference.nameStop = byteSize (front ++ parents ++ reference.name) := by
    rw [Reference.nameStop, hstart]
    simp only [byteSize_append]
  refine ⟨⟨hne, hdot, ?_, ?_⟩, ?_, ?_⟩
  · rcases List.eq_nil_or_concat parents with rfl | ⟨init, c, rfl⟩
    · exact .inl hpath
    · obtain rfl : c = '.' := hlast c (by simp)
      exact .inr ⟨init, by simpa using hpath⟩
  · refine slice?_eq_some_iff.mpr ⟨front ++ parents, dots ++ behind, ?_, ?_⟩
    · rw [hpart]
      simp
    · rw [hstop, hstart, byteSize_append front parents]
  · rw [hstart]
    exact Nat.le_add_right _ _
  · rw [hstop, hpart]
    simp only [byteSize_append]
    omega

/-- Every reference of every form ends its path in the text. -/
theorem endsPathIn_of_mem_find (h : reference ∈ form.find text) : reference.EndsPathIn text := by
  obtain ⟨found, hfound, hreference⟩ := List.mem_filterMap.mp h
  obtain ⟨captured, hcaptured, hpath⟩ := Option.bind_eq_some_iff.mp hreference
  have hpart := (form.form.staysIn_of_mem_findAll hfound).of_capture? hcaptured
  exact (endsPathIn_of_reference? hpart.1 hpath).1

/-- The segments of one form come in the order of the text and share no character. -/
theorem pairwise_find (form : ReferencePattern) (text : Text) :
    (form.find text).Pairwise fun reference later => reference.nameStop ≤ later.nameStart := by
  refine List.pairwise_filterMap.mpr ?_
  refine (form.form.pairwise_findAll text).imp_of_mem fun {found later} hfound hlater hle => ?_
  intro reference hreference reference' hreference'
  obtain ⟨captured, hcaptured, hpath⟩ := Option.bind_eq_some_iff.mp hreference
  obtain ⟨captured', hcaptured', hpath'⟩ := Option.bind_eq_some_iff.mp hreference'
  obtain ⟨hpart, -, hstop⟩ := (form.form.staysIn_of_mem_findAll hfound).of_capture? hcaptured
  obtain ⟨hpart', hstart, -⟩ := (form.form.staysIn_of_mem_findAll hlater).of_capture? hcaptured'
  have hbefore := (endsPathIn_of_reference? hpart hpath).2.2
  have hbehind := (endsPathIn_of_reference? hpart' hpath').2.1
  omega

end ReferencePattern

/-! ### Lookups -/

namespace Lookup

/-- Between boundaries, a lookup asks for byte offsets. -/
theorem isOn_iff {lookup : Lookup} {reference : Reference}
    (hposition : lookup.context.text.positionAt
      (lookup.context.text.offsetAt lookup.context.position) = lookup.context.position)
    (h : reference.EndsPathIn lookup.context.text) :
    lookup.isOn reference = true ↔
      reference.nameStart ≤ lookup.context.text.offsetAt lookup.context.position ∧
      lookup.context.text.offsetAt lookup.context.position ≤ reference.nameStop := by
  obtain ⟨hstart, hstop⟩ := h.isPartOf.isBoundary
  have hcursor := lookup.context.text.isBoundary_offsetAt lookup.context.position
  rw [← hstart.positionAt_le_iff hcursor, ← hcursor.positionAt_le_iff hstop, hposition, isOn,
    Span.contains, decide_eq_true_iff]
  rfl

/-- **References are found by the bytes of their last segment.** For all forms, every reference ends
its path in the text, and the references of one form come in the order of the text and share no
character of their names. At a position that the document has, a lookup finds, form by form, exactly
one component for each reference whose name contains the byte offset of the cursor, both ends
included, and whose path leads from the file of the document to a component that is known. -/
theorem referenced_eq_filterMap (file : FileId) (dialect : Dialect) (component : Option Component)
    {raw : Text} {position : Position} (registry : Registry) (options : Options)
    (hexists : ∃ front back, raw = front ++ back ∧ position = raw.positionAt front.byteSize) :
    let context := Context.build file dialect component raw position
    let lookup : Lookup := ⟨context, registry, options⟩
    let offset := context.text.offsetAt position
    (∀ form ∈ options.references,
      (∀ reference ∈ form.find context.text, reference.EndsPathIn context.text) ∧
      (form.find context.text).Pairwise fun reference later =>
        reference.nameStop ≤ later.nameStart) ∧
    lookup.referenced = options.references.flatMap fun form =>
      (form.find context.text).filterMap fun reference =>
        if reference.nameStart ≤ offset ∧ offset ≤ reference.nameStop then
          ((registry.resolve? reference.path file).bind registry.component?).map Target.ofComponent
        else none := by
  intro context lookup offset
  have hposition : context.text.positionAt (context.text.offsetAt position) = position :=
    (Comment.sameLayout_strip dialect raw).positionAt_offsetAt hexists
  refine ⟨fun form _ => ⟨fun reference => form.endsPathIn_of_mem_find, form.pairwise_find _⟩, ?_⟩
  have hon {form : ReferencePattern} {reference : Reference}
      (hreference : reference ∈ form.find context.text) :
      lookup.isOn reference = true ↔
        reference.nameStart ≤ offset ∧ offset ≤ reference.nameStop :=
    @isOn_iff lookup reference hposition (form.endsPathIn_of_mem_find hreference)
  rw [referenced, ReferencePattern.findAll, List.filter_flatMap, List.filterMap_flatMap]
  refine List.flatMap_congr fun form _ => ?_
  rw [List.filterMap_filter]
  refine List.filterMap_congr fun reference hreference => ?_
  simp only [hon hreference]
  rfl

/-- A cursor directly behind the name of a component, in a line with a character of two bytes. -/
theorem referenced_models_user :
    let user : Component := { file := ⟨0⟩, name := "User".toList, range := ⟨⟨0, 0⟩, ⟨0, 9⟩⟩ }
    let registry : Registry :=
      { component? := fun file => if file = ⟨0⟩ then some user else none
        resolve? := fun path _ => if path = "models.User".toList then some ⟨0⟩ else none }
    let raw : Text := "/*é*/ u = new models.User();".toList
    (∃ front back, raw = front ++ back ∧ (⟨0, 25⟩ : Position) = raw.positionAt front.byteSize) ∧
      Lookup.referenced ⟨Context.build ⟨1⟩ .script none raw ⟨0, 25⟩, registry, {}⟩ =
        [Target.ofComponent user] := by
  intro user registry raw
  have hexists : ∃ front back, raw = front ++ back ∧
      (⟨0, 25⟩ : Position) = raw.positionAt front.byteSize :=
    ⟨"/*é*/ u = new models.User".toList, "();".toList, by decide, by decide⟩
  refine ⟨hexists, ?_⟩
  rw [(referenced_eq_filterMap ⟨1⟩ .script none registry {} hexists).2]
  decide +kernel

end Lookup

end CfmlNav
