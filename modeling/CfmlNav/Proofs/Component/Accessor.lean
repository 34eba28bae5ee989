import CfmlNav.Definition.Variables
import CfmlNav.Proofs.Component.Declaration
import CfmlNav.Workspace
import Mathlib.Data.Fintype.Card

/-!
# Calls of generated accessors

A call leads to a property if it goes through `this` to a getter or a setter that is generated, and
a function of that name, once written, takes the place of the accessor. The name of the accessor is
asked for among the functions and compared with the word of the call, and both go by keys, so a
written function counts exactly if it has the word as its name (`Lookup.isGenerated_eq`).

The properties of a component have different keys, but the accessors are told apart by the keys of
longer names, in which the name of the property stands behind letters. Of two properties with one
accessor only one can open with a lone capital sigma (`Name.key_eq_of_keyBehindLetters_eq`), so
there are never three, and where there are two, the other one has the final sigma in this place
(`Lookup.length_generatedAccessors`).
-/

namespace CfmlNav

open Text

theorem Component.function?_congr {component : Component} {a b : Text} (h : Name.same a b = true) :
    component.function? a = component.function? b := by
  rw [function?, function?, Name.same_iff_key_eq.mp h]

namespace Lookup

open Component

variable {lookup : Lookup} {component : Component} {p q : Property}

/-- Whether a call leads to a property of a component: accessors are generated, the word is called
through `this` and names the getter or the setter of the property, which is not switched off, and no
function of this name is written. -/
structure CallsAccessor (lookup : Lookup) (component : Component) (p : Property) : Prop where
  isDeclared : component.property? p.name = some p
  areGenerated : component.accessors = true
  isQualified : lookup.requires [.this] = true
  isCall : lookup.context.isCall = true
  isNamed : Name.same ("get".toList ++ p.name) lookup.word = true ∧ p.getter ≠ .disabled ∨
    Name.same ("set".toList ++ p.name) lookup.word = true ∧ p.setter ≠ .disabled
  isUnwritten : component.function? lookup.word = none

/-! ### Names of accessors -/

/-- An accessor with the name of the word is generated unless a function of that name is written. -/
theorem isGenerated_eq (lookup : Lookup) (component : Component) (accessor : Text × AccessorFlag) :
    isGenerated component lookup.word accessor =
      (Name.same accessor.1 lookup.word && accessor.2 != .disabled &&
        (component.function? lookup.word).isNone) := by
  rw [isGenerated]
  cases hsame : Name.same accessor.1 lookup.word with
  | false => simp
  | true => rw [function?_congr hsame, Bool.and_true, Bool.true_and]

/-- The verbs of accessors are words of ASCII that end in a letter. -/
theorem key_getter (name : Text) :
    Name.key ("get".toList ++ name) = "get".toList ++ Name.keyBehindLetters name :=
  Name.key_append (by decide) (by decide +kernel) name

theorem key_setter (name : Text) :
    Name.key ("set".toList ++ name) = "set".toList ++ Name.keyBehindLetters name :=
  Name.key_append (by decide) (by decide +kernel) name

theorem key_getter_ne_key_setter (name other : Text) :
    Name.key ("get".toList ++ name) ≠ Name.key ("set".toList ++ other) := by
  intro h
  rw [key_getter, key_setter] at h
  exact absurd (List.cons.inj h).1 (by decide)

/-- Whether an accessor of a property has the name of the word and is not switched off. -/
def isNamedBy (lookup : Lookup) (p : Property) : Bool :=
  (accessorNames p).any fun accessor => Name.same accessor.1 lookup.word && accessor.2 != .disabled

theorem isNamedBy_iff : lookup.isNamedBy p = true ↔
    Name.same ("get".toList ++ p.name) lookup.word = true ∧ p.getter ≠ .disabled ∨
      Name.same ("set".toList ++ p.name) lookup.word = true ∧ p.setter ≠ .disabled := by
  simp [isNamedBy, accessorNames]

/-- Properties with an accessor of one name are one behind letters. -/
theorem keyBehindLetters_eq_of_isNamedBy (hp : lookup.isNamedBy p = true)
    (hq : lookup.isNamedBy q = true) :
    Name.keyBehindLetters p.name = Name.keyBehindLetters q.name := by
  simp only [isNamedBy_iff, Name.same_iff_key_eq] at hp hq
  rcases hp with ⟨hp, -⟩ | ⟨hp, -⟩ <;> rcases hq with ⟨hq, -⟩ | ⟨hq, -⟩
  · have hkey := hp.trans hq.symm
    rw [key_getter, key_getter] at hkey
    exact List.append_cancel_left hkey
  · exact absurd (hp.trans hq.symm) (key_getter_ne_key_setter _ _)
  · exact absurd (hq.trans hp.symm) (key_getter_ne_key_setter _ _)
  · have hkey := hp.trans hq.symm
    rw [key_setter, key_setter] at hkey
    exact List.append_cancel_left hkey

theorem keyBehindLetters_eq_of_calls (hp : lookup.CallsAccessor component p)
    (hq : lookup.CallsAccessor component q) :
    Name.keyBehindLetters p.name = Name.keyBehindLetters q.name :=
  keyBehindLetters_eq_of_isNamedBy (isNamedBy_iff.mpr hp.isNamed) (isNamedBy_iff.mpr hq.isNamed)

/-- A getter and a setter have different names, so a call leads to a property once at most. -/
theorem map_filter_isGenerated (hunwritten : component.function? lookup.word = none) (p : Property)
    (t : Target) :
    ((accessorNames p).filter (isGenerated component lookup.word)).map (fun _ => t) =
      if lookup.isNamedBy p then [t] else [] := by
  have hgenerated : isGenerated component lookup.word = fun accessor =>
      Name.same accessor.1 lookup.word && accessor.2 != .disabled := by
    funext accessor
    rw [isGenerated_eq, hunwritten, Option.isNone_none, Bool.and_true]
  -- of the two accessors one passes at most
  have hpair {α : Type} {q : α → Bool} {x y : α} (hnot : ¬ (q x = true ∧ q y = true)) :
      ([x, y].filter q).map (fun _ => t) = if [x, y].any q then [t] else [] := by
    cases hx : q x <;> cases hy : q y <;> simp_all
  rw [hgenerated, isNamedBy, accessorNames]
  refine hpair fun hboth => key_getter_ne_key_setter p.name p.name ?_
  simp only [Bool.and_eq_true, Name.same_iff_key_eq] at hboth
  exact hboth.1.1.trans hboth.2.1.symm

/-! ### The called properties -/

/-- The properties of a component that a call leads to, in order. -/
def calledProperties (lookup : Lookup) (component : Component) : List Property :=
  if component.accessors && lookup.requires [.this] && lookup.context.isCall &&
      (component.function? lookup.word).isNone then
    (component.properties.map Prod.snd).filter lookup.isNamedBy
  else []

/-- No accessor is without a name. -/
theorem hasWord_of_isNamedBy (h : lookup.isNamedBy p = true) : lookup.hasWord = true := by
  rw [hasWord, Bool.not_eq_true', List.isEmpty_eq_false_iff]
  intro hword
  simp only [isNamedBy_iff, Name.same_iff_key_eq, hword, key_getter, key_setter] at h
  rcases h with ⟨h, -⟩ | ⟨h, -⟩
  · exact List.cons_ne_nil _ _ h
  · exact List.cons_ne_nil _ _ h

/-- The accessors of the properties that have the name of the word, unless a function has it. -/
theorem flatMap_accessors (lookup : Lookup) (component : Component) :
    (component.properties.flatMap fun (_, p) =>
      ((accessorNames p).filter (isGenerated component lookup.word)).map fun _ =>
        Target.ofProperty component.file p) =
      if (component.function? lookup.word).isNone then
        ((component.properties.map Prod.snd).filter lookup.isNamedBy).map
          (Target.ofProperty component.file)
      else [] := by
  cases hwritten : component.function? lookup.word with
  | some f => simp [isGenerated_eq, hwritten]
  | none =>
    simp only [map_filter_isGenerated hwritten, Option.isNone_none, if_true]
    induction component.properties with
    | nil => rfl
    | cons entry properties ih =>
      rw [List.flatMap_cons, ih, List.map_cons, List.filter_cons]
      split <;> rfl

/-- The targets of a call are the properties that it leads to. -/
theorem generatedAccessors_eq (lookup : Lookup) (component : Component) :
    lookup.generatedAccessors component =
      (lookup.calledProperties component).map (Target.ofProperty component.file) := by
  rw [generatedAccessors, flatMap_accessors, calledProperties]
  cases hword : lookup.hasWord with
  | true =>
    rw [Bool.true_and]
    cases component.accessors && lookup.requires [.this] && lookup.context.isCall with
    | false => rfl
    | true => cases (component.function? lookup.word).isNone <;> rfl
  | false =>
    have hnone : (component.properties.map Prod.snd).filter lookup.isNamedBy = [] := by
      refine List.filter_eq_nil_iff.mpr fun p _ hnamed => ?_
      rw [hasWord_of_isNamedBy hnamed] at hword
      contradiction
    simp [hnone]

/-! ### Lists that are told apart by one bit -/

section Apart

variable {α : Type} {f : α → Bool} {values : List α}

theorem length_le_two_of_pairwise_ne (h : values.Pairwise fun a b => f a ≠ f b) :
    values.length ≤ 2 := by
  have hnodup : (values.map f).Nodup := List.pairwise_map.mpr h
  simpa using hnodup.length_le_card

theorem length_eq_two_iff_of_pairwise_ne (h : values.Pairwise fun a b => f a ≠ f b) :
    values.length = 2 ↔ (∃ a ∈ values, f a = true) ∧ ∃ b ∈ values, f b = false := by
  constructor
  · intro hlength
    obtain ⟨a, b, rfl⟩ := List.length_eq_two.mp hlength
    have hne : f a ≠ f b := by simpa using h
    cases ha : f a with
    | true => exact ⟨⟨a, by simp, ha⟩, b, by simp, by simpa [ha] using hne.symm⟩
    | false => exact ⟨⟨b, by simp, by simpa [ha] using hne.symm⟩, a, by simp, ha⟩
  · rintro ⟨⟨a, ha, htrue⟩, b, hb, hfalse⟩
    have hne : a ≠ b := by
      rintro rfl
      exact absurd (htrue.symm.trans hfalse) (by decide)
    have hpair : [a, b] ⊆ values :=
      List.cons_subset.mpr ⟨ha, List.cons_subset.mpr ⟨hb, List.nil_subset values⟩⟩
    have hnodup : [a, b].Nodup := List.nodup_cons.mpr ⟨by simpa using hne, List.nodup_singleton b⟩
    exact Nat.le_antisymm (length_le_two_of_pairwise_ne h) (hnodup.length_le_of_subset hpair)

end Apart

/-! ### Components made by declarations -/

section Declarations

variable (file : FileId) (name : Text) (range : Span) (declarations : List Declaration)

/-- A call leads to the declared properties that it names. -/
theorem mem_calledProperties_iff (lookup : Lookup) (p : Property) :
    p ∈ lookup.calledProperties (ofDeclarations file name range declarations) ↔
      lookup.CallsAccessor (ofDeclarations file name range declarations) p := by
  have hdeclared : p ∈ (ofDeclarations file name range declarations).properties.map Prod.snd ↔
      (ofDeclarations file name range declarations).property? p.name = some p :=
    (isKeyed_properties file name range declarations).mem_iff
  rw [calledProperties]
  split
  next hactive =>
    simp only [Bool.and_eq_true, Option.isNone_iff_eq_none] at hactive
    obtain ⟨⟨⟨haccessors, hqualified⟩, hcall⟩, hunwritten⟩ := hactive
    rw [List.mem_filter, hdeclared, isNamedBy_iff]
    constructor
    · rintro ⟨hp, hnamed⟩
      exact ⟨hp, haccessors, hqualified, hcall, hnamed, hunwritten⟩
    · intro h
      exact ⟨h.isDeclared, h.isNamed⟩
  next hinactive =>
    refine iff_of_false List.not_mem_nil fun h => hinactive ?_
    simp only [h.areGenerated, h.isQualified, h.isCall, h.isUnwritten]
    rfl

/-- **A written function takes the place of an accessor.** Where a function is declared that has the
name of the word, whatever its access level, the call leads to no property, and otherwise it leads
to those properties whose getter or setter it names and nothing else. -/
theorem written_function_suppresses_accessor (lookup : Lookup) :
    let component := ofDeclarations file name range declarations
    (∀ f, Declaration.function f ∈ declarations → Name.same f.name lookup.word = true →
      lookup.generatedAccessors component = []) ∧
    ∀ target, target ∈ lookup.generatedAccessors component ↔
      ∃ p, lookup.CallsAccessor component p ∧ target = Target.ofProperty component.file p := by
  intro component
  have htargets (target : Target) : target ∈ lookup.generatedAccessors component ↔
      ∃ p, lookup.CallsAccessor component p ∧ target = Target.ofProperty component.file p := by
    rw [generatedAccessors_eq, List.mem_map]
    simp only [component, mem_calledProperties_iff, eq_comm]
  refine ⟨fun f hf hsame => List.eq_nil_iff_forall_not_mem.mpr fun target hmem => ?_, htargets⟩
  obtain ⟨p, hp, -⟩ := (htargets target).mp hmem
  have hunwritten := hp.isUnwritten
  rw [function?_ofDeclarations, List.find?_eq_none] at hunwritten
  exact hunwritten f (List.mem_filterMap.mpr ⟨.function f, hf, rfl⟩) hsame

/-- A property `kind` and, in the second component, a private function that is written with the
Kelvin sign: the getter is found in the first component and counts as written in the second. -/
theorem written_function_suppresses_accessor_kelvin :
    let range : Span := ⟨⟨0, 0⟩, ⟨0, 0⟩⟩
    let kind : Property := ⟨"kind".toList, range, none, .inherit, .disabled⟩
    let getter : Function := ⟨"get\u212Aind".toList, range, .privateAccess, [], none, none⟩
    let declarations := [Declaration.property kind, .accessors true]
    let component := ofDeclarations ⟨0⟩ [] range declarations
    let written := ofDeclarations ⟨0⟩ [] range (.function getter :: declarations)
    let lookup (component : Component) : Lookup :=
      ⟨.ofComponent component "this.GetKind()".toList ⟨0, 8⟩, ({} : Workspace).registry, {}⟩
    Name.same getter.name (lookup written).word = true ∧
      (lookup written).generatedAccessors written = [] ∧
      Target.ofProperty ⟨0⟩ kind ∈ (lookup component).generatedAccessors component := by
  intro range kind getter declarations component written lookup
  have hsame : Name.same getter.name (lookup written).word = true := by decide +kernel
  have hcalls : (lookup component).CallsAccessor component kind := by
    constructor
    · decide +kernel
    · decide +kernel
    · decide +kernel
    · decide +kernel
    · decide +kernel
    · decide +kernel
  refine ⟨hsame, ?_, ?_⟩
  · exact (written_function_suppresses_accessor ⟨0⟩ [] range (.function getter :: declarations)
      (lookup written)).1 getter List.mem_cons_self hsame
  · exact ((written_function_suppresses_accessor ⟨0⟩ [] range declarations
      (lookup component)).2 _).mpr ⟨kind, hcalls, rfl⟩

/-- Of the called properties one opens with a lone capital sigma at most, and one does not. -/
theorem pairwise_calledProperties (lookup : Lookup) :
    (lookup.calledProperties (ofDeclarations file name range declarations)).Pairwise fun p q =>
      Name.opensWithLoneSigma p.name ≠ Name.opensWithLoneSigma q.name := by
  rw [calledProperties]
  split
  next =>
    have hkeys := (isKeyed_properties file name range declarations).pairwise
    refine (hkeys.filter lookup.isNamedBy).imp_of_mem fun hp hq hne hsigma => hne ?_
    have hbehind := keyBehindLetters_eq_of_isNamedBy (List.mem_filter.mp hp).2
      (List.mem_filter.mp hq).2
    exact Name.key_eq_of_keyBehindLetters_eq hbehind hsigma
  next => exact List.Pairwise.nil

/-- **A call leads to two properties at most**, and to two only if one of them opens with a lone
capital sigma, which is final behind the verb, and the other has the final sigma in its place. -/
theorem length_generatedAccessors (lookup : Lookup) :
    let component := ofDeclarations file name range declarations
    (lookup.generatedAccessors component).length ≤ 2 ∧
    ((lookup.generatedAccessors component).length = 2 ↔
      ∃ p q, lookup.CallsAccessor component p ∧ lookup.CallsAccessor component q ∧
        Name.opensWithLoneSigma p.name = true ∧
        Name.key q.name = Name.keyBehindLetters p.name) := by
  intro component
  have hcalled (p : Property) : p ∈ lookup.calledProperties component ↔
      lookup.CallsAccessor component p :=
    mem_calledProperties_iff file name range declarations lookup p
  have hpairwise := pairwise_calledProperties file name range declarations lookup
  rw [generatedAccessors_eq, List.length_map, length_eq_two_iff_of_pairwise_ne hpairwise]
  refine ⟨length_le_two_of_pairwise_ne hpairwise, ?_, ?_⟩
  · rintro ⟨⟨p, hp, hsigma⟩, q, hq, hother⟩
    have hbehind := keyBehindLetters_eq_of_calls ((hcalled q).mp hq) ((hcalled p).mp hp)
    refine ⟨p, q, (hcalled p).mp hp, (hcalled q).mp hq, hsigma, ?_⟩
    rw [← Name.keyBehindLetters_eq_key hother, hbehind]
  · rintro ⟨p, q, hp, hq, hsigma, hkey⟩
    have hbehind := keyBehindLetters_eq_of_calls hq hp
    have hother : Name.opensWithLoneSigma q.name = false := Bool.eq_false_iff.mpr fun h =>
      Name.keyBehindLetters_ne_key_iff.mpr h (hbehind.trans hkey.symm)
    exact ⟨⟨p, (hcalled p).mpr hp, hsigma⟩, q, (hcalled q).mpr hq, hother⟩

/-- The capital sigma and the final sigma are two properties with one getter. -/
example :
    let range : Span := ⟨⟨0, 0⟩, ⟨0, 0⟩⟩
    let component := ofDeclarations ⟨0⟩ [] range
      [.property ⟨['Σ'], range, none, .inherit, .inherit⟩,
        .property ⟨['ς'], range, none, .inherit, .inherit⟩, .accessors true]
    let lookup : Lookup :=
      ⟨.ofComponent component "this.getς()".toList ⟨0, 9⟩, ({} : Workspace).registry, {}⟩
    (lookup.generatedAccessors component).map Target.name = [['Σ'], ['ς']] := by
  decide +kernel

end Declarations

end Lookup

end CfmlNav
