import CfmlNav.Definition.Functions

/-!
# The first reachable declaration wins

The chain of a call is the sequence of a component, its base, the base of its base and so on, cut
before the first component whose file has come up before and after as many components as the
options allow. It is described here by places: `OnChain place component` says what stands where,
and nothing in it mentions a walk. Files may come up again at any distance, so chains of cyclic
components are chains like any other.

The walk of `inheritedFunction?` keeps an invariant (`StandsAt`): it stands at a place of the
sequence, the files it has visited are those of the places before, and none of these has come up
twice. One step either ends the chain or keeps the invariant at the next place
(`StandsAt.not_onChain_of_visited`, `StandsAt.step`), and a whole walk finds the first reachable
declaration from where it stands, if there is one (`StandsAt.walkResult`). A call therefore leads to
the first reachable declaration on its chain and to nothing else
(`calledFunction_first_reachable`).
-/

namespace CfmlNav

/-- What stands at a place of the sequence of a component, its base, the base of its base and so
on. -/
def Registry.ancestor? (registry : Registry) (start : Option Component) : Nat → Option Component
  | 0 => start
  | place + 1 => (registry.ancestor? start place).bind registry.base?

/-- The file of what stands at a place. -/
def Registry.ancestorFile? (registry : Registry) (start : Option Component) (place : Nat) :
    Option FileId :=
  (registry.ancestor? start place).map Component.file

namespace Registry

variable {registry : Registry} {start : Option Component}

/-- Behind a place where nothing stands there is nothing. -/
theorem ancestor?_eq_none_of_le {place later : Nat} (h : registry.ancestor? start place = none)
    (hle : place ≤ later) : registry.ancestor? start later = none := by
  induction hle with
  | refl => exact h
  | step _ ih => rw [ancestor?, ih, Option.bind_none]

end Registry

namespace Lookup

/-! ### Chains -/

/-- A component at a place of the chain from `start`: the place is within the depth, and up to it
no file has come up twice. -/
structure OnChain (lookup : Lookup) (start : Option Component) (place : Nat)
    (component : Component) : Prop where
  inDepth : place < lookup.options.inheritanceDepth
  isAncestor : lookup.registry.ancestor? start place = some component
  noReturn : ∀ j ≤ place, ∀ i < j,
    lookup.registry.ancestorFile? start i ≠ lookup.registry.ancestorFile? start j

/-- A function of the word that stands at a place of a chain and can be reached there. -/
structure DeclaredAt (lookup : Lookup) (reachable : Function → Bool) (start : Option Component)
    (place : Nat) (owner : Component) (f : Function) : Prop where
  onChain : lookup.OnChain start place owner
  declares : owner.function? lookup.word = some f
  reaches : reachable f = true

/-- There is no function of the word at a place of a chain that can be reached. -/
def BareAt (lookup : Lookup) (reachable : Function → Bool) (start : Option Component)
    (place : Nat) : Prop :=
  ∀ owner f, ¬ lookup.DeclaredAt reachable start place owner f

/-- The first function of the word on a chain that can be reached. -/
structure FirstDeclaredAt (lookup : Lookup) (reachable : Function → Bool)
    (start : Option Component) (place : Nat) (owner : Component) (f : Function) : Prop
    extends lookup.DeclaredAt reachable start place owner f where
  bareBefore : ∀ earlier < place, lookup.BareAt reachable start earlier

variable {lookup : Lookup} {reachable : Function → Bool} {start : Option Component}

/-- There is one first function at most. -/
theorem FirstDeclaredAt.unique {place place' : Nat} {owner owner' : Component} {f f' : Function}
    (h : lookup.FirstDeclaredAt reachable start place owner f)
    (h' : lookup.FirstDeclaredAt reachable start place' owner' f') : owner = owner' ∧ f = f' := by
  have hplace : place = place' := by
    rcases Nat.lt_trichotomy place place' with hlt | heq | hlt
    · exact absurd h.toDeclaredAt (h'.bareBefore place hlt owner f)
    · exact heq
    · exact absurd h'.toDeclaredAt (h.bareBefore place' hlt owner' f')
  subst hplace
  obtain rfl : owner = owner' := by
    have hsome := h.onChain.isAncestor
    rw [h'.onChain.isAncestor] at hsome
    exact (Option.some.inj hsome).symm
  refine ⟨rfl, ?_⟩
  have hsome := h.declares
  rw [h'.declares] at hsome
  exact (Option.some.inj hsome).symm

/-! ### The walk -/

/-- The invariant of the walk: it stands at a place with a component, the files it has visited are
those of the places before, and among these no file has come up twice. -/
structure StandsAt (lookup : Lookup) (start : Option Component) (place : Nat)
    (visited : List FileId) (component : Component) : Prop where
  isAncestor : lookup.registry.ancestor? start place = some component
  mem_visited : ∀ file, file ∈ visited ↔
    ∃ i < place, lookup.registry.ancestorFile? start i = some file
  noReturn : ∀ j < place, ∀ i < j,
    lookup.registry.ancestorFile? start i ≠ lookup.registry.ancestorFile? start j

namespace StandsAt

variable {place : Nat} {visited : List FileId} {component : Component}

/-- The walk begins at the start and has visited nothing. -/
theorem init (lookup : Lookup) (component : Component) :
    lookup.StandsAt (some component) 0 [] component where
  isAncestor := rfl
  mem_visited file := by simp
  noReturn j hj := absurd hj (Nat.not_lt_zero j)

theorem ancestorFile?_eq (h : lookup.StandsAt start place visited component) :
    lookup.registry.ancestorFile? start place = some component.file := by
  rw [Registry.ancestorFile?, h.isAncestor, Option.map_some]

/-- At a file that it has visited the walk is behind the end of the chain. -/
theorem not_onChain_of_visited (h : lookup.StandsAt start place visited component)
    (hvisited : component.file ∈ visited) {later : Nat} (hle : place ≤ later)
    (other : Component) : ¬ lookup.OnChain start later other := by
  intro hchain
  obtain ⟨i, hi, hfile⟩ := (h.mem_visited component.file).mp hvisited
  exact hchain.noReturn place hle i hi (hfile.trans h.ancestorFile?_eq.symm)

/-- Behind a component without a base there is nothing on the chain. -/
theorem not_onChain_of_base_none (h : lookup.StandsAt start place visited component)
    (hbase : lookup.registry.base? component = none) {later : Nat} (hlt : place < later)
    (other : Component) : ¬ lookup.OnChain start later other := by
  intro hchain
  have hnone : lookup.registry.ancestor? start (place + 1) = none := by
    rw [Registry.ancestor?, h.isAncestor, Option.bind_some, hbase]
  have hlater := hchain.isAncestor
  rw [Registry.ancestor?_eq_none_of_le hnone hlt] at hlater
  contradiction

/-- Up to a file that is new no file has come up twice. -/
theorem noReturn_of_fresh (h : lookup.StandsAt start place visited component)
    (hfresh : component.file ∉ visited) : ∀ j ≤ place, ∀ i < j,
      lookup.registry.ancestorFile? start i ≠ lookup.registry.ancestorFile? start j := by
  intro j hj i hi heq
  rcases Nat.lt_or_eq_of_le hj with hlt | rfl
  · exact h.noReturn j hlt i hi heq
  · exact hfresh ((h.mem_visited _).mpr ⟨i, hi, heq.trans h.ancestorFile?_eq⟩)

/-- **One step.** From a file that is new the walk goes on to the base. -/
theorem step (h : lookup.StandsAt start place visited component)
    (hfresh : component.file ∉ visited) {base : Component}
    (hbase : lookup.registry.base? component = some base) :
    lookup.StandsAt start (place + 1) (component.file :: visited) base where
  isAncestor := by rw [Registry.ancestor?, h.isAncestor, Option.bind_some, hbase]
  mem_visited file := by
    rw [List.mem_cons, h.mem_visited]
    constructor
    · rintro (rfl | ⟨i, hi, hfile⟩)
      · exact ⟨place, Nat.lt_succ_self place, h.ancestorFile?_eq⟩
      · exact ⟨i, Nat.lt_succ_of_lt hi, hfile⟩
    · rintro ⟨i, hi, hfile⟩
      rcases Nat.lt_succ_iff_lt_or_eq.mp hi with hlt | rfl
      · exact .inr ⟨i, hlt, hfile⟩
      · rw [h.ancestorFile?_eq] at hfile
        exact .inl (Option.some.inj hfile).symm
  noReturn j hj := h.noReturn_of_fresh hfresh j (Nat.le_of_lt_succ hj)

end StandsAt

/-- What a walk that stands at a place may give: the first reachable function from there on, or
nothing if there is none. -/
inductive WalkResult (lookup : Lookup) (reachable : Function → Bool) (start : Option Component)
    (place : Nat) : Option (Component × Function) → Prop
  | found {later : Nat} {owner : Component} {f : Function} (hle : place ≤ later)
      (hfound : lookup.DeclaredAt reachable start later owner f)
      (hbefore : ∀ earlier, place ≤ earlier → earlier < later →
        lookup.BareAt reachable start earlier) :
      lookup.WalkResult reachable start place (some (owner, f))
  | notFound (hbare : ∀ later, place ≤ later → lookup.BareAt reachable start later) :
      lookup.WalkResult reachable start place none

/-- What is found behind a place without a reachable function is found from that place on. -/
theorem WalkResult.of_succ {place : Nat} {result : Option (Component × Function)}
    (hbare : lookup.BareAt reachable start place)
    (h : lookup.WalkResult reachable start (place + 1) result) :
    lookup.WalkResult reachable start place result := by
  cases h with
  | found hle hfound hbefore =>
    refine .found (Nat.le_of_succ_le hle) hfound fun earlier hplace hlater => ?_
    rcases Nat.lt_or_eq_of_le hplace with hlt | rfl
    · exact hbefore earlier hlt hlater
    · exact hbare
  | notFound hnone =>
    refine .notFound fun later hplace => ?_
    rcases Nat.lt_or_eq_of_le hplace with hlt | rfl
    · exact hnone later hlt
    · exact hbare

/-- **The whole walk.** With the steps that are left of the depth, the walk finds the first
reachable function from where it stands. -/
theorem StandsAt.walkResult {place steps : Nat} {visited : List FileId} {component : Component}
    (h : lookup.StandsAt start place visited component)
    (hsteps : place + steps = lookup.options.inheritanceDepth) :
    lookup.WalkResult reachable start place
      (lookup.inheritedFunction? reachable steps visited component) := by
  induction steps generalizing place visited component with
  | zero =>
    -- the place is the depth, and the chain ends before it
    refine .notFound fun later hle owner f hdeclared => ?_
    have hdepth := hdeclared.onChain.inDepth
    omega
  | succ steps ih =>
    rw [inheritedFunction?]
    by_cases hvisited : component.file ∈ visited
    · rw [if_pos (List.contains_iff_mem.mpr hvisited)]
      exact .notFound fun later hle owner f hdeclared =>
        h.not_onChain_of_visited hvisited hle owner hdeclared.onChain
    · rw [if_neg (mt List.contains_iff_mem.mp hvisited)]
      -- what the chain has at this place is what the walk looks at
      have hhere {owner : Component} {f : Function}
          (hdeclared : lookup.DeclaredAt reachable start place owner f) :
          (component.function? lookup.word).filter reachable = some f := by
        have howner := hdeclared.onChain.isAncestor
        rw [h.isAncestor] at howner
        obtain rfl := Option.some.inj howner
        rw [hdeclared.declares, Option.filter_some_pos hdeclared.reaches]
      cases hfunction : (component.function? lookup.word).filter reachable with
      | some f =>
        obtain ⟨hdeclares, hreaches⟩ := Option.filter_eq_some_iff.mp hfunction
        have hchain : lookup.OnChain start place component :=
          ⟨by omega, h.isAncestor, h.noReturn_of_fresh hvisited⟩
        exact .found (Nat.le_refl place) ⟨hchain, hdeclares, hreaches⟩
          fun earlier hle hlt => absurd hlt (Nat.not_lt_of_le hle)
      | none =>
        have hbare : lookup.BareAt reachable start place := by
          intro owner f hdeclared
          rw [hhere hdeclared] at hfunction
          contradiction
        cases hbase : lookup.registry.base? component with
        | none =>
          refine WalkResult.of_succ hbare (.notFound fun later hle owner f hdeclared => ?_)
          exact h.not_onChain_of_base_none hbase hle owner hdeclared.onChain
        | some base => exact WalkResult.of_succ hbare (ih (h.step hvisited hbase) (by omega))

/-! ### Calls -/

/-- Whether a call in a component is one through `super` to its base. -/
def callsBase (lookup : Lookup) (component : Component) : Bool :=
  component.base.isSome && lookup.requires [.super]

/-- The start of the chain of a call: the base, if there is one, for a call through `super`, else
the component itself. -/
def chainStart (lookup : Lookup) (component : Component) : Option Component :=
  if lookup.callsBase component then lookup.registry.base? component else some component

/-- Whether a call reaches a function: through `super` every one, else a private one alone or
through `variables`, and any other through `this` as well. -/
def reaches (lookup : Lookup) (component : Component) (f : Function) : Bool :=
  lookup.callsBase component ||
    if f.access = .privateAccess then lookup.allows [.vars] else lookup.allows [.vars, .this]

theorem walkStart_eq (lookup : Lookup) (component : Component) :
    lookup.walkStart component = (lookup.chainStart component, lookup.reaches component) := by
  rw [walkStart, chainStart, ← callsBase]
  by_cases hbase : lookup.callsBase component = true
  · have hall : lookup.reaches component = fun _ => true := by
      funext f
      rw [reaches, hbase, Bool.true_or]
    rw [if_pos hbase, if_pos hbase, hall]
  · have hscopes : lookup.reaches component = fun f => lookup.allows f.access.callableScopes := by
      funext f
      rw [reaches, Bool.eq_false_iff.mpr hbase, Bool.false_or]
      cases f.access <;> rfl
    rw [if_neg hbase, if_neg hbase, hscopes]

/-- A call leads to what the walk along its chain gives. -/
theorem exists_walkResult_calledFunction (component : Component) (hword : lookup.word ≠ [])
    (hcall : lookup.context.isCall = true) :
    ∃ result, lookup.WalkResult (lookup.reaches component) (lookup.chainStart component) 0 result ∧
      lookup.calledFunction component =
        (result.map fun (owner, f) => Target.ofFunction owner.file f).toList := by
  have hhas : lookup.hasWord = true := by simpa [hasWord] using hword
  refine ⟨(lookup.chainStart component).bind fun start =>
    lookup.inheritedFunction? (lookup.reaches component) lookup.options.inheritanceDepth [] start,
    ?_, ?_⟩
  · cases lookup.chainStart component with
    | none =>
      refine .notFound fun later hle owner f hdeclared => ?_
      have hnone : lookup.registry.ancestor? none later = none :=
        Registry.ancestor?_eq_none_of_le rfl hle
      rw [hdeclared.onChain.isAncestor] at hnone
      contradiction
    | some start => exact (StandsAt.init lookup start).walkResult (Nat.zero_add _)
  · rw [calledFunction, hhas, hcall, walkStart_eq]
    rfl

/-- The whole walk finds a function exactly if it is the first on the chain. -/
theorem WalkResult.eq_some_iff {result : Option (Component × Function)}
    (h : lookup.WalkResult reachable start 0 result) {owner : Component} {f : Function} :
    result = some (owner, f) ↔ ∃ place, lookup.FirstDeclaredAt reachable start place owner f := by
  cases h with
  | @found place owner' f' hle hdeclared hbefore =>
    have hfirst : lookup.FirstDeclaredAt reachable start place owner' f' :=
      ⟨hdeclared, fun earlier => hbefore earlier (Nat.zero_le earlier)⟩
    constructor
    · rintro ⟨⟩
      exact ⟨place, hfirst⟩
    · rintro ⟨place', hfirst'⟩
      obtain ⟨rfl, rfl⟩ := hfirst.unique hfirst'
      rfl
  | notFound hbare =>
    refine iff_of_false (Option.some_ne_none _).symm ?_
    rintro ⟨place, hfirst⟩
    exact hbare place (Nat.zero_le place) owner f hfirst.toDeclaredAt

/-- What a call leads to, the cases without a word and without a call included. -/
theorem mem_calledFunction_iff {component : Component} {target : Target} :
    target ∈ lookup.calledFunction component ↔ lookup.word ≠ [] ∧ lookup.context.isCall = true ∧
      ∃ place owner f, lookup.FirstDeclaredAt (lookup.reaches component)
          (lookup.chainStart component) place owner f ∧
        target = Target.ofFunction owner.file f := by
  by_cases hword : lookup.word = []
  · simp [calledFunction, hasWord, hword]
  by_cases hcall : lookup.context.isCall = true
  · obtain ⟨result, hresult, hcalled⟩ := exists_walkResult_calledFunction component hword hcall
    rw [hcalled, Option.mem_toList, Option.map_eq_some_iff]
    constructor
    · rintro ⟨⟨owner, f⟩, hfound, rfl⟩
      obtain ⟨place, hfirst⟩ := hresult.eq_some_iff.mp hfound
      exact ⟨hword, hcall, place, owner, f, hfirst, rfl⟩
    · rintro ⟨-, -, place, owner, f, hfirst, rfl⟩
      exact ⟨(owner, f), hresult.eq_some_iff.mpr ⟨place, hfirst⟩, rfl⟩
  · simp [calledFunction, hcall]

/-- A call that leads to a target leads to nothing else. -/
theorem calledFunction_eq_of_mem {component : Component} {target : Target}
    (h : target ∈ lookup.calledFunction component) : lookup.calledFunction component = [target] := by
  obtain ⟨hword, hcall, -⟩ := mem_calledFunction_iff.mp h
  obtain ⟨result, -, hcalled⟩ := exists_walkResult_calledFunction component hword hcall
  rw [hcalled, Option.mem_toList] at h
  rw [hcalled, h, Option.toList_some]

/-- **The first reachable declaration wins.** A call with a word leads to one target at most: to
that of the first function of the word on its chain that it reaches, and to none exactly if it
reaches none. -/
theorem calledFunction_first_reachable (lookup : Lookup) (component : Component)
    (hword : lookup.word ≠ []) (hcall : lookup.context.isCall = true) :
    (lookup.calledFunction component).length ≤ 1 ∧
      (∀ target, target ∈ lookup.calledFunction component ↔
        ∃ place owner f, lookup.FirstDeclaredAt (lookup.reaches component)
            (lookup.chainStart component) place owner f ∧
          target = Target.ofFunction owner.file f) ∧
      (lookup.calledFunction component = [] ↔
        ∀ place, lookup.BareAt (lookup.reaches component) (lookup.chainStart component) place) := by
  obtain ⟨result, hresult, hcalled⟩ := exists_walkResult_calledFunction component hword hcall
  rw [hcalled]
  cases hresult with
  | @found place owner f hle hdeclared hbefore =>
    have hfirst : lookup.FirstDeclaredAt (lookup.reaches component) (lookup.chainStart component)
        place owner f := ⟨hdeclared, fun earlier => hbefore earlier (Nat.zero_le earlier)⟩
    refine ⟨Nat.le_refl 1, fun target => ⟨fun htarget => ?_, ?_⟩, ?_⟩
    · exact ⟨place, owner, f, hfirst, List.mem_singleton.mp htarget⟩
    · rintro ⟨place', owner', f', hfirst', rfl⟩
      obtain ⟨rfl, rfl⟩ := hfirst'.unique hfirst
      exact List.mem_singleton_self _
    · refine iff_of_false (List.cons_ne_nil _ _) fun hbare => ?_
      exact hbare place owner f hdeclared
  | notFound hbare =>
    refine ⟨Nat.zero_le 1, fun target => ⟨fun htarget => ?_, ?_⟩, ?_⟩
    · exact absurd htarget List.not_mem_nil
    · rintro ⟨place, owner, f, hfirst, -⟩
      exact absurd hfirst.toDeclaredAt (hbare place (Nat.zero_le place) owner f)
    · exact iff_of_true rfl fun place => hbare place (Nat.zero_le place)

/-- A call through `this` passes over a private function and goes on to the base, also where the
two components extend each other. -/
theorem calledFunction_first_reachable_cycle :
    let save (access : Access) : Function :=
      ⟨"save".toList, ⟨⟨0, 0⟩, ⟨0, 4⟩⟩, access, [], none, none⟩
    let extending (base : Nat) : Option ComponentRef :=
      some ⟨[], some ⟨base⟩, ⟨⟨0, 0⟩, ⟨0, 0⟩⟩⟩
    let user : Component := { file := ⟨0⟩, name := "User".toList, range := ⟨⟨0, 0⟩, ⟨0, 0⟩⟩,
                              base := extending 1,
                              functions := [("save".toList, save .privateAccess)] }
    let entity : Component := { file := ⟨1⟩, name := "Entity".toList, range := ⟨⟨0, 0⟩, ⟨0, 0⟩⟩,
                                base := extending 0,
                                functions := [("save".toList, save .publicAccess)] }
    let registry : Registry := ⟨fun file => if file = ⟨0⟩ then some user else some entity,
      fun _ _ => none⟩
    let lookup : Lookup := ⟨.ofComponent user "this.save()".toList ⟨0, 6⟩, registry, {}⟩
    lookup.FirstDeclaredAt (lookup.reaches user) (lookup.chainStart user) 1 entity
        (save .publicAccess) ∧
      Target.ofFunction ⟨1⟩ (save .publicAccess) ∈ lookup.calledFunction user := by
  intro save extending user entity registry lookup
  have hentity : lookup.FirstDeclaredAt (lookup.reaches user) (lookup.chainStart user) 1 entity
      (save .publicAccess) := by
    have hstart : lookup.chainStart user = some user := by decide +kernel
    rw [hstart]
    refine ⟨⟨⟨by decide, rfl, by decide⟩, by decide +kernel, by decide +kernel⟩, ?_⟩
    intro earlier hlt owner f hdeclared
    obtain rfl : earlier = 0 := by omega
    obtain rfl : user = owner := Option.some.inj hdeclared.onChain.isAncestor
    have hprivate : user.function? lookup.word = some (save .privateAccess) := by decide +kernel
    obtain rfl : save .privateAccess = f := Option.some.inj (hprivate.symm.trans hdeclared.declares)
    have hunreached : lookup.reaches user (save .privateAccess) = false := by decide +kernel
    exact Bool.false_ne_true (hunreached.symm.trans hdeclared.reaches)
  refine ⟨hentity, ?_⟩
  exact ((calledFunction_first_reachable lookup user (by decide +kernel) (by decide +kernel)).2.1
    _).mpr ⟨1, entity, save .publicAccess, hentity, rfl⟩

end Lookup

end CfmlNav
