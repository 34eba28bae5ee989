import CfmlNav.Proofs.Inheritance
import CfmlNav.Workspace

/-!
# The depth limit only cuts chains off

How deep a walk may go is an option, so the walk has to end without it. It does, as long as every
component is kept under its own file: a chain has different files at all of its places, and all of
them but the first are files of components that the workspace keeps, so there are no more places
than such components and one (`StandsAt.place_le_size`). Hence the walk without any limit
(`UnlimitedWalk`) comes to an end by itself, at a file that comes up again, where there is no base,
or with a function, and every limit that lets it look at that many components gives what it gives
(`StandsAt.exists_unlimitedWalk`). A lower limit cuts the chain off behind some place and changes
nothing before it, so what is found below a limit is found below every higher one
(`FirstDeclaredAt.withDepth`).
-/

namespace CfmlNav

namespace Workspace

/-- Each component is kept under its own file. -/
def KeepsOwnFiles (workspace : Workspace) : Prop :=
  ∀ file component, workspace.component? file = some component → component.file = file

theorem keepsOwnFiles_of_entries {workspace : Workspace}
    (h : ∀ entry ∈ workspace.components, entry.2.file = entry.1) : workspace.KeepsOwnFiles := by
  intro file component hkept
  obtain ⟨before, behind, hentries, -⟩ := List.lookup_eq_some_iff.mp hkept
  exact h (file, component) (by simp [hentries])

/-- A base is a component that the workspace keeps under its own file. -/
theorem KeepsOwnFiles.mem_of_base? {workspace : Workspace} (h : workspace.KeepsOwnFiles)
    {component base : Component} (hbase : workspace.registry.base? component = some base) :
    base.file ∈ workspace.components.map Prod.fst := by
  obtain ⟨reference, -, hreferenced⟩ := Option.bind_eq_some_iff.mp hbase
  obtain ⟨file, -, hkept⟩ := Option.bind_eq_some_iff.mp hreferenced
  obtain rfl := h file base hkept
  obtain ⟨before, behind, hentries, -⟩ := List.lookup_eq_some_iff.mp hkept
  exact List.mem_map.mpr ⟨(base.file, base), by simp [hentries], rfl⟩

end Workspace

namespace Lookup

variable {lookup : Lookup} {reachable : Function → Bool} {start : Option Component}

/-! ### A lower and a higher limit -/

/-- The lookup with another depth limit. -/
def withDepth (lookup : Lookup) (depth : Nat) : Lookup :=
  { lookup with options := { lookup.options with inheritanceDepth := depth } }

/-- Up to a place that a limit allows, a chain is the same below every other limit that allows the
place. -/
theorem OnChain.withDepth {depth deeper place : Nat} {component : Component}
    (h : (lookup.withDepth depth).OnChain start place component) (hplace : place < deeper) :
    (lookup.withDepth deeper).OnChain start place component where
  inDepth := hplace
  isAncestor := h.isAncestor
  noReturn := h.noReturn

theorem DeclaredAt.withDepth {depth deeper place : Nat} {owner : Component} {f : Function}
    (h : (lookup.withDepth depth).DeclaredAt reachable start place owner f)
    (hplace : place < deeper) :
    (lookup.withDepth deeper).DeclaredAt reachable start place owner f where
  onChain := h.onChain.withDepth hplace
  declares := h.declares
  reaches := h.reaches

/-- The first function on a chain stays the first one if the limit is raised, which adds to the
chain only behind it. -/
theorem FirstDeclaredAt.withDepth {depth deeper place : Nat} {owner : Component} {f : Function}
    (h : (lookup.withDepth depth).FirstDeclaredAt reachable start place owner f)
    (hdepth : depth ≤ deeper) :
    (lookup.withDepth deeper).FirstDeclaredAt reachable start place owner f where
  toDeclaredAt := h.toDeclaredAt.withDepth (Nat.lt_of_lt_of_le h.onChain.inDepth hdepth)
  bareBefore earlier hlt other g hdeclared :=
    h.bareBefore earlier hlt other g (hdeclared.withDepth (Nat.lt_trans hlt h.onChain.inDepth))

/-- The walk does not read the limit, but is given its steps. -/
theorem inheritedFunction?_withDepth (depth steps : Nat) (visited : List FileId)
    (component : Component) :
    (lookup.withDepth depth).inheritedFunction? reachable steps visited component =
      lookup.inheritedFunction? reachable steps visited component := by
  induction steps generalizing visited component with
  | zero => rfl
  | succ steps ih =>
    rw [inheritedFunction?, inheritedFunction?]
    simp only [ih]
    rfl

/-- Limits below which the walk gives the same give the same target. -/
theorem calledFunction_eq_of_walk_eq {depth depth' : Nat} {component : Component}
    (h : ∀ start, lookup.chainStart component = some start →
      lookup.inheritedFunction? (lookup.reaches component) depth [] start =
        lookup.inheritedFunction? (lookup.reaches component) depth' [] start) :
    (lookup.withDepth depth).calledFunction component =
      (lookup.withDepth depth').calledFunction component := by
  have hcalled (depth : Nat) : (lookup.withDepth depth).calledFunction component =
      if lookup.hasWord && lookup.context.isCall then
        (((lookup.chainStart component).bind fun start =>
          lookup.inheritedFunction? (lookup.reaches component) depth [] start).map
            fun found => Target.ofFunction found.1.file found.2).toList
      else [] := by
    rw [calledFunction, walkStart_eq]
    simp only [inheritedFunction?_withDepth]
    rfl
  rw [hcalled, hcalled, Option.bind_congr h]

/-! ### How long a chain can be -/

section Size

variable {workspace : Workspace} {first component : Component} {place : Nat}
  {visited : List FileId}

/-- What stands before a component of a chain is the first one, or a component that the workspace
keeps. -/
theorem ancestorFile?_mem (hown : workspace.KeepsOwnFiles)
    (h : workspace.registry.ancestor? (some first) place = some component) :
    ∀ earlier ≤ place, workspace.registry.ancestorFile? (some first) earlier ∈
      (first.file :: workspace.components.map Prod.fst).map some := by
  intro earlier hle
  obtain ⟨other, hother⟩ : ∃ other, workspace.registry.ancestor? (some first) earlier = some other :=
    Option.ne_none_iff_exists'.mp fun hnone => by
      rw [Registry.ancestor?_eq_none_of_le hnone hle] at h
      contradiction
  rw [Registry.ancestorFile?, hother, Option.map_some]
  refine List.mem_map_of_mem ?_
  rcases earlier with _ | earlier
  · obtain rfl : first = other := Option.some.inj hother
    exact List.mem_cons_self
  · obtain ⟨child, -, hbase⟩ := Option.bind_eq_some_iff.mp hother
    exact List.mem_cons_of_mem _ (hown.mem_of_base? hbase)

/-- **Chains are short.** As the files of a chain are all different, it has at most one place more
than the workspace has components. -/
theorem StandsAt.place_le_size (hown : workspace.KeepsOwnFiles)
    (hregistry : lookup.registry = workspace.registry)
    (h : lookup.StandsAt (some first) place visited component) (hfresh : component.file ∉ visited) :
    place ≤ workspace.size := by
  have hnoReturn := h.noReturn_of_fresh hfresh
  have hancestor := h.isAncestor
  rw [hregistry] at hnoReturn hancestor
  have hdistinct : ((List.range (place + 1)).map
      (workspace.registry.ancestorFile? (some first))).Nodup := by
    refine List.pairwise_map.mpr (List.pairwise_lt_range.imp_of_mem ?_)
    intro i j hi hj hlt
    exact hnoReturn j (Nat.le_of_lt_succ (List.mem_range.mp hj)) i hlt
  have hkept : (List.range (place + 1)).map (workspace.registry.ancestorFile? (some first)) ⊆
      (first.file :: workspace.components.map Prod.fst).map some := by
    intro file hfile
    obtain ⟨earlier, hearlier, rfl⟩ := List.mem_map.mp hfile
    exact ancestorFile?_mem hown hancestor earlier (Nat.le_of_lt_succ (List.mem_range.mp hearlier))
  have hlength := hdistinct.length_le_of_subset hkept
  simpa [Workspace.size] using hlength

end Size

/-! ### The walk without a limit -/

/-- A walk that no limit stops: it ends at a file that it has visited, with a function that can be
reached, or where there is no base. -/
inductive UnlimitedWalk (lookup : Lookup) (reachable : Function → Bool) :
    (visited : List FileId) → Component → Option (Component × Function) → Prop
  | comesBack {visited : List FileId} {component : Component}
      (hvisited : component.file ∈ visited) :
      UnlimitedWalk lookup reachable visited component none
  | finds {visited : List FileId} {component : Component} {f : Function}
      (hfresh : component.file ∉ visited)
      (hfunction : (component.function? lookup.word).filter reachable = some f) :
      UnlimitedWalk lookup reachable visited component (some (component, f))
  | endsWithoutBase {visited : List FileId} {component : Component}
      (hfresh : component.file ∉ visited)
      (hfunction : (component.function? lookup.word).filter reachable = none)
      (hbase : lookup.registry.base? component = none) :
      UnlimitedWalk lookup reachable visited component none
  | goesOn {visited : List FileId} {component base : Component}
      {result : Option (Component × Function)} (hfresh : component.file ∉ visited)
      (hfunction : (component.function? lookup.word).filter reachable = none)
      (hbase : lookup.registry.base? component = some base)
      (hwalk : UnlimitedWalk lookup reachable (component.file :: visited) base result) :
      UnlimitedWalk lookup reachable visited component result

/-- **The walk ends by itself.** Without a limit it comes to a result, and with a limit it comes to
the same one if the steps that are left suffice for as many components as the workspace has and one
more. -/
theorem StandsAt.exists_unlimitedWalk {workspace : Workspace} (hown : workspace.KeepsOwnFiles)
    (hregistry : lookup.registry = workspace.registry) {first component : Component} {place : Nat}
    {visited : List FileId} (h : lookup.StandsAt (some first) place visited component) :
    ∃ result, lookup.UnlimitedWalk reachable visited component result ∧
      ∀ steps, workspace.size + 1 ≤ place + steps →
        lookup.inheritedFunction? reachable steps visited component = result := by
  induction hleft : workspace.size + 1 - place using Nat.strongRecOn
    generalizing place visited component with
  | ind left ih =>
    by_cases hvisited : component.file ∈ visited
    · refine ⟨none, .comesBack hvisited, fun steps _ => ?_⟩
      cases steps with
      | zero => rfl
      | succ steps => rw [inheritedFunction?, if_pos (List.contains_iff_mem.mpr hvisited)]
    · -- a file that is new needs a step, and there is one, as the place is not too far up
      have hplace : place ≤ workspace.size := h.place_le_size hown hregistry hvisited
      have hstep {result : Option (Component × Function)}
          (hresult : ∀ steps, workspace.size ≤ place + steps →
            lookup.inheritedFunction? reachable (steps + 1) visited component = result) :
          ∀ steps, workspace.size + 1 ≤ place + steps →
            lookup.inheritedFunction? reachable steps visited component = result := by
        rintro (_ | steps) hsteps
        · omega
        · exact hresult steps (by omega)
      have hnew : ¬ visited.contains component.file = true := mt List.contains_iff_mem.mp hvisited
      cases hfunction : (component.function? lookup.word).filter reachable with
      | some f =>
        refine ⟨some (component, f), .finds hvisited hfunction, hstep fun steps _ => ?_⟩
        rw [inheritedFunction?, if_neg hnew, hfunction]
      | none =>
        cases hbase : lookup.registry.base? component with
        | none =>
          refine ⟨none, .endsWithoutBase hvisited hfunction hbase, hstep fun steps _ => ?_⟩
          rw [inheritedFunction?, if_neg hnew, hfunction, hbase]
        | some base =>
          obtain ⟨result, hwalk, hsteps⟩ :=
            ih _ (by omega) (h.step hvisited hbase) rfl
          refine ⟨result, .goesOn hvisited hfunction hbase hwalk, hstep fun steps hle => ?_⟩
          rw [inheritedFunction?, if_neg hnew, hfunction, hbase]
          exact hsteps steps (by omega)

/-! ### Main result -/

/-- **The depth limit only cuts chains off.** What a call leads to below a limit it leads to below
every higher one. In a workspace that keeps each component under its own file, all limits above the
number of its components give the same: what the walk comes to without any limit, where it always
ends by itself, also if components extend each other in a circle. -/
theorem calledFunction_withDepth (lookup : Lookup) (component : Component) {workspace : Workspace}
    (hown : workspace.KeepsOwnFiles) (hregistry : lookup.registry = workspace.registry) :
    (∀ depth, ∀ target ∈ (lookup.withDepth depth).calledFunction component, ∀ deeper ≥ depth,
      (lookup.withDepth deeper).calledFunction component = [target]) ∧
    (∀ depth ≥ workspace.size + 1, (lookup.withDepth depth).calledFunction component =
      (lookup.withDepth (workspace.size + 1)).calledFunction component) ∧
    ∀ start, lookup.chainStart component = some start →
      ∃ result, lookup.UnlimitedWalk (lookup.reaches component) [] start result ∧
        ∀ depth ≥ workspace.size + 1,
          lookup.inheritedFunction? (lookup.reaches component) depth [] start = result := by
  have hends (start : Component) : ∃ result,
      lookup.UnlimitedWalk (lookup.reaches component) [] start result ∧
        ∀ steps, workspace.size + 1 ≤ 0 + steps →
          lookup.inheritedFunction? (lookup.reaches component) steps [] start = result :=
    (StandsAt.init lookup start).exists_unlimitedWalk hown hregistry
  refine ⟨?_, ?_, ?_⟩
  · intro depth target htarget deeper hdepth
    obtain ⟨hword, hcall, place, owner, f, hfirst, rfl⟩ := mem_calledFunction_iff.mp htarget
    exact calledFunction_eq_of_mem
      (mem_calledFunction_iff.mpr ⟨hword, hcall, place, owner, f, hfirst.withDepth hdepth, rfl⟩)
  · intro depth hdepth
    refine calledFunction_eq_of_walk_eq fun start _ => ?_
    obtain ⟨result, -, hsteps⟩ := hends start
    rw [hsteps depth (by omega), hsteps (workspace.size + 1) (by omega)]
  · intro start _
    obtain ⟨result, hwalk, hsteps⟩ := hends start
    exact ⟨result, hwalk, fun depth hdepth => hsteps depth (by omega)⟩

/-- A component that has not been read extends one of two that extend each other. The walk looks at
all three components, so it needs a limit of three; the highest one gives no more. -/
theorem calledFunction_withDepth_circle :
    let save : Function := ⟨"save".toList, ⟨⟨0, 0⟩, ⟨0, 4⟩⟩, .publicAccess, [], none, none⟩
    let component (file base : Nat) (functions : List (Text × Function)) : Component :=
      { file := ⟨file⟩, name := [], range := ⟨⟨0, 0⟩, ⟨0, 0⟩⟩, functions
        base := some ⟨[], some ⟨base⟩, ⟨⟨0, 0⟩, ⟨0, 0⟩⟩⟩ }
    let draft := component 2 0 []
    let workspace := ({} : Workspace).insert (component 0 1 []) |>.insert
      (component 1 0 [("save".toList, save)])
    let lookup : Lookup :=
      ⟨.ofComponent draft "save()".toList ⟨0, 1⟩, workspace.registry, {}⟩
    workspace.KeepsOwnFiles ∧ workspace.size = 2 ∧
      (lookup.withDepth 2).calledFunction draft = [] ∧
      (lookup.withDepth 3).calledFunction draft = [Target.ofFunction ⟨1⟩ save] ∧
      (lookup.withDepth 18446744073709551615).calledFunction draft = [Target.ofFunction ⟨1⟩ save] ∧
      ∃ result, lookup.UnlimitedWalk (lookup.reaches draft) [] draft result := by
  intro save component draft workspace lookup
  have hown : workspace.KeepsOwnFiles := Workspace.keepsOwnFiles_of_entries (by decide)
  have hthree : (lookup.withDepth 3).calledFunction draft = [Target.ofFunction ⟨1⟩ save] := by
    decide +kernel
  have hstart : lookup.chainStart draft = some draft := by decide +kernel
  obtain ⟨-, hlimits, hends⟩ := calledFunction_withDepth lookup draft hown rfl
  obtain ⟨result, hwalk, -⟩ := hends draft hstart
  exact ⟨hown, rfl, by decide +kernel, hthree, (hlimits _ (by decide)).trans hthree, result, hwalk⟩

end Lookup

end CfmlNav
