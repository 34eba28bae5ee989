import CfmlNav.Proofs.Inheritance
import CfmlNav.Proofs.Qualifier.Other
import CfmlNav.Workspace

/-!
# Calls behind a qualifier

Behind a dot a call is one through a scope or one on some other object, and only the first kind is
looked up. Where the text before a word ends in a dot the word is not bare, so an optional qualifier
accepts it exactly if a required one does (`Lookup.allows_eq_requires_of_dot`), and as one keyword
cannot be that of two scopes, `variables`, `this` and `super` exclude each other. What a call behind
a dot reaches is therefore a matter of the scope alone (`Lookup.reaches_iff_of_dot`): through
`super` and `variables` every function, through `this` those that are not private, and on any other
object none. The chain plays no part in that, so it holds at all of its places.

A call through `super` starts at the base of its component. The walk does not count that component
among the files it has visited, so where the chain comes back to it, the component is looked at like
any other. `Lookup.exists_own_target_iff` says when such a call leads to its own component.
-/

namespace CfmlNav

open Text Character

namespace Qualifier

variable {scopes : List Scope} {text : Text}

/-! ### The dot -/

/-- Whether the last character of a text that is not white space is a dot. -/
def endsInDot (text : Text) : Bool :=
  (text.rdropWhile isSpace).getLast? == some '.'

theorem endsInDot_iff : endsInDot text = true ↔
    ∃ front gap, text = front ++ '.' :: gap ∧ ∀ c ∈ gap, isSpace c = true := by
  constructor
  · intro h
    obtain ⟨front, hfront⟩ := List.getLast?_eq_some_iff.mp (by simpa [endsInDot] using h)
    refine ⟨front, text.rtakeWhile isSpace, ?_, fun c hc => List.mem_rtakeWhile_imp hc⟩
    calc text = text.rdropWhile isSpace ++ text.rtakeWhile isSpace :=
          (List.rdropWhile_append_rtakeWhile ..).symm
      _ = front ++ '.' :: text.rtakeWhile isSpace := by rw [hfront]; simp
  · rintro ⟨front, gap, rfl, hgap⟩
    have hdot : isSpace '.' = false := by decide
    have hdropped : ((front ++ ['.']) ++ gap).rdropWhile isSpace = front ++ ['.'] :=
      rdropWhile_append_of_block (by simpa using hdot) hgap
    have htext : front ++ '.' :: gap = (front ++ ['.']) ++ gap := by simp
    rw [endsInDot, htext, hdropped, List.getLast?_concat, beq_self_eq_true]

/-- Behind a dot a qualifier is required, also if it is optional elsewhere. -/
theorem accepts_optional_eq_of_dot (hdot : endsInDot text = true) :
    (optional scopes).accepts text = (required scopes).accepts text := by
  obtain ⟨front, gap, rfl, hgap⟩ := endsInDot_iff.mp hdot
  rw [Bool.eq_iff_iff, accepts_optional_iff, or_iff_left (not_isBare_of_dot hgap)]

/-! ### One scope of several -/

/-- A text is qualified by one of some scopes. -/
theorem accepts_required_iff_exists (hscopes : scopes ≠ []) :
    (required scopes).accepts text = true ↔
      ∃ scope ∈ scopes, (required [scope]).accepts text = true := by
  simp only [accepts_required_iff hscopes, accepts_required_iff (List.cons_ne_nil _ [])]
  constructor
  · rintro ⟨q⟩
    obtain ⟨scope, hscope, hfold⟩ := q.isKeyword
    exact ⟨scope, hscope, ⟨{ q with isKeyword := ⟨scope, List.mem_singleton_self scope, hfold⟩ }⟩⟩
  · rintro ⟨scope, hscope, ⟨q⟩⟩
    exact ⟨{ q with isKeyword := q.isKeyword.of_subset (by simpa using hscope) }⟩

/-- No text is qualified by two scopes. -/
theorem eq_of_accepts {scope other : Scope} (h : (required [scope]).accepts text = true)
    (hother : (required [other]).accepts text = true) : scope = other := by
  obtain ⟨q⟩ := (accepts_required_iff (List.cons_ne_nil scope [])).mp h
  simpa using q.mem_of_accepts (List.cons_ne_nil other []) hother

end Qualifier

namespace Lookup

variable {lookup : Lookup} {component : Component}

/-! ### What a call reaches -/

theorem callsBase_iff : lookup.callsBase component = true ↔
    component.base.isSome = true ∧ lookup.requires [.super] = true := by
  rw [callsBase, Bool.and_eq_true]

theorem allows_eq_requires_of_dot (hdot : Qualifier.endsInDot lookup.context.before = true)
    (scopes : List Scope) : lookup.allows scopes = lookup.requires scopes :=
  Qualifier.accepts_optional_eq_of_dot hdot

/-- **The law of access.** Behind a dot a call reaches every function through `super`, if there is a
base, and through `variables`, and through `this` those that are not private. -/
theorem reaches_iff_of_dot (hdot : Qualifier.endsInDot lookup.context.before = true)
    (f : Function) : lookup.reaches component f = true ↔
      lookup.callsBase component = true ∨ lookup.requires [.vars] = true ∨
        lookup.requires [.this] = true ∧ f.access ≠ .privateAccess := by
  have hboth : lookup.requires [.vars, .this] = true ↔
      lookup.requires [.vars] = true ∨ lookup.requires [.this] = true := by
    rw [requires, Qualifier.accepts_required_iff_exists (List.cons_ne_nil _ _)]
    simp [requires]
  rw [reaches, Bool.or_eq_true, allows_eq_requires_of_dot hdot, allows_eq_requires_of_dot hdot]
  by_cases hprivate : f.access = .privateAccess
  · simp [hprivate]
  · simp [hprivate, hboth]

/-- Behind a dot a call that reaches anything is one through a scope. -/
theorem scope_of_reaches (hdot : Qualifier.endsInDot lookup.context.before = true) {f : Function}
    (hreaches : lookup.reaches component f = true) :
    lookup.requires [.vars] = true ∨ lookup.requires [.this] = true ∨
      component.base.isSome = true ∧ lookup.requires [.super] = true := by
  rcases (reaches_iff_of_dot hdot f).mp hreaches with hbase | hvars | ⟨hthis, -⟩
  · exact .inr (.inr (callsBase_iff.mp hbase))
  · exact .inl hvars
  · exact .inr (.inl hthis)

/-- Through `this` no call reaches a private function. -/
theorem not_private_of_reaches (hdot : Qualifier.endsInDot lookup.context.before = true)
    (hthis : lookup.requires [.this] = true) {f : Function}
    (hreaches : lookup.reaches component f = true) : f.access ≠ .privateAccess := by
  rcases (reaches_iff_of_dot hdot f).mp hreaches with hbase | hvars | ⟨-, haccess⟩
  · have hsame := Qualifier.eq_of_accepts hthis (callsBase_iff.mp hbase).2
    contradiction
  · have hsame := Qualifier.eq_of_accepts hthis hvars
    contradiction
  · exact haccess

/-- **Calls behind a dot.** A call behind a dot leads to a function only if it is one through
`variables`, through `this`, or through `super` in a component that extends another. The function is
the first on the chain that the scope reaches, and through `this` it is not private, however far up
it stands. A call on any other object leads nowhere. -/
theorem calledFunction_of_dot (lookup : Lookup) (component : Component)
    (hdot : Qualifier.endsInDot lookup.context.before = true) :
    (∀ target ∈ lookup.calledFunction component, ∃ place owner f,
      lookup.FirstDeclaredAt (lookup.reaches component) (lookup.chainStart component)
          place owner f ∧
        target = Target.ofFunction owner.file f ∧
        (lookup.requires [.vars] = true ∨ lookup.requires [.this] = true ∨
          component.base.isSome = true ∧ lookup.requires [.super] = true) ∧
        (lookup.requires [.this] = true → f.access ≠ .privateAccess)) ∧
    (lookup.requires [.vars] = false → lookup.requires [.this] = false →
      (component.base.isSome = true → lookup.requires [.super] = false) →
      lookup.calledFunction component = []) := by
  refine ⟨?_, ?_⟩
  · intro target htarget
    obtain ⟨-, -, place, owner, f, hfirst, rfl⟩ := mem_calledFunction_iff.mp htarget
    exact ⟨place, owner, f, hfirst, rfl, scope_of_reaches hdot hfirst.reaches,
      fun hthis => not_private_of_reaches hdot hthis hfirst.reaches⟩
  · intro hvars hthis hsuper
    refine List.eq_nil_iff_forall_not_mem.mpr fun target htarget => ?_
    obtain ⟨-, -, place, owner, f, hfirst, -⟩ := mem_calledFunction_iff.mp htarget
    rcases scope_of_reaches hdot hfirst.reaches with hscope | hscope | ⟨hbase, hscope⟩
    · simp [hvars] at hscope
    · simp [hthis] at hscope
    · simp [hsuper hbase] at hscope

/-- Two components, both with a function `save`, private in the upper one alone: a call through
`this`, the dot on a line of its own, leads to the lower one; on an object it leads nowhere. -/
theorem calledFunction_of_dot_this :
    let save (access : Access) : Function :=
      ⟨"save".toList, ⟨⟨0, 0⟩, ⟨0, 4⟩⟩, access, [], none, none⟩
    let component (file : Nat) (access : Access) (base : Option Nat) : Component :=
      { file := ⟨file⟩, name := [], range := ⟨⟨0, 0⟩, ⟨0, 0⟩⟩
        base := base.map fun base => ⟨[], some ⟨base⟩, ⟨⟨0, 0⟩, ⟨0, 0⟩⟩⟩
        functions := [("save".toList, save access)] }
    let lower := component 0 .privateAccess (some 1)
    let workspace := ({} : Workspace).insert (component 1 .remoteAccess none)
    let lookup (text : String) (cursor : Position) : Lookup :=
      ⟨.ofComponent lower text.toList cursor, workspace.registry, {}⟩
    let own := lookup "This\n . save()" ⟨1, 4⟩
    let other := lookup "other.save()" ⟨0, 7⟩
    Qualifier.endsInDot own.context.before = true ∧
      Qualifier.endsInDot other.context.before = true ∧
      Target.ofFunction ⟨1⟩ (save .remoteAccess) ∈ own.calledFunction lower ∧
      (∃ place owner f, own.FirstDeclaredAt (own.reaches lower) (own.chainStart lower)
        place owner f ∧ f.access ≠ .privateAccess) ∧
      other.calledFunction lower = [] := by
  intro save component lower workspace lookup own other
  have hown : Qualifier.endsInDot own.context.before = true := by decide +kernel
  have hother : Qualifier.endsInDot other.context.before = true := by decide +kernel
  have htarget : Target.ofFunction ⟨1⟩ (save .remoteAccess) ∈ own.calledFunction lower := by
    decide +kernel
  have hthis : own.requires [.this] = true := by decide +kernel
  refine ⟨hown, hother, htarget, ?_, ?_⟩
  · obtain ⟨place, owner, f, hfirst, -, -, haccess⟩ :=
      (calledFunction_of_dot own lower hown).1 _ htarget
    exact ⟨place, owner, f, hfirst, haccess hthis⟩
  · exact (calledFunction_of_dot other lower hother).2 (by decide +kernel) (by decide +kernel)
      fun _ => by decide +kernel

/-! ### Calls that come back to their component -/

theorem reaches_of_callsBase (hbase : lookup.callsBase component = true) (f : Function) :
    lookup.reaches component f = true := by
  rw [reaches, hbase, Bool.true_or]

/-- Up to a place of a chain everything is on the chain. -/
theorem OnChain.of_le {start : Option Component} {place earlier : Nat} {owner other : Component}
    (h : lookup.OnChain start place owner) (hle : earlier ≤ place)
    (hother : lookup.registry.ancestor? start earlier = some other) :
    lookup.OnChain start earlier other where
  inDepth := Nat.lt_of_le_of_lt hle h.inDepth
  isAncestor := hother
  noReturn j hj := h.noReturn j (Nat.le_trans hj hle)

/-- The component of a call through `super` comes up again on its own chain, below the depth limit
and before anything else that declares the word, and declares the word itself. -/
structure ComesBack (lookup : Lookup) (component : Component) (place : Nat) (owner : Component) :
    Prop where
  onChain : lookup.OnChain (lookup.registry.base? component) place owner
  sameFile : owner.file = component.file
  declares : (owner.function? lookup.word).isSome = true
  bareBefore : ∀ earlier < place, ∀ other,
    lookup.registry.ancestor? (lookup.registry.base? component) earlier = some other →
      other.function? lookup.word = none

theorem ComesBack.firstDeclaredAt {place : Nat} {owner : Component}
    (h : lookup.ComesBack component place owner) {f : Function}
    (hdeclares : owner.function? lookup.word = some f) {reachable : Function → Bool}
    (hreaches : reachable f = true) :
    lookup.FirstDeclaredAt reachable (lookup.registry.base? component) place owner f where
  onChain := h.onChain
  declares := hdeclares
  reaches := hreaches
  bareBefore earlier hlt other g hdeclared := by
    have hnone := h.bareBefore earlier hlt other hdeclared.onChain.isAncestor
    rw [hdeclared.declares] at hnone
    contradiction

/-- **When a call through `super` leads to its own component.** It does so exactly if the component
comes up again on its own chain and is the first there to declare the word, which takes components
that extend each other in a circle. Where the chain does not come back to the file of the component,
the call leads to another one. -/
theorem exists_own_target_iff (lookup : Lookup) (component : Component)
    (hbase : lookup.callsBase component = true) :
    ((∃ target ∈ lookup.calledFunction component, target.location.file = component.file) ↔
      lookup.word ≠ [] ∧ lookup.context.isCall = true ∧
        ∃ place owner, lookup.ComesBack component place owner) ∧
    ((∀ place, lookup.registry.ancestorFile? (lookup.registry.base? component) place ≠
        some component.file) →
      ∀ target ∈ lookup.calledFunction component, target.location.file ≠ component.file) := by
  have hstart : lookup.chainStart component = lookup.registry.base? component := by
    rw [chainStart, if_pos hbase]
  have howner : (∃ target ∈ lookup.calledFunction component,
      target.location.file = component.file) ↔
      lookup.word ≠ [] ∧ lookup.context.isCall = true ∧
        ∃ place owner, lookup.ComesBack component place owner := by
    constructor
    · rintro ⟨target, htarget, hfile⟩
      obtain ⟨hword, hcall, place, owner, f, hfirst, rfl⟩ := mem_calledFunction_iff.mp htarget
      rw [hstart] at hfirst
      refine ⟨hword, hcall, place, owner, hfirst.onChain, hfile, by simp [hfirst.declares], ?_⟩
      intro earlier hlt other hother
      by_contra hdeclares
      obtain ⟨g, hg⟩ := Option.ne_none_iff_exists'.mp hdeclares
      exact hfirst.bareBefore earlier hlt other g
        ⟨hfirst.onChain.of_le (Nat.le_of_lt hlt) hother, hg, reaches_of_callsBase hbase g⟩
    · rintro ⟨hword, hcall, place, owner, hback⟩
      obtain ⟨f, hf⟩ := Option.isSome_iff_exists.mp hback.declares
      refine ⟨Target.ofFunction owner.file f, mem_calledFunction_iff.mpr
        ⟨hword, hcall, place, owner, f, ?_, rfl⟩, hback.sameFile⟩
      rw [hstart]
      exact hback.firstDeclaredAt hf (reaches_of_callsBase hbase f)
  refine ⟨howner, fun hnever target htarget hfile => ?_⟩
  obtain ⟨-, -, place, owner, hback⟩ := howner.mp ⟨target, htarget, hfile⟩
  refine hnever place ?_
  rw [Registry.ancestorFile?, hback.onChain.isAncestor, Option.map_some, hback.sameFile]

/-- The own directory comes before the roots, so `app/User.cfc` extends itself, and not
`lib/User.cfc` as it is meant to. A call of `super.save()` leads to its own `save`. -/
theorem exists_own_target_user :
    let save : Function := ⟨"save".toList, ⟨⟨1, 13⟩, ⟨1, 17⟩⟩, .publicAccess, [], none, none⟩
    let libUser : Component := { file := ⟨0⟩, name := "User".toList, range := ⟨⟨0, 0⟩, ⟨0, 9⟩⟩
                                 functions := [("save".toList, save)] }
    let appUser : Component := { libUser with
                                 file := ⟨1⟩
                                 base := some ⟨"User".toList, none, ⟨⟨0, 18⟩, ⟨0, 22⟩⟩⟩ }
    let known := (({ roots := ["lib".toList] } : Workspace).intern "lib/User.cfc".toList).2
    let workspace := (known.intern "app/User.cfc".toList).2.insert libUser |>.insert appUser
    let lookup : Lookup :=
      ⟨.ofComponent appUser "super.save()".toList ⟨0, 7⟩, workspace.registry, {}⟩
    lookup.callsBase appUser = true ∧
      lookup.calledFunction appUser = [Target.ofFunction appUser.file save] ∧
      ∃ place owner, lookup.ComesBack appUser place owner := by
  intro save libUser appUser known workspace lookup
  have hbase : lookup.callsBase appUser = true := by decide +kernel
  have hcalled : lookup.calledFunction appUser = [Target.ofFunction appUser.file save] := by
    decide +kernel
  have hown : ∃ target ∈ lookup.calledFunction appUser, target.location.file = appUser.file :=
    ⟨Target.ofFunction appUser.file save, by rw [hcalled]; exact List.mem_singleton_self _, rfl⟩
  obtain ⟨-, -, hback⟩ := (exists_own_target_iff lookup appUser hbase).1.mp hown
  exact ⟨hbase, hcalled, hback⟩

end Lookup

end CfmlNav
