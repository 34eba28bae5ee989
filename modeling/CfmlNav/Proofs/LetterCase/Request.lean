import CfmlNav.Definition.Request
import CfmlNav.Proofs.LetterCase.Form
import CfmlNav.Proofs.LetterCase.Path
import Mathlib.Data.List.Forall2

/-!
# Requests up to ASCII case

Every search of a request sees the document only through operations that are blind to case. All
but the search for local variables report declarations of components, so they give the same
targets in a lowered document; the local variables are those of the document with lowered names.
Two documents that agree up to ASCII case have the same lowered form, hence a cursor leads to the
same declarations in both (`answers_agree_of_asciiLowercase_eq`).
-/

namespace CfmlNav

open Character Text

/-- The target with a lowered name. -/
def Target.asciiLowercase (target : Target) : Target :=
  { target with name := target.name.asciiLowercase }

/-- Two targets are the same declaration: of the same kind, at the same place, and with names
that agree up to ASCII case. -/
structure Target.Agrees (a b : Target) : Prop where
  kind : a.kind = b.kind
  location : a.location = b.location
  name : a.name.asciiLowercase = b.name.asciiLowercase

theorem Target.agrees_iff {a b : Target} :
    a.Agrees b ↔ a.asciiLowercase = b.asciiLowercase := by
  constructor
  · rintro ⟨hkind, hlocation, hname⟩
    simp only [asciiLowercase, hkind, hlocation, hname]
  · intro h
    simp only [asciiLowercase, Target.mk.injEq] at h
    exact ⟨h.1, h.2.2, h.2.1⟩

/-- The outcome with lowered names of the targets. -/
def Outcome.asciiLowercase (outcome : Outcome) : Outcome :=
  { outcome with
    answer := ⟨outcome.answer.inComment, outcome.answer.targets.map Target.asciiLowercase⟩ }

namespace Lookup

/-- The same lookup in the lowered document. -/
def asciiLowercase (lookup : Lookup) : Lookup :=
  { lookup with context := lookup.context.asciiLowercase }

variable (lookup : Lookup)

@[simp] theorem word_asciiLowercase : lookup.asciiLowercase.word = lookup.word.asciiLowercase :=
  lookup.context.word_asciiLowercase

@[simp] theorem hasWord_asciiLowercase : lookup.asciiLowercase.hasWord = lookup.hasWord := by
  rw [hasWord, word_asciiLowercase, isEmpty_asciiLowercase, hasWord]

@[simp] theorem isCall_context_asciiLowercase :
    lookup.asciiLowercase.context.isCall = lookup.context.isCall :=
  lookup.context.isCall_asciiLowercase

@[simp] theorem requires_asciiLowercase (scopes : List Scope) :
    lookup.asciiLowercase.requires scopes = lookup.requires scopes := by
  rw [requires, asciiLowercase, Context.before_asciiLowercase, Qualifier.accepts_asciiLowercase,
    requires]

@[simp] theorem allows_asciiLowercase (scopes : List Scope) :
    lookup.asciiLowercase.allows scopes = lookup.allows scopes := by
  rw [allows, asciiLowercase, Context.before_asciiLowercase, Qualifier.accepts_asciiLowercase,
    allows]

/-! ### The searches in the document -/

theorem function?_asciiLowercase (component : Component) (name : Text) :
    component.function? name.asciiLowercase = component.function? name := by
  rw [Component.function?, Name.key_asciiLowercase, Component.function?]

theorem inheritedFunction?_asciiLowercase (reachable : Function → Bool) (depth : Nat)
    (visited : List FileId) (component : Component) :
    lookup.asciiLowercase.inheritedFunction? reachable depth visited component =
      lookup.inheritedFunction? reachable depth visited component := by
  induction depth generalizing visited component with
  | zero => rfl
  | succ depth ih =>
    simp only [inheritedFunction?, word_asciiLowercase, function?_asciiLowercase, ih]
    rfl

theorem calledFunction_asciiLowercase (component : Component) :
    lookup.asciiLowercase.calledFunction component = lookup.calledFunction component := by
  have hstart : lookup.asciiLowercase.walkStart component = lookup.walkStart component := by
    simp only [walkStart, requires_asciiLowercase, allows_asciiLowercase]
    rfl
  simp only [calledFunction, hasWord_asciiLowercase, isCall_context_asciiLowercase, hstart,
    inheritedFunction?_asciiLowercase]
  rfl

theorem generatedAccessors_asciiLowercase (component : Component) :
    lookup.asciiLowercase.generatedAccessors component = lookup.generatedAccessors component := by
  have hgenerated : isGenerated component lookup.word.asciiLowercase =
      isGenerated component lookup.word := by
    funext accessor
    simp only [isGenerated, Name.same_asciiLowercase_right]
  simp only [generatedAccessors, hasWord_asciiLowercase, requires_asciiLowercase,
    isCall_context_asciiLowercase, word_asciiLowercase, hgenerated]

theorem isNamed_word_asciiLowercase (v : Variable) (word : Text) :
    v.isNamed word.asciiLowercase = v.isNamed word :=
  Name.same_asciiLowercase_right v.identifier word

theorem componentVariables_asciiLowercase (component : Component) :
    lookup.asciiLowercase.componentVariables component = lookup.componentVariables component := by
  simp only [componentVariables, hasWord_asciiLowercase, allows_asciiLowercase,
    word_asciiLowercase, isNamed_word_asciiLowercase]

theorem applicationTargets_asciiLowercase (file : FileId) (source : ApplicationSource) :
    lookup.asciiLowercase.applicationTargets file source =
      lookup.applicationTargets file source := by
  simp only [applicationTargets, word_asciiLowercase, isNamed_word_asciiLowercase]

/-- The local variables of a name before a position are found alike, with their names lowered. -/
theorem localTargets_asciiLowercase (body : Option Span) (position : Position) :
    (((Variable.localsIn lookup.asciiLowercase.context body).filter fun v =>
        decide (v.declaration.range.start ≤ position) &&
          v.isNamed lookup.word.asciiLowercase).map Target.ofVariable).map Target.asciiLowercase =
      (((Variable.localsIn lookup.context body).filter fun v =>
        decide (v.declaration.range.start ≤ position) && v.isNamed lookup.word).map
          Target.ofVariable).map Target.asciiLowercase := by
  have htarget (v : Variable) :
      (Target.ofVariable v.asciiLowercase).asciiLowercase =
        (Target.ofVariable v).asciiLowercase := by
    simp only [Target.ofVariable, Target.asciiLowercase, Variable.asciiLowercase,
      asciiLowercase_asciiLowercase]
  have hlocals : Variable.localsIn lookup.asciiLowercase.context body =
      (Variable.localsIn lookup.context body).map Variable.asciiLowercase :=
    Variable.localsIn_asciiLowercase lookup.context body
  rw [hlocals, List.filter_map, List.map_map, List.map_map, List.map_map]
  refine congr (congrArg List.map (funext htarget)) ?_
  refine congrArg (List.filter · _) (funext fun v => ?_)
  simp only [Function.comp_apply, Variable.isNamed_asciiLowercase]
  rfl

theorem functionVariables_asciiLowercase (component : Component) :
    (lookup.asciiLowercase.functionVariables component).map Target.asciiLowercase =
      (lookup.functionVariables component).map Target.asciiLowercase := by
  have hposition : lookup.asciiLowercase.context.position = lookup.context.position := rfl
  simp only [functionVariables, hasWord_asciiLowercase, hposition]
  split
  · cases component.functionAt? lookup.context.position with
    | none => rfl
    | some f =>
      simp only [requires_asciiLowercase, allows_asciiLowercase, word_asciiLowercase,
        Name.same_asciiLowercase_right, List.map_append]
      congr 1
      split
      · exact lookup.localTargets_asciiLowercase f.body _
      · rfl
  · rfl

/-! ### The whole request -/

/-- The search of the application file adds the same targets behind what was found. -/
theorem runApplication_asciiLowercase (application : ApplicationFiles) (files : FileSet)
    (cancellation : Cancellation) {targets targets' : List Target}
    (h : targets'.map Target.asciiLowercase = targets.map Target.asciiLowercase) :
    (lookup.asciiLowercase.runApplication application files cancellation targets').asciiLowercase =
      (lookup.runApplication application files cancellation targets).asciiLowercase := by
  have hfound (more : List Target) (calls : List ApplicationCall) (files : FileSet) :
      Outcome.asciiLowercase ⟨.found (targets' ++ more), calls, files⟩ =
        Outcome.asciiLowercase ⟨.found (targets ++ more), calls, files⟩ := by
    simp only [Outcome.asciiLowercase, Answer.found, List.map_append, h]
  have hfile : lookup.asciiLowercase.context.file = lookup.context.file := rfl
  rcases hlocate : application.locate files lookup.context.file with ⟨located, files⟩
  simp only [runApplication, hfile, hlocate, applicationTargets_asciiLowercase]
  split
  · rfl
  rcases located with _ | applicationFile
  · simpa using hfound [] [.locate lookup.context.file] files
  · cases cancellation with
    | inLoad completes => rfl
    | _ =>
      dsimp only
      cases application.load files applicationFile with
      | error _ => simpa using hfound [] _ files
      | ok source => exact hfound _ _ files

section Workspace

variable {lookup} {workspace : Workspace} (hregistry : lookup.registry = workspace.registry)
  (hforms : lookup.options.references = ReferencePattern.builtIn)

include hregistry hforms

/-- The references at the cursor lead to the same components. -/
theorem referenced_asciiLowercase : lookup.asciiLowercase.referenced = lookup.referenced := by
  have hon (reference : Reference) :
      lookup.asciiLowercase.isOn reference.asciiLowercase = lookup.isOn reference := by
    have hstop : reference.asciiLowercase.nameStop = reference.nameStop := by
      simp only [Reference.nameStop, Reference.asciiLowercase, byteSize_asciiLowercase]
    simp only [isOn, hstop, Lookup.asciiLowercase, Context.asciiLowercase, spanAt_asciiLowercase]
    rfl
  have hcomponent (reference : Reference) :
      lookup.asciiLowercase.componentOf? reference.asciiLowercase =
        lookup.componentOf? reference := by
    have hresolve : lookup.registry.resolve? reference.path.asciiLowercase lookup.context.file =
        lookup.registry.resolve? reference.path lookup.context.file := by
      rw [hregistry]
      exact workspace.resolve?_asciiLowercase reference.path lookup.context.file
    simp only [componentOf?]
    exact congrArg (Option.bind · lookup.registry.component?) hresolve
  have hfound : ReferencePattern.findAll lookup.options.references
        lookup.context.text.asciiLowercase =
      (ReferencePattern.findAll lookup.options.references lookup.context.text).map
        Reference.asciiLowercase := by
    rw [hforms]
    exact ReferencePattern.findAll_builtIn_asciiLowercase lookup.context.text
  rw [referenced]
  show ((ReferencePattern.findAll lookup.options.references
    lookup.context.text.asciiLowercase).filter _).filterMap _ = _
  rw [hfound, List.filter_map, List.filterMap_map, referenced]
  refine congr (congrArg List.filterMap (funext fun reference => ?_)) ?_
  · exact congrArg (Option.map Target.ofComponent) (hcomponent reference)
  · exact congrArg (List.filter · _) (funext hon)

theorem documentTargets_asciiLowercase :
    lookup.asciiLowercase.documentTargets.map Target.asciiLowercase =
      lookup.documentTargets.map Target.asciiLowercase := by
  have hcomponent : lookup.asciiLowercase.context.component = lookup.context.component := rfl
  rw [documentTargets, documentTargets, referenced_asciiLowercase hregistry hforms, hcomponent]
  cases lookup.context.component with
  | none => rfl
  | some component =>
    simp only [List.map_append, calledFunction_asciiLowercase, functionVariables_asciiLowercase,
      generatedAccessors_asciiLowercase, componentVariables_asciiLowercase]
    rfl

/-- **Requests do not see case.** A request in a lowered document comes to the same outcome, up
to the case of the names it reports. -/
theorem run_asciiLowercase (application : ApplicationFiles) (files : FileSet)
    (cancellation : Cancellation) :
    (lookup.asciiLowercase.run application files cancellation).asciiLowercase =
      (lookup.run application files cancellation).asciiLowercase := by
  have htargets := documentTargets_asciiLowercase hregistry hforms
  have hcomment : lookup.asciiLowercase.context.inComment = lookup.context.inComment := rfl
  have hwants : lookup.asciiLowercase.wantsApplication = lookup.wantsApplication := by
    simp only [wantsApplication, hasWord_asciiLowercase, requires_asciiLowercase]
    rfl
  simp only [run, hcomment, hwants]
  split
  · rfl
  split
  · rfl
  split
  · exact lookup.runApplication_asciiLowercase application files cancellation htargets
  · simp only [Outcome.asciiLowercase, Answer.found, htargets]

end Workspace

end Lookup

/-- Two documents that agree up to ASCII case get the same answer: both cursors are in a comment
or neither is, and the targets are the same declarations in the same order. -/
theorem answers_agree_of_asciiLowercase_eq {raw₁ raw₂ : Text}
    (hcase : raw₁.asciiLowercase = raw₂.asciiLowercase) (workspace : Workspace)
    (application : ApplicationFiles) {options : Options}
    (hforms : options.references = ReferencePattern.builtIn) (file : FileId) (dialect : Dialect)
    (component : Option Component) (position : Position) :
    let answer (raw : Text) : Answer :=
      (Lookup.run ⟨.build file dialect component raw position, workspace.registry, options⟩
        application workspace.files .never).answer
    (answer raw₁).inComment = (answer raw₂).inComment ∧
      List.Forall₂ Target.Agrees (answer raw₁).targets (answer raw₂).targets := by
  intro answer
  let lookup (raw : Text) : Lookup :=
    ⟨.build file dialect component raw position, workspace.registry, options⟩
  let outcome (raw : Text) : Outcome := (lookup raw).run application workspace.files .never
  have hlower (raw : Text) :
      (outcome raw.asciiLowercase).asciiLowercase = (outcome raw).asciiLowercase := by
    have hlookup : lookup raw.asciiLowercase = (lookup raw).asciiLowercase := by
      simp only [lookup, Context.build_asciiLowercase, Lookup.asciiLowercase]
    simp only [outcome, hlookup]
    exact Lookup.run_asciiLowercase rfl hforms application workspace.files .never
  -- both outcomes have the lowered outcome of the one lowered document
  have hsame : (outcome raw₁).asciiLowercase = (outcome raw₂).asciiLowercase := by
    rw [← hlower raw₁, hcase, hlower raw₂]
  refine ⟨congrArg (·.answer.inComment) hsame, ?_⟩
  have htargets : (answer raw₁).targets.map Target.asciiLowercase =
      (answer raw₂).targets.map Target.asciiLowercase := congrArg (·.answer.targets) hsame
  rw [← List.forall₂_eq_eq_eq, List.forall₂_map_left_iff, List.forall₂_map_right_iff] at htargets
  exact htargets.imp fun _ _ => Target.agrees_iff.mpr

/-- A local variable that is declared and used in other letters is found in both documents. -/
theorem answers_agree_local_variable :
    let sum : Function :=
      ⟨"sum".toList, ⟨⟨0, 0⟩, ⟨0, 0⟩⟩, .publicAccess, [], some ⟨⟨0, 0⟩, ⟨0, 19⟩⟩, none⟩
    let cart : Component := { file := ⟨0⟩, name := "Cart".toList, range := ⟨⟨0, 0⟩, ⟨0, 0⟩⟩,
                              functions := [("sum".toList, sum)] }
    let workspace : Workspace := {}
    let answer (raw : Text) : Answer :=
      (Lookup.run ⟨.build ⟨0⟩ .script (some cart) raw ⟨0, 15⟩, workspace.registry, {}⟩
        .none workspace.files .never).answer
    let plain : Text := "{var Total=1;total}".toList
    let mixed : Text := "{VAR tOTAL=1;TOTAL}".toList
    plain.asciiLowercase = mixed.asciiLowercase ∧
      (answer plain).targets.map Target.name = ["Total".toList] ∧
      (answer mixed).targets.map Target.name = ["tOTAL".toList] ∧
      (answer plain).inComment = (answer mixed).inComment ∧
      List.Forall₂ Target.Agrees (answer plain).targets (answer mixed).targets :=
  ⟨by decide, by decide +kernel, by decide +kernel,
    answers_agree_of_asciiLowercase_eq (by decide) {} .none rfl _ _ _ _⟩

end CfmlNav
