import CfmlNav.Definition.Request
import Mathlib.Logic.Relation

/-!
# Requests under cancellation

A request shares a token with its caller, who can cancel it at any moment. The request reads the
token four times: before it starts, when the application file has been located, while that file is
loaded, and before it answers. We describe this step by step, with the caller as a second party
(`Step`). However the steps of the two interleave, the request comes to an outcome that `run` has
for one of the moments of cancellation, and to no other (`reaches_answered_iff`). Hence the rules
that hold for these moments (`Obeys`) hold at any moment: a request answers with all that it is
asked for or with nothing (`run_obeys`).
-/

namespace CfmlNav

/-! ### What a request comes to -/

/-- Whether a call locates an application file. -/
def ApplicationCall.isLocate : ApplicationCall → Bool
  | locate _ => true
  | load _ => false

/-- Whether a token is cancelled by the end of a request that has made some calls: what is to happen
during a call takes place if there is the call. -/
def Cancellation.hasStruck : Cancellation → List ApplicationCall → Bool
  | never, _ => false
  | atStart, _ => true
  | inLocate, calls => calls.any ApplicationCall.isLocate
  | inLoad _, calls => calls.any fun call => !call.isLocate

namespace Cancellation

variable (cancellation : Cancellation) (file file' : FileId)

@[simp] theorem hasStruck_nil : cancellation.hasStruck [] = decide (cancellation = .atStart) := by
  cases cancellation <;> rfl

@[simp] theorem hasStruck_locate : cancellation.hasStruck [.locate file] =
    decide (cancellation = .atStart ∨ cancellation = .inLocate) := by
  cases cancellation <;> rfl

@[simp] theorem hasStruck_load : cancellation.hasStruck [.locate file, .load file'] =
    decide (cancellation ≠ .never) := by
  cases cancellation <;> rfl

end Cancellation

namespace Lookup

/-- The application file is searched where this is switched on, for a word that `application`
qualifies. -/
theorem wantsApplication_iff {lookup : Lookup} : lookup.wantsApplication = true ↔
    lookup.options.applicationScope = true ∧ lookup.word ≠ [] ∧
      lookup.requires [.application] = true := by
  simp [wantsApplication, hasWord, and_assoc]

/-- The outcomes of a request, with the conditions under which it comes to them. -/
inductive ComesTo (lookup : Lookup) (application : ApplicationFiles) (files : FileSet) :
    Cancellation → Outcome → Prop where
  | comment {cancellation : Cancellation} (hcomment : lookup.context.inComment = true) :
    ComesTo lookup application files cancellation ⟨.comment, [], files⟩
  | refused (hcomment : lookup.context.inComment = false) :
    ComesTo lookup application files .atStart ⟨.empty, [], files⟩
  | document {cancellation : Cancellation} (hcomment : lookup.context.inComment = false)
    (hstart : cancellation ≠ .atStart) (hwants : lookup.wantsApplication = false) :
    ComesTo lookup application files cancellation ⟨.found lookup.documentTargets, [], files⟩
  | cancelledInLocate {located : Option FileId} {files' : FileSet}
    (hcomment : lookup.context.inComment = false) (hwants : lookup.wantsApplication = true)
    (hlocate : application.locate files lookup.context.file = (located, files')) :
    ComesTo lookup application files .inLocate ⟨.empty, [.locate lookup.context.file], files'⟩
  | missing {cancellation : Cancellation} {files' : FileSet}
    (hcomment : lookup.context.inComment = false) (hwants : lookup.wantsApplication = true)
    (hlocate : application.locate files lookup.context.file = (none, files'))
    (hstart : cancellation ≠ .atStart) (hfind : cancellation ≠ .inLocate) :
    ComesTo lookup application files cancellation
      ⟨.found lookup.documentTargets, [.locate lookup.context.file], files'⟩
  | cancelledInLoad {completes : Bool} {file : FileId} {files' : FileSet}
    (hcomment : lookup.context.inComment = false) (hwants : lookup.wantsApplication = true)
    (hlocate : application.locate files lookup.context.file = (some file, files')) :
    ComesTo lookup application files (.inLoad completes)
      ⟨.empty, [.locate lookup.context.file, .load file], files'⟩
  | unreadable {file : FileId} {files' : FileSet} {error : Error}
    (hcomment : lookup.context.inComment = false) (hwants : lookup.wantsApplication = true)
    (hlocate : application.locate files lookup.context.file = (some file, files'))
    (hload : application.load files' file = .error error) :
    ComesTo lookup application files .never
      ⟨.found lookup.documentTargets, [.locate lookup.context.file, .load file], files'⟩
  | loaded {file : FileId} {files' : FileSet} {source : ApplicationSource}
    (hcomment : lookup.context.inComment = false) (hwants : lookup.wantsApplication = true)
    (hlocate : application.locate files lookup.context.file = (some file, files'))
    (hload : application.load files' file = .ok source) :
    ComesTo lookup application files .never
      ⟨.found (lookup.documentTargets ++ lookup.applicationTargets file source),
        [.locate lookup.context.file, .load file], files'⟩

variable {lookup : Lookup} {application : ApplicationFiles} {files : FileSet}
  {cancellation : Cancellation} {outcome : Outcome}

theorem ComesTo.run_eq (h : ComesTo lookup application files cancellation outcome) :
    lookup.run application files cancellation = outcome := by
  cases h with
  | comment hcomment => rw [run, if_pos hcomment]
  | refused hcomment => simp [run, hcomment]
  | document hcomment hstart hwants => simp [run, hcomment, hstart, hwants]
  | cancelledInLocate hcomment hwants hlocate => simp [run, runApplication, hcomment, hwants, hlocate]
  | missing hcomment hwants hlocate hstart hfind =>
    simp [run, runApplication, hcomment, hwants, hlocate, hstart, hfind]
  | cancelledInLoad hcomment hwants hlocate => simp [run, runApplication, hcomment, hwants, hlocate]
  | unreadable hcomment hwants hlocate hload =>
    simp [run, runApplication, hcomment, hwants, hlocate, hload]
  | loaded hcomment hwants hlocate hload =>
    simp [run, runApplication, hcomment, hwants, hlocate, hload]

/-- The conditions leave nothing out. -/
theorem exists_comesTo (lookup : Lookup) (application : ApplicationFiles) (files : FileSet)
    (cancellation : Cancellation) :
    ∃ outcome, ComesTo lookup application files cancellation outcome := by
  cases hcomment : lookup.context.inComment with
  | true => exact ⟨_, .comment hcomment⟩
  | false =>
    by_cases hstart : cancellation = .atStart
    · subst hstart
      exact ⟨_, .refused hcomment⟩
    cases hwants : lookup.wantsApplication with
    | false => exact ⟨_, .document hcomment hstart hwants⟩
    | true =>
      rcases hlocate : application.locate files lookup.context.file with ⟨located, files'⟩
      by_cases hfind : cancellation = .inLocate
      · subst hfind
        exact ⟨_, .cancelledInLocate hcomment hwants hlocate⟩
      cases located with
      | none => exact ⟨_, .missing hcomment hwants hlocate hstart hfind⟩
      | some file =>
        cases cancellation with
        | atStart => contradiction
        | inLocate => contradiction
        | inLoad completes => exact ⟨_, .cancelledInLoad hcomment hwants hlocate⟩
        | never =>
          cases hload : application.load files' file with
          | error error => exact ⟨_, .unreadable hcomment hwants hlocate hload⟩
          | ok source => exact ⟨_, .loaded hcomment hwants hlocate hload⟩

theorem comesTo_iff : ComesTo lookup application files cancellation outcome ↔
    lookup.run application files cancellation = outcome := by
  constructor
  · exact ComesTo.run_eq
  · rintro rfl
    obtain ⟨outcome, hcomes⟩ := exists_comesTo lookup application files cancellation
    rwa [hcomes.run_eq]

/-- Outside of comments, a request whose token is cancelled in time has no targets. -/
theorem ComesTo.answer_eq_empty (h : ComesTo lookup application files cancellation outcome)
    (hcomment : lookup.context.inComment = false)
    (hstruck : cancellation.hasStruck outcome.calls = true) : outcome.answer = .empty := by
  cases h with
  | comment hin =>
    rw [hcomment] at hin
    contradiction
  | refused => rfl
  | document _ hstart => simp [hstart] at hstruck
  | cancelledInLocate => rfl
  | missing _ _ _ hstart hfind => simp [hstart, hfind] at hstruck
  | cancelledInLoad => rfl
  | unreadable => simp at hstruck
  | loaded => simp at hstruck

/-- Any other comes to what it comes to without cancellation. -/
theorem ComesTo.comesTo_never (h : ComesTo lookup application files cancellation outcome)
    (hcomment : lookup.context.inComment = false)
    (hstruck : cancellation.hasStruck outcome.calls = false) :
    ComesTo lookup application files .never outcome := by
  cases h with
  | comment hin =>
    rw [hcomment] at hin
    contradiction
  | refused => simp at hstruck
  | document _ _ hwants => exact .document hcomment (by decide) hwants
  | cancelledInLocate => simp at hstruck
  | missing _ hwants hlocate => exact .missing hcomment hwants hlocate (by decide) (by decide)
  | cancelledInLoad => simp at hstruck
  | unreadable _ hwants hlocate hload => exact .unreadable hcomment hwants hlocate hload
  | loaded _ hwants hlocate hload => exact .loaded hcomment hwants hlocate hload

end Lookup

/-! ### Step by step -/

namespace Request

/-- How far a request has come. -/
inductive Stage where
  /-- Nothing has been done. -/
  | received
  /-- The document has been searched. -/
  | searched
  /-- The application file has been located. -/
  | located (file : FileId)
  /-- The application file is being loaded. -/
  | loading (file : FileId)
  /-- Nothing more is searched for, and the token is still to be read once. -/
  | settled (targets : List Target)
  | answered (answer : Answer)

/-- A request in progress: how far it has come, whether its token has been cancelled, and the calls
that it has made with the known files behind them. -/
structure Progress where
  stage : Stage
  isCancelled : Bool
  calls : List ApplicationCall
  files : FileSet

/-- A request that has been received. -/
def Progress.received (files : FileSet) : Progress :=
  ⟨.received, false, [], files⟩

/-- A step of the request, or of the caller. -/
inductive Step (lookup : Lookup) (application : ApplicationFiles) : Progress → Progress → Prop where
  /-- The caller may cancel the token until the answer is given; it stays cancelled. -/
  | cancel {s : Progress} (hopen : ∀ answer, s.stage ≠ .answered answer) :
    Step lookup application s { s with isCancelled := true }
  | stop {s : Progress} (hstage : s.stage = .received)
    (hcomment : lookup.context.inComment = true) :
    Step lookup application s { s with stage := .answered .comment }
  /-- The token is read first when the request starts. -/
  | refuse {s : Progress} (hstage : s.stage = .received)
    (hcomment : lookup.context.inComment = false) (htoken : s.isCancelled = true) :
    Step lookup application s { s with stage := .answered .empty }
  | search {s : Progress} (hstage : s.stage = .received)
    (hcomment : lookup.context.inComment = false) (htoken : s.isCancelled = false) :
    Step lookup application s { s with stage := .searched }
  | skip {s : Progress} (hstage : s.stage = .searched)
    (hwants : lookup.wantsApplication = false) :
    Step lookup application s { s with stage := .settled lookup.documentTargets }
  | miss {s : Progress} {files : FileSet} (hstage : s.stage = .searched)
    (hwants : lookup.wantsApplication = true)
    (hlocate : application.locate s.files lookup.context.file = (none, files)) :
    Step lookup application s
      { s with
        stage := .settled lookup.documentTargets
        calls := s.calls ++ [.locate lookup.context.file]
        files }
  | locate {s : Progress} {file : FileId} {files : FileSet} (hstage : s.stage = .searched)
    (hwants : lookup.wantsApplication = true)
    (hlocate : application.locate s.files lookup.context.file = (some file, files)) :
    Step lookup application s
      { s with
        stage := .located file
        calls := s.calls ++ [.locate lookup.context.file]
        files }
  /-- It is read again before the application file is loaded. -/
  | abandon {s : Progress} {file : FileId} (hstage : s.stage = .located file)
    (htoken : s.isCancelled = true) :
    Step lookup application s { s with stage := .settled lookup.documentTargets }
  | load {s : Progress} {file : FileId} (hstage : s.stage = .located file)
    (htoken : s.isCancelled = false) :
    Step lookup application s { s with stage := .loading file, calls := s.calls ++ [.load file] }
  /-- It interrupts a load in progress, unless the load completes first. -/
  | interrupt {s : Progress} {file : FileId} (hstage : s.stage = .loading file)
    (htoken : s.isCancelled = true) :
    Step lookup application s { s with stage := .settled lookup.documentTargets }
  | fail {s : Progress} {file : FileId} {error : Error} (hstage : s.stage = .loading file)
    (hload : application.load s.files file = .error error) :
    Step lookup application s { s with stage := .settled lookup.documentTargets }
  | extend {s : Progress} {file : FileId} {source : ApplicationSource}
    (hstage : s.stage = .loading file) (hload : application.load s.files file = .ok source) :
    Step lookup application s
      { s with
        stage := .settled (lookup.documentTargets ++ lookup.applicationTargets file source) }
  /-- It is read for the last time before the answer. -/
  | withdraw {s : Progress} {targets : List Target} (hstage : s.stage = .settled targets)
    (htoken : s.isCancelled = true) :
    Step lookup application s { s with stage := .answered .empty }
  | answer {s : Progress} {targets : List Target} (hstage : s.stage = .settled targets)
    (htoken : s.isCancelled = false) :
    Step lookup application s { s with stage := .answered (.found targets) }

/-- Whether steps lead from one progress to another. -/
def Reaches (lookup : Lookup) (application : ApplicationFiles) : Progress → Progress → Prop :=
  Relation.ReflTransGen (Step lookup application)

section Invariant

variable (lookup : Lookup) (application : ApplicationFiles) (files : FileSet)

/-- The calls that a request can have made, with the known files behind them. -/
inductive Called : List ApplicationCall → FileSet → Prop where
  | nothing : Called [] files
  | located {located : Option FileId} {files' : FileSet}
    (hwants : lookup.wantsApplication = true)
    (hlocate : application.locate files lookup.context.file = (located, files')) :
    Called [.locate lookup.context.file] files'
  | loaded {file : FileId} {files' : FileSet} (hwants : lookup.wantsApplication = true)
    (hlocate : application.locate files lookup.context.file = (some file, files')) :
    Called [.locate lookup.context.file, .load file] files'

/-- What is true of a request in progress that was received with some known files. As long as the
token is not cancelled, a request that has settled is on the way to the outcome without
cancellation. -/
def Invariant (s : Progress) : Prop :=
  match s.stage with
  | .received => s.calls = [] ∧ s.files = files
  | .searched => lookup.context.inComment = false ∧ s.calls = [] ∧ s.files = files
  | .located file => lookup.context.inComment = false ∧ lookup.wantsApplication = true ∧
      application.locate files lookup.context.file = (some file, s.files) ∧
      s.calls = [.locate lookup.context.file]
  | .loading file => lookup.context.inComment = false ∧ lookup.wantsApplication = true ∧
      application.locate files lookup.context.file = (some file, s.files) ∧
      s.calls = [.locate lookup.context.file, .load file]
  | .settled targets => lookup.context.inComment = false ∧
      Called lookup application files s.calls s.files ∧ (s.isCancelled = false →
        lookup.ComesTo application files .never ⟨.found targets, s.calls, s.files⟩)
  | .answered answer => ∃ cancellation : Cancellation,
      lookup.ComesTo application files cancellation ⟨answer, s.calls, s.files⟩ ∧
        cancellation.hasStruck s.calls = s.isCancelled

variable {lookup application files}

/-- Whatever calls a request has made, there is a moment to cancel it behind them. -/
theorem Called.exists_comesTo {calls : List ApplicationCall} {files' : FileSet}
    (h : Called lookup application files calls files')
    (hcomment : lookup.context.inComment = false) :
    ∃ cancellation : Cancellation,
      lookup.ComesTo application files cancellation ⟨.empty, calls, files'⟩ ∧
        cancellation.hasStruck calls = true := by
  cases h with
  | nothing => exact ⟨.atStart, .refused hcomment, rfl⟩
  | located hwants hlocate => exact ⟨.inLocate, .cancelledInLocate hcomment hwants hlocate, rfl⟩
  | loaded hwants hlocate =>
    exact ⟨.inLoad true, .cancelledInLoad hcomment hwants hlocate, rfl⟩

theorem invariant_received : Invariant lookup application files (.received files) :=
  ⟨rfl, rfl⟩

/-- Every step keeps the invariant. -/
theorem Invariant.step {s s' : Progress} (hs : Invariant lookup application files s)
    (h : Step lookup application s s') : Invariant lookup application files s' := by
  cases h with
  | cancel hopen =>
    rcases s with ⟨stage, cancelled, calls, known⟩
    cases stage with
    | received => exact hs
    | searched => exact hs
    | located file => exact hs
    | loading file => exact hs
    | settled targets =>
      obtain ⟨hcomment, hcalled, -⟩ := hs
      exact ⟨hcomment, hcalled, fun htoken => by contradiction⟩
    | answered answer => exact absurd rfl (hopen answer)
  | stop hstage hcomment =>
    rw [Invariant, hstage] at hs
    obtain ⟨hcalls, hfiles⟩ := hs
    cases s.isCancelled with
    | true => exact ⟨.atStart, by rw [hcalls, hfiles]; exact .comment hcomment, rfl⟩
    | false => exact ⟨.never, by rw [hcalls, hfiles]; exact .comment hcomment, rfl⟩
  | refuse hstage hcomment htoken =>
    rw [Invariant, hstage] at hs
    obtain ⟨hcalls, hfiles⟩ := hs
    exact ⟨.atStart, by rw [hcalls, hfiles]; exact .refused hcomment, htoken.symm⟩
  | search hstage hcomment htoken =>
    rw [Invariant, hstage] at hs
    exact ⟨hcomment, hs⟩
  | skip hstage hwants =>
    rw [Invariant, hstage] at hs
    obtain ⟨hcomment, hcalls, hfiles⟩ := hs
    refine ⟨hcomment, ?_, fun _ => ?_⟩
    · rw [hcalls, hfiles]
      exact .nothing
    · rw [hcalls, hfiles]
      exact .document hcomment (by decide) hwants
  | miss hstage hwants hlocate =>
    rw [Invariant, hstage] at hs
    obtain ⟨hcomment, hcalls, hfiles⟩ := hs
    rw [hfiles] at hlocate
    refine ⟨hcomment, ?_, fun _ => ?_⟩
    · rw [hcalls]
      exact .located hwants hlocate
    · rw [hcalls]
      exact .missing hcomment hwants hlocate (by decide) (by decide)
  | locate hstage hwants hlocate =>
    rw [Invariant, hstage] at hs
    obtain ⟨hcomment, hcalls, hfiles⟩ := hs
    rw [hfiles] at hlocate
    exact ⟨hcomment, hwants, hlocate, by rw [hcalls]; rfl⟩
  | abandon hstage htoken =>
    rw [Invariant, hstage] at hs
    obtain ⟨hcomment, hwants, hlocate, hcalls⟩ := hs
    refine ⟨hcomment, by rw [hcalls]; exact .located hwants hlocate, fun hfree => ?_⟩
    rw [htoken] at hfree
    contradiction
  | load hstage htoken =>
    rw [Invariant, hstage] at hs
    obtain ⟨hcomment, hwants, hlocate, hcalls⟩ := hs
    exact ⟨hcomment, hwants, hlocate, by rw [hcalls]; rfl⟩
  | interrupt hstage htoken =>
    rw [Invariant, hstage] at hs
    obtain ⟨hcomment, hwants, hlocate, hcalls⟩ := hs
    refine ⟨hcomment, by rw [hcalls]; exact .loaded hwants hlocate, fun hfree => ?_⟩
    rw [htoken] at hfree
    contradiction
  | fail hstage hload =>
    rw [Invariant, hstage] at hs
    obtain ⟨hcomment, hwants, hlocate, hcalls⟩ := hs
    refine ⟨hcomment, by rw [hcalls]; exact .loaded hwants hlocate, fun _ => ?_⟩
    rw [hcalls]
    exact .unreadable hcomment hwants hlocate hload
  | extend hstage hload =>
    rw [Invariant, hstage] at hs
    obtain ⟨hcomment, hwants, hlocate, hcalls⟩ := hs
    refine ⟨hcomment, by rw [hcalls]; exact .loaded hwants hlocate, fun _ => ?_⟩
    rw [hcalls]
    exact .loaded hcomment hwants hlocate hload
  | withdraw hstage htoken =>
    rw [Invariant, hstage] at hs
    obtain ⟨hcomment, hcalled, -⟩ := hs
    obtain ⟨cancellation, hcomes, hstruck⟩ := hcalled.exists_comesTo hcomment
    exact ⟨cancellation, hcomes, hstruck.trans htoken.symm⟩
  | answer hstage htoken =>
    rw [Invariant, hstage] at hs
    obtain ⟨-, -, hcomes⟩ := hs
    exact ⟨.never, hcomes htoken, htoken.symm⟩

/-- Whatever has been reached has the invariant. -/
theorem Invariant.of_reaches {s : Progress}
    (h : Reaches lookup application (.received files) s) : Invariant lookup application files s := by
  induction h with
  | refl => exact invariant_received
  | tail _ hstep ih => exact ih.step hstep

end Invariant

/-! ### Executions -/

section Execution

variable {lookup : Lookup} {application : ApplicationFiles} {files files' : FileSet} {file : FileId}

theorem reaches_cancelled :
    Reaches lookup application (.received files) ⟨.received, true, [], files⟩ :=
  .single (.cancel (by simp [Progress.received]))

theorem reaches_searched (hcomment : lookup.context.inComment = false) :
    Reaches lookup application (.received files) ⟨.searched, false, [], files⟩ :=
  .single (.search rfl hcomment rfl)

theorem reaches_skipped (hcomment : lookup.context.inComment = false)
    (hwants : lookup.wantsApplication = false) :
    Reaches lookup application (.received files)
      ⟨.settled lookup.documentTargets, false, [], files⟩ :=
  (reaches_searched hcomment).tail (.skip rfl hwants)

theorem reaches_missed (hcomment : lookup.context.inComment = false)
    (hwants : lookup.wantsApplication = true)
    (hlocate : application.locate files lookup.context.file = (none, files')) :
    Reaches lookup application (.received files)
      ⟨.settled lookup.documentTargets, false, [.locate lookup.context.file], files'⟩ :=
  (reaches_searched hcomment).tail (.miss rfl hwants hlocate)

theorem reaches_located (hcomment : lookup.context.inComment = false)
    (hwants : lookup.wantsApplication = true)
    (hlocate : application.locate files lookup.context.file = (some file, files')) :
    Reaches lookup application (.received files)
      ⟨.located file, false, [.locate lookup.context.file], files'⟩ :=
  (reaches_searched hcomment).tail (.locate rfl hwants hlocate)

theorem reaches_loading (hcomment : lookup.context.inComment = false)
    (hwants : lookup.wantsApplication = true)
    (hlocate : application.locate files lookup.context.file = (some file, files')) :
    Reaches lookup application (.received files)
      ⟨.loading file, false, [.locate lookup.context.file, .load file], files'⟩ :=
  (reaches_located hcomment hwants hlocate).tail (.load rfl rfl)

/-- A request that has settled answers, or withdraws its targets if it is cancelled now. -/
theorem Reaches.answered {s : Progress} {targets : List Target} {calls : List ApplicationCall}
    (h : Reaches lookup application s ⟨.settled targets, false, calls, files⟩) :
    Reaches lookup application s ⟨.answered (.found targets), false, calls, files⟩ :=
  h.tail (.answer rfl rfl)

theorem Reaches.withdrawn {s : Progress} {targets : List Target} {calls : List ApplicationCall}
    (h : Reaches lookup application s ⟨.settled targets, true, calls, files⟩) :
    Reaches lookup application s ⟨.answered .empty, true, calls, files⟩ :=
  h.tail (.withdraw rfl rfl)

/-- Every outcome is that of an execution. -/
theorem reaches_of_comesTo {cancellation : Cancellation} {outcome : Outcome}
    (h : lookup.ComesTo application files cancellation outcome) :
    Reaches lookup application (.received files) ⟨.answered outcome.answer,
      cancellation.hasStruck outcome.calls, outcome.calls, outcome.files⟩ := by
  cases h with
  | comment hcomment =>
    by_cases hstart : cancellation = .atStart
    · simp only [Cancellation.hasStruck_nil, hstart, decide_true]
      exact reaches_cancelled.tail (.stop rfl hcomment)
    · simp only [Cancellation.hasStruck_nil, hstart, decide_false]
      exact .single (.stop rfl hcomment)
  | refused hcomment => exact reaches_cancelled.tail (.refuse rfl hcomment rfl)
  | document hcomment hstart hwants =>
    simp only [Cancellation.hasStruck_nil, hstart, decide_false]
    exact (reaches_skipped hcomment hwants).answered
  | @cancelledInLocate located files' hcomment hwants hlocate =>
    cases located with
    | none =>
      have hcancelled := (reaches_missed hcomment hwants hlocate).tail (.cancel (by simp))
      exact Reaches.withdrawn hcancelled
    | some file =>
      have hcancelled := (reaches_located hcomment hwants hlocate).tail (.cancel (by simp))
      exact Reaches.withdrawn (hcancelled.tail (.abandon rfl rfl))
  | missing hcomment hwants hlocate hstart hfind =>
    simp only [Cancellation.hasStruck_locate, hstart, hfind, or_self, decide_false]
    exact (reaches_missed hcomment hwants hlocate).answered
  | cancelledInLoad hcomment hwants hlocate =>
    have hcancelled := (reaches_loading hcomment hwants hlocate).tail (.cancel (by simp))
    exact Reaches.withdrawn (hcancelled.tail (.interrupt rfl rfl))
  | unreadable hcomment hwants hlocate hload =>
    exact Reaches.answered ((reaches_loading hcomment hwants hlocate).tail (.fail rfl hload))
  | loaded hcomment hwants hlocate hload =>
    exact Reaches.answered ((reaches_loading hcomment hwants hlocate).tail (.extend rfl hload))

/-- **Every moment is one of a few.** However the steps of a request and of its caller interleave,
the request answers as it does for one of the moments of cancellation, and there is an execution for
each of them. -/
theorem reaches_answered_iff {outcome : Outcome} {cancelled : Bool} :
    Reaches lookup application (.received files)
        ⟨.answered outcome.answer, cancelled, outcome.calls, outcome.files⟩ ↔
      ∃ cancellation : Cancellation, lookup.run application files cancellation = outcome ∧
        cancellation.hasStruck outcome.calls = cancelled := by
  constructor
  · intro h
    obtain ⟨cancellation, hcomes, hstruck⟩ := Invariant.of_reaches h
    exact ⟨cancellation, hcomes.run_eq, hstruck⟩
  · rintro ⟨cancellation, hrun, rfl⟩
    exact reaches_of_comesTo (Lookup.comesTo_iff.mpr hrun)

end Execution

end Request

/-! ### Main result -/

namespace Lookup

variable {lookup : Lookup} {application : ApplicationFiles} {files : FileSet}
  {cancellation : Cancellation} {outcome : Outcome}

/-- The rules of a request, for the moment at which it is cancelled and the outcome. -/
structure Obeys (lookup : Lookup) (application : ApplicationFiles) (files : FileSet)
    (cancellation : Cancellation) (outcome : Outcome) : Prop where
  /-- In a comment, and only there, the answer says so, whatever the token. -/
  comment_iff : outcome.answer = .comment ↔ lookup.context.inComment = true
  /-- What is cancelled before the last look at the token is empty. -/
  empty_of_struck : lookup.context.inComment = false →
    cancellation.hasStruck outcome.calls = true → outcome.answer = .empty
  /-- Without the application file, the answer has the targets of the document. -/
  answer_of_unavailable : lookup.context.inComment = false →
    cancellation.hasStruck outcome.calls = false →
    (lookup.options.applicationScope = false ∨ lookup.word = [] ∨
      lookup.requires [.application] = false ∨
      (application.locate files lookup.context.file).1 = none ∨
      ∃ file error, (application.locate files lookup.context.file).1 = some file ∧
        application.load (application.locate files lookup.context.file).2 file = .error error) →
    outcome.answer = .found lookup.documentTargets
  /-- With the application file, those of the application follow. -/
  answer_of_loaded : lookup.context.inComment = false →
    cancellation.hasStruck outcome.calls = false →
    lookup.options.applicationScope = true → lookup.word ≠ [] →
    lookup.requires [.application] = true →
    ∀ file source, (application.locate files lookup.context.file).1 = some file →
      application.load (application.locate files lookup.context.file).2 file = .ok source →
      outcome.answer = .found (lookup.documentTargets ++ lookup.applicationTargets file source)
  /-- There is no part of an answer. -/
  whole : outcome.answer.targets = [] ∨ lookup.documentTargets <+: outcome.answer.targets
  /-- The application file is located at most once and then loaded at most once, by the identity
  that was the answer. -/
  calls_prefix : outcome.calls <+: .locate lookup.context.file ::
    (application.locate files lookup.context.file).1.toList.map .load
  /-- It is located for requests that ask for it and have not been cancelled before. -/
  locate_iff : .locate lookup.context.file ∈ outcome.calls ↔ lookup.context.inComment = false ∧
    cancellation ≠ .atStart ∧ lookup.options.applicationScope = true ∧ lookup.word ≠ [] ∧
      lookup.requires [.application] = true
  /-- It is loaded if it has been located and the request has not been cancelled meanwhile. -/
  load_iff : ∀ file, .load file ∈ outcome.calls ↔ .locate lookup.context.file ∈ outcome.calls ∧
    (application.locate files lookup.context.file).1 = some file ∧ cancellation ≠ .inLocate

theorem ComesTo.obeys (h : ComesTo lookup application files cancellation outcome) :
    Obeys lookup application files cancellation outcome where
  comment_iff := by
    cases h <;> simp [Answer.comment, Answer.empty, Answer.found, *]
  empty_of_struck hcomment hstruck := h.answer_eq_empty hcomment hstruck
  answer_of_unavailable hcomment hstruck hnone := by
    cases h.comesTo_never hcomment hstruck with
    | comment hin =>
      rw [hcomment] at hin
      contradiction
    | document => rfl
    | missing => rfl
    | unreadable => rfl
    | loaded _ hwants hlocate hload =>
      obtain ⟨hscope, hword, hrequires⟩ := wantsApplication_iff.mp hwants
      simp [hscope, hword, hrequires, hlocate, hload] at hnone
  answer_of_loaded hcomment hstruck hscope hword hrequires file source hfile hsource := by
    cases h.comesTo_never hcomment hstruck with
    | comment hin =>
      rw [hcomment] at hin
      contradiction
    | document _ _ hwants =>
      rw [wantsApplication_iff.mpr ⟨hscope, hword, hrequires⟩] at hwants
      contradiction
    | missing _ _ hlocate => simp [hlocate] at hfile
    | unreadable _ _ hlocate hload =>
      rw [hlocate] at hfile hsource
      obtain rfl := Option.some_inj.mp hfile
      rw [hload] at hsource
      contradiction
    | loaded _ _ hlocate hload =>
      rw [hlocate] at hfile hsource
      obtain rfl := Option.some_inj.mp hfile
      rw [hload] at hsource
      rw [Except.ok.inj hsource]
  whole := by
    cases h <;> simp [Answer.comment, Answer.empty, Answer.found]
  calls_prefix := by
    cases h <;> simp [*]
  locate_iff := by
    rw [← wantsApplication_iff]
    cases h <;> simp [*]
  load_iff file := by
    cases h <;> simp [eq_comm (a := file), *]

/-- **A request answers with everything or with nothing.** For every moment of cancellation the
request obeys the rules: in a comment it says so, cancelled in time it is empty, and otherwise it
has the targets of the document, followed by those of the application if these are wanted and the
application file can be located and loaded. It is located and loaded at most once, and only as long
as the token is not cancelled. And the moments cover every execution in which the caller may cancel
the token before any step. -/
theorem run_obeys (lookup : Lookup) (application : ApplicationFiles) (files : FileSet) :
    (∀ cancellation, Obeys lookup application files cancellation
      (lookup.run application files cancellation)) ∧
    ∀ (outcome : Outcome) (cancelled : Bool),
      Request.Reaches lookup application (.received files)
          ⟨.answered outcome.answer, cancelled, outcome.calls, outcome.files⟩ ↔
        ∃ cancellation : Cancellation, lookup.run application files cancellation = outcome ∧
          cancellation.hasStruck outcome.calls = cancelled := by
  constructor
  · intro cancellation
    exact (comesTo_iff.mpr rfl).obeys
  · intro outcome cancelled
    exact Request.reaches_answered_iff

/-- A variable that the application file assigns is found, and withheld when the request is
cancelled while that file is loaded. -/
theorem run_obeys_application_variable :
    let workspace : Workspace := {}
    let lookup : Lookup := ⟨.build ⟨0⟩ .script none "x = application.dsn".toList ⟨0, 17⟩,
      workspace.registry, {}⟩
    let application := ApplicationFiles.fixed (some "/Application.cfc".toList)
      (some ⟨"application.dsn = 1".toList, .script⟩)
    (lookup.run application {} .never).answer.targets.map Target.name = ["dsn".toList] ∧
      (lookup.run application {} (.inLoad true)).answer = .empty := by
  intro workspace lookup application
  refine ⟨by decide +kernel, ?_⟩
  exact ((run_obeys lookup application {}).1 (.inLoad true)).empty_of_struck (by decide +kernel)
    (by decide +kernel)

end Lookup

end CfmlNav
