import CfmlNav.Session
import CfmlNav.Proofs.FileSet
import CfmlNav.Proofs.Request

/-!
# What stays true in a session

A session is used in any order: paths become known, components are read and dropped, dotted paths
and references are followed, application files are located and requests are answered (`perform`).
Only three kinds of actions touch the known files, and each makes at most one path known
(`files_perform`), so the known files are those of the paths in the order in which they have become
known (`files_after`): they keep their numbers and their first spellings. Only two kinds of actions
touch the components, each that of one file (`component?_perform_of_not_replaces`), so the component
of a file is the one that has been read last (`component?_after_iff`).
-/

namespace CfmlNav

/-! ### Components that have been read -/

namespace Workspace

variable (workspace : Workspace) (component : Component) (file other : FileId)

/-- Leaving out the entries of some files changes nothing for the others. -/
theorem lookup_filter (keeps : FileId → Bool) (entries : List (FileId × Component)) :
    (entries.filter fun entry => keeps entry.1).lookup file =
      if keeps file then entries.lookup file else none := by
  induction entries with
  | nil => simp
  | cons entry entries ih =>
    obtain ⟨first, component⟩ := entry
    by_cases hfile : file = first
    · subst hfile
      cases hkeeps : keeps file <;> simp [hkeeps, ih]
    · have hother : (file == first) = false := beq_eq_false_iff_ne.mpr hfile
      cases hkeeps : keeps first <;> simp [hkeeps, List.lookup_cons, hother, ih]

theorem component?_insert : (workspace.insert component).component? file =
    if component.file = file then some component else workspace.component? file := by
  rw [component?, insert, List.lookup_cons, lookup_filter file (· != component.file), component?]
  by_cases hfile : file = component.file
  · simp [hfile]
  · have hother : (file == component.file) = false := beq_eq_false_iff_ne.mpr hfile
    simp [hother, hfile, Ne.symm hfile]

theorem component?_invalidate : (workspace.invalidate file).component? other =
    if file = other then none else workspace.component? other := by
  rw [component?, invalidate, lookup_filter other (· != file), component?]
  by_cases hfile : file = other
  · simp [hfile]
  · simp [hfile, Ne.symm hfile]

end Workspace

/-! ### Requests -/

/-- Of the known files a request changes what the search for the application file changes, if it
makes any call at all. -/
theorem Lookup.files_run (lookup : Lookup) (application : ApplicationFiles) (files : FileSet)
    (cancellation : Cancellation) :
    (lookup.run application files cancellation).files =
      if (lookup.run application files cancellation).calls = [] then files
      else (application.locate files lookup.context.file).2 := by
  obtain ⟨outcome, hcomes⟩ := exists_comesTo lookup application files cancellation
  rw [hcomes.run_eq]
  cases hcomes <;> simp [*]

namespace Session

/-! ### Actions -/

/-- What can be done with a session. -/
inductive Action where
  /-- A path becomes known. -/
  | intern (path : Path)
  /-- The file of a path is asked for. -/
  | find (path : Path)
  /-- The path of a file is asked for. -/
  | pathOf (file : FileId)
  /-- A component has been read. -/
  | insert (component : Component)
  /-- A file has changed, so its component is dropped. -/
  | invalidate (file : FileId)
  /-- The component of a file is asked for. -/
  | componentOf (file : FileId)
  /-- A dotted path of a file is resolved. -/
  | resolve (path : Text) (referrer : FileId)
  /-- A reference of a file is followed. -/
  | refer (reference : ComponentRef) (referrer : FileId)
  /-- The base of a component is asked for. -/
  | base (component : Component)
  /-- The application file of a file is located. -/
  | locate (file : FileId)
  /-- A request is answered. -/
  | define (options : Options) (context : Context) (cancellation : Cancellation)
  /-- The files on disk change, or the way in which application files are found. -/
  | surround (tree : FileTree) (mode : ApplicationMode)

/-- What an action answers. -/
inductive Reply where
  | nothing
  | file (file : Option FileId)
  | path (path : Option Path)
  | component (component : Option Component)
  | outcome (outcome : Outcome)

/-- What an action answers, and the session behind it. -/
def perform (session : Session) : Action → Reply × Session
  | .intern path =>
    let (file, workspace) := session.workspace.intern path
    (.file file, { session with workspace })
  | .find path => (.file (session.workspace.files.find? path), session)
  | .pathOf file => (.path (session.workspace.files.path? file), session)
  | .insert component =>
    (.component component, { session with workspace := session.workspace.insert component })
  | .invalidate file =>
    (.component (session.workspace.component? file),
      { session with workspace := session.workspace.invalidate file })
  | .componentOf file => (.component (session.workspace.component? file), session)
  | .resolve path referrer => (.file (session.workspace.resolve? path referrer), session)
  | .refer reference referrer =>
    (.component (session.workspace.registry.referenced? reference referrer), session)
  | .base component => (.component (session.workspace.registry.base? component), session)
  | .locate file =>
    let (located, session) := session.locate file
    (.file located, session)
  | .define options context cancellation =>
    let (outcome, session) := session.define options context cancellation
    (.outcome outcome, session)
  | .surround tree mode => (.nothing, { session with tree, mode })

/-- A session in which nothing has been done yet. -/
def opened (roots : List Path) (tree : FileTree) (mode : ApplicationMode) : Session :=
  { workspace := { roots }, tree, mode }

/-- The session behind some actions. -/
def after (session : Session) (actions : List Action) : Session :=
  actions.foldl (fun session action => (session.perform action).2) session

@[simp] theorem after_append (session : Session) (actions later : List Action) :
    session.after (actions ++ later) = (session.after actions).after later :=
  List.foldl_append

/-! ### Paths that become known -/

/-- The path of the application file of a file. -/
def applicationPath? (session : Session) (file : FileId) : Option Path :=
  match session.mode with
  | .absent => none
  | .fixed path _ => path
  | .onDisk root =>
    (session.workspace.files.path? file).bind
      (ApplicationFiles.findAbove session.tree.fileSystem root)

/-- The path that an action makes known, or finds to be known. -/
def internedPath? (session : Session) : Action → Option Path
  | .intern path => some path
  | .locate file => session.applicationPath? file
  | .define options context cancellation =>
    if (session.define options context cancellation).1.calls = [] then none
    else session.applicationPath? context.file
  | _ => none

/-- The path that an action makes known, with the file that it gets. -/
def interned? (session : Session) (action : Action) : Option (Path × FileId) :=
  (session.internedPath? action).map fun path => (path, (session.workspace.intern path).1)

/-- The paths that have become known by some actions, each with the file that it got. -/
def internings (session : Session) : List Action → List (Path × FileId)
  | [] => []
  | action :: actions =>
    (session.interned? action).toList ++ (session.perform action).2.internings actions

theorem internings_append (session : Session) (actions later : List Action) :
    session.internings (actions ++ later) =
      session.internings actions ++ (session.after actions).internings later := by
  induction actions generalizing session with
  | nil => rfl
  | cons action actions ih =>
    rw [List.cons_append, internings, ih, internings, List.append_assoc]
    rfl

/-- The application file that is located becomes known. -/
theorem locate_eq (session : Session) (file : FileId) :
    session.applicationFiles.locate session.workspace.files file =
      match session.applicationPath? file with
      | none => (none, session.workspace.files)
      | some path => (some (session.workspace.files.intern path).1,
          (session.workspace.files.intern path).2) := by
  unfold applicationFiles applicationPath?
  cases session.mode with
  | absent => rfl
  | fixed path source => cases path <;> rfl
  | onDisk root => rfl

/-- **An action makes at most one path known.** -/
theorem files_perform (session : Session) (action : Action) :
    (session.perform action).2.workspace.files =
      match session.internedPath? action with
      | none => session.workspace.files
      | some path => (session.workspace.files.intern path).2 := by
  have hlocate (file : FileId) :
      (session.applicationFiles.locate session.workspace.files file).2 =
        match session.applicationPath? file with
        | none => session.workspace.files
        | some path => (session.workspace.files.intern path).2 := by
    rw [locate_eq]
    cases session.applicationPath? file <;> rfl
  cases action with
  | locate file => exact hlocate file
  | define options context cancellation =>
    have hfiles : (session.perform (.define options context cancellation)).2.workspace.files =
      (session.define options context cancellation).1.files := rfl
    rw [hfiles, internedPath?, define, Lookup.files_run]
    split
    next => rfl
    next => exact hlocate context.file
  | _ => rfl

/-- **The known files are those of the paths in the order in which they became known.** -/
theorem files_after (roots : List Path) (tree : FileTree) (mode : ApplicationMode)
    (actions : List Action) :
    ((opened roots tree mode).after actions).workspace.files =
      .ofPaths (((opened roots tree mode).internings actions).map Prod.fst) := by
  induction actions using List.reverseRecOn with
  | nil => rfl
  | append_singleton actions action ih =>
    rw [after_append, internings_append, List.map_append]
    show (((opened roots tree mode).after actions).perform action).2.workspace.files = _
    rw [files_perform, internings, internings, interned?, ih]
    cases ((opened roots tree mode).after actions).internedPath? action with
    | none => simp
    | some path => exact (FileSet.ofPaths_append_singleton _ path).symm

/-- A path that an action makes known is found behind the action. -/
theorem find?_perform_of_interned? {session : Session} {action : Action} {path : Path}
    {file : FileId} (h : session.interned? action = some (path, file)) :
    (session.perform action).2.workspace.files.find? path = some file := by
  obtain ⟨_, hpath, hentry⟩ := Option.map_eq_some_iff.mp h
  obtain ⟨rfl, rfl⟩ := Prod.mk.inj hentry
  rw [files_perform, hpath]
  exact FileSet.find?_intern_self _ _

/-- It is answered with its file, unless it is that of the application file of a request. -/
theorem reply_of_interned? {session : Session} {action : Action} {path : Path} {file : FileId}
    (h : session.interned? action = some (path, file)) :
    (session.perform action).1 = .file (some file) ∨
      ∃ options context cancellation, action = .define options context cancellation := by
  obtain ⟨found, hpath, hentry⟩ := Option.map_eq_some_iff.mp h
  obtain ⟨rfl, rfl⟩ := Prod.mk.inj hentry
  cases action with
  | intern path =>
    obtain rfl := Option.some_inj.mp hpath
    exact Or.inl rfl
  | locate file =>
    have hlocated : (session.locate file).1 = some (session.workspace.intern found).1 := by
      have heq : session.applicationPath? file = some found := hpath
      rw [locate, locate_eq, heq]
      rfl
    exact Or.inl (congrArg Reply.file hlocated)
  | define options context cancellation => exact Or.inr ⟨options, context, cancellation, rfl⟩
  | _ => simp [internedPath?] at hpath

/-- A path that is known stays known, as the same file. -/
theorem find?_perform_of_find? {session : Session} (action : Action) {path : Path} {file : FileId}
    (h : session.workspace.files.find? path = some file) :
    (session.perform action).2.workspace.files.find? path = some file := by
  rw [files_perform]
  cases session.internedPath? action with
  | none => exact h
  | some other => exact FileSet.find?_intern_of_find?_some other h

/-- A file keeps its path. -/
theorem path?_perform_of_path? {session : Session} (action : Action) {path : Path} {file : FileId}
    (h : session.workspace.files.path? file = some path) :
    (session.perform action).2.workspace.files.path? file = some path := by
  rw [files_perform]
  cases session.internedPath? action with
  | none => exact h
  | some other => exact FileSet.path?_intern_of_path? other h

theorem path?_after_of_path? {session : Session} (actions : List Action) {path : Path}
    {file : FileId} (h : session.workspace.files.path? file = some path) :
    (session.after actions).workspace.files.path? file = some path := by
  induction actions generalizing session with
  | nil => exact h
  | cons action actions ih => exact ih (path?_perform_of_path? action h)

/-- Every path that has become known is found, as the file that it got. -/
theorem find?_of_mem_internings {session : Session} {actions : List Action} {path : Path}
    {file : FileId} (h : (path, file) ∈ session.internings actions) :
    (session.after actions).workspace.files.find? path = some file := by
  induction actions using List.reverseRecOn with
  | nil => simp [internings] at h
  | append_singleton actions action ih =>
    rw [internings_append, List.mem_append] at h
    rw [after_append]
    rcases h with hold | hnew
    · exact find?_perform_of_find? action (ih hold)
    · rw [internings, internings, List.append_nil, Option.mem_toList] at hnew
      exact find?_perform_of_interned? hnew

/-! ### Components that are replaced -/

/-- Whether an action sets or drops the component of a file. -/
def Action.replaces (file : FileId) : Action → Bool
  | .insert component => component.file == file
  | .invalidate other => other == file
  | _ => false

/-- No other action changes the component of a file. -/
theorem component?_perform_of_not_replaces {session : Session} {action : Action} {file : FileId}
    (h : action.replaces file = false) :
    (session.perform action).2.workspace.component? file = session.workspace.component? file := by
  cases action with
  | insert component =>
    rw [Action.replaces, beq_eq_false_iff_ne] at h
    exact (Workspace.component?_insert _ component file).trans (if_neg h)
  | invalidate other =>
    rw [Action.replaces, beq_eq_false_iff_ne] at h
    exact (Workspace.component?_invalidate _ other file).trans (if_neg h)
  | _ => rfl

/-- Whether a component has been read for a file by some actions, and has neither been replaced nor
dropped since. -/
def IsLatest (actions : List Action) (file : FileId) (component : Component) : Prop :=
  ∃ earlier later, actions = earlier ++ .insert component :: later ∧ component.file = file ∧
    ∀ action ∈ later, action.replaces file = false

section Latest

variable {actions : List Action} {action : Action} {file : FileId} {component : Component}

theorem isLatest_append_of_not_replaces (h : action.replaces file = false) :
    IsLatest (actions ++ [action]) file component ↔ IsLatest actions file component := by
  constructor
  · rintro ⟨earlier, later, hactions, hfile, hlater⟩
    rcases List.eq_nil_or_concat' later with rfl | ⟨later, last, rfl⟩
    · obtain ⟨-, hlast⟩ := List.append_inj' hactions rfl
      rw [List.singleton_inj.mp hlast, Action.replaces, beq_eq_false_iff_ne] at h
      exact absurd hfile h
    · rw [← List.cons_append, ← List.append_assoc] at hactions
      obtain ⟨rfl, -⟩ := List.append_inj' hactions rfl
      exact ⟨earlier, later, rfl, hfile, fun other hother => hlater other (by simp [hother])⟩
  · rintro ⟨earlier, later, rfl, hfile, hlater⟩
    refine ⟨earlier, later ++ [action], by simp, hfile, fun other hother => ?_⟩
    rcases List.mem_append.mp hother with hold | hnew
    · exact hlater other hold
    · rwa [List.mem_singleton.mp hnew]

theorem isLatest_append_of_replaces (h : action.replaces file = true) :
    IsLatest (actions ++ [action]) file component ↔ action = .insert component := by
  constructor
  · rintro ⟨earlier, later, hactions, -, hlater⟩
    rcases List.eq_nil_or_concat' later with rfl | ⟨later, last, rfl⟩
    · exact List.singleton_inj.mp (List.append_inj' hactions rfl).2
    · rw [← List.cons_append, ← List.append_assoc] at hactions
      obtain rfl := List.singleton_inj.mp (List.append_inj' hactions rfl).2
      rw [hlater action (by simp)] at h
      contradiction
  · rintro rfl
    exact ⟨actions, [], rfl, beq_iff_eq.mp h, by simp⟩

end Latest

/-- **The component of a file is the one that has been read last,** if it has not been dropped
since. -/
theorem component?_after_iff (roots : List Path) (tree : FileTree) (mode : ApplicationMode)
    (actions : List Action) {file : FileId} {component : Component} :
    ((opened roots tree mode).after actions).workspace.component? file = some component ↔
      IsLatest actions file component := by
  induction actions using List.reverseRecOn with
  | nil => simp [after, opened, Workspace.component?, IsLatest]
  | append_singleton actions action ih =>
    rw [after_append]
    generalize (opened roots tree mode).after actions = session at ih
    show (session.perform action).2.workspace.component? file = some component ↔ _
    cases hreplaces : action.replaces file with
    | false =>
      rw [component?_perform_of_not_replaces hreplaces, ih,
        isLatest_append_of_not_replaces hreplaces]
    | true =>
      rw [isLatest_append_of_replaces hreplaces]
      cases action with
      | insert other =>
        have hread : (session.perform (.insert other)).2.workspace.component? file = some other :=
          (Workspace.component?_insert _ other file).trans (if_pos (beq_iff_eq.mp hreplaces))
        rw [hread, Option.some_inj, Action.insert.injEq]
      | invalidate other =>
        have hdropped : (session.perform (.invalidate other)).2.workspace.component? file = none :=
          (Workspace.component?_invalidate _ other file).trans (if_pos (beq_iff_eq.mp hreplaces))
        simp [hdropped]
      | _ => exact absurd hreplaces Bool.false_ne_true

/-! ### Main result -/

/-- Whether an action only asks for something. -/
def Action.isQuestion : Action → Bool
  | .find _ | .pathOf _ | .componentOf _ | .resolve _ _ | .refer _ _ | .base _ => true
  | _ => false

/-- What holds of a session behind some actions, by which some paths have become known, each as the
file that it got. -/
structure Invariant (session : Session) (actions : List Action)
    (internings : List (Path × FileId)) : Prop where
  /-- The numbers of the known files are those below their count. -/
  number_iff : ∀ file, (session.workspace.files.path? file).isSome = true ↔
    file.index < session.workspace.files.size
  /-- The path of a file leads back to the file. -/
  find?_path : ∀ file path, session.workspace.files.path? file = some path →
    session.workspace.files.find? path = some file
  /-- It is the spelling by which the file became known. -/
  first_spelling : ∀ file path, session.workspace.files.path? file = some path →
    ∃ earlier later, internings = earlier ++ (path, file) :: later ∧
      ∀ entry ∈ earlier, FileSet.key entry.1 ≠ FileSet.key path
  /-- All paths that have become known are found, as the files that they got. -/
  find?_interned : ∀ entry ∈ internings, session.workspace.files.find? entry.1 = some entry.2
  /-- Two of them got one file if and only if they have one key. -/
  same_file_iff : ∀ entry ∈ internings, ∀ other ∈ internings,
    entry.2 = other.2 ↔ FileSet.key entry.1 = FileSet.key other.1
  /-- A component is kept for its own file. -/
  own_file : ∀ file component, session.workspace.component? file = some component →
    component.file = file
  /-- It is the one that has been read last for the file, if that has not been dropped since. -/
  latest_iff : ∀ file component, session.workspace.component? file = some component ↔
    IsLatest actions file component

/-- What an action changes in a session in which some paths have become known. -/
structure Changes (session : Session) (internings : List (Path × FileId)) (action : Action) :
    Prop where
  /-- There is one more file if and only if a path with a new key becomes known. -/
  size_of_new : (∃ path, session.internedPath? action = some path ∧
      ∀ entry ∈ internings, FileSet.key entry.1 ≠ FileSet.key path) →
    (session.perform action).2.workspace.files.size = session.workspace.files.size + 1
  size_of_old : (¬ ∃ path, session.internedPath? action = some path ∧
      ∀ entry ∈ internings, FileSet.key entry.1 ≠ FileSet.key path) →
    (session.perform action).2.workspace.files = session.workspace.files
  /-- A path that becomes known is answered with the file that it gets, unless it is that of the
  application file of a request. -/
  reply_eq : ∀ path file, session.interned? action = some (path, file) →
    (session.perform action).1 = .file (some file) ∨
      ∃ options context cancellation, action = .define options context cancellation
  /-- Files are added behind those that are known, and one at most. -/
  entries_eq : ∃ added, (session.perform action).2.workspace.files.entries =
    session.workspace.files.entries ++ added ∧ added.length ≤ 1
  /-- Questions change nothing. -/
  eq_of_isQuestion : action.isQuestion = true → (session.perform action).2 = session
  /-- Only a component that is read or dropped changes the components. -/
  components_eq : (∀ file, action.replaces file = false) →
    (session.perform action).2.workspace.components = session.workspace.components

section Main

variable (roots : List Path) (tree : FileTree) (mode : ApplicationMode) (actions : List Action)

theorem isConsistent_after :
    ((opened roots tree mode).after actions).workspace.files.IsConsistent := by
  rw [files_after]
  exact FileSet.isConsistent_ofPaths _

/-- A file has the path that was the first with its key to become known. -/
theorem exists_first_interning {file : FileId} {path : Path}
    (h : ((opened roots tree mode).after actions).workspace.files.path? file = some path) :
    ∃ earlier later, (opened roots tree mode).internings actions =
        earlier ++ (path, file) :: later ∧
      ∀ entry ∈ earlier, FileSet.key entry.1 ≠ FileSet.key path := by
  have hfind := (isConsistent_after roots tree mode actions).find?_of_path? h
  have hfirst : ((opened roots tree mode).after actions).workspace.files.known? path = some path := by
    rw [FileSet.known?, hfind, Option.bind_some, h]
  rw [files_after, FileSet.known?_ofPaths, List.find?_eq_some_iff_append] at hfirst
  obtain ⟨-, before, behind, hpaths, hbefore⟩ := hfirst
  obtain ⟨earlier, rest, hinternings, rfl, hrest⟩ := List.map_eq_append_iff.mp hpaths
  obtain ⟨⟨first, number⟩, later, rfl, rfl, rfl⟩ := List.map_eq_cons_iff.mp hrest
  -- the path is found as the file that it got, so this is the file
  have hmem : (first, number) ∈ (opened roots tree mode).internings actions :=
    hinternings ▸ List.mem_append_right earlier List.mem_cons_self
  have hnumber := find?_of_mem_internings hmem
  obtain rfl : number = file := Option.some_inj.mp (hnumber.symm.trans hfind)
  refine ⟨earlier, later, hinternings, fun entry hentry => ?_⟩
  simpa using hbefore entry.1 (List.mem_map_of_mem hentry)

theorem invariant_opened : Invariant ((opened roots tree mode).after actions) actions
    ((opened roots tree mode).internings actions) where
  number_iff _ := FileSet.path?_isSome_iff
  find?_path _ _ h := (isConsistent_after roots tree mode actions).find?_of_path? h
  first_spelling _ _ h := exists_first_interning roots tree mode actions h
  find?_interned _ hentry := find?_of_mem_internings hentry
  same_file_iff entry hentry other hother := by
    have hfind := find?_of_mem_internings hentry
    have hfind' := find?_of_mem_internings hother
    constructor
    · intro hsame
      rw [← hsame] at hfind'
      exact FileSet.key_eq_of_find? hfind hfind'
    · intro hkey
      rw [FileSet.find?_congr hkey, hfind', Option.some_inj] at hfind
      exact hfind.symm
  own_file _ _ h := by
    obtain ⟨-, -, -, hfile, -⟩ := (component?_after_iff roots tree mode actions).mp h
    exact hfile
  latest_iff _ _ := component?_after_iff roots tree mode actions

/-- A path with a new key is one that has not been known. -/
theorem find?_after_eq_none_iff {path : Path} :
    ((opened roots tree mode).after actions).workspace.files.find? path = none ↔
      ∀ entry ∈ (opened roots tree mode).internings actions,
        FileSet.key entry.1 ≠ FileSet.key path := by
  rw [files_after, FileSet.find?_ofPaths_eq_none_iff, List.forall_mem_map]

theorem changes_opened (action : Action) : Changes ((opened roots tree mode).after actions)
    ((opened roots tree mode).internings actions) action where
  size_of_new := by
    rintro ⟨path, hpath, hnew⟩
    have hfind := (find?_after_eq_none_iff roots tree mode actions).mpr hnew
    rw [files_perform, hpath]
    exact (FileSet.size_intern _ path).trans (by rw [if_pos hfind])
  size_of_old := by
    intro hold
    rw [files_perform]
    cases hpath : ((opened roots tree mode).after actions).internedPath? action with
    | none => rfl
    | some path =>
      have hfind : ((opened roots tree mode).after actions).workspace.files.find? path ≠ none :=
        fun hfind => hold ⟨path, hpath, (find?_after_eq_none_iff roots tree mode actions).mp hfind⟩
      obtain ⟨file, hfile⟩ := Option.ne_none_iff_exists'.mp hfind
      exact congrArg Prod.snd (FileSet.intern_of_find?_some hfile)
  reply_eq _ _ h := reply_of_interned? h
  entries_eq := by
    rw [files_perform]
    cases ((opened roots tree mode).after actions).internedPath? action with
    | none => exact ⟨[], (List.append_nil _).symm, Nat.zero_le 1⟩
    | some path => exact FileSet.exists_entries_intern _ path
  eq_of_isQuestion hquestion := by
    cases action <;> first | rfl | exact absurd hquestion Bool.false_ne_true
  components_eq hreplaces := by
    cases action with
    | insert component => simpa [Action.replaces] using hreplaces component.file
    | invalidate file => simpa [Action.replaces] using hreplaces file
    | _ => rfl

/-- **A session keeps its files and its components apart and in order.** Whatever has been done
since it was opened, files are numbered without gaps, each leads to the first spelling of its path
and back, spellings with one key are one file, and the component of a file is the one that has been
read last. Every further action adds at most one file, exactly if a path with a new key becomes
known, no file ever gets another path, and questions and requests leave the components alone. -/
theorem invariant_after :
    Invariant ((opened roots tree mode).after actions) actions
      ((opened roots tree mode).internings actions) ∧
    (∀ action, Changes ((opened roots tree mode).after actions)
      ((opened roots tree mode).internings actions) action) ∧
    ∀ later file path,
      ((opened roots tree mode).after actions).workspace.files.path? file = some path →
        ((opened roots tree mode).after (actions ++ later)).workspace.files.path? file =
          some path := by
  refine ⟨invariant_opened roots tree mode actions, changes_opened roots tree mode actions, ?_⟩
  intro later file path hpath
  rw [after_append]
  exact path?_after_of_path? later hpath

end Main

end Session

end CfmlNav
