import CfmlNav.Proofs.LetterCase.Piece
import CfmlNav.Proofs.Resolution.Search
import Mathlib.Data.List.Forall2

/-!
# First spellings and dotted paths

Files are found by their keys, so it does not matter by which spellings they became known
(`FileSet.find?_congr_of_keys`). But the directory in which the search for a dotted path begins is cut
off the spelling by which the referring file is known, and only slashes count for that. So the
answers agree exactly where the directories of the two spellings have one key
(`resolve?_congr_iff`): the case of letters does not matter, and a backslash does if it stands before
the name of the file.
-/

namespace CfmlNav

open Text

/-! ### Paths that become known by other spellings -/

namespace FileSet

/-- Whether the files of two sets have the same keys, in order, and related paths. -/
def Alike (related : Path → Path → Prop) (files other : FileSet) : Prop :=
  List.Forall₂ (fun entry entry' => entry.key = entry'.key ∧ related entry.path entry'.path)
    files.entries other.entries

variable {related : Path → Path → Prop} {files other : FileSet} {path path' : Path}

theorem Alike.keys_eq (h : Alike related files other) : files.keys = other.keys := by
  obtain ⟨entries⟩ := files
  obtain ⟨entries'⟩ := other
  replace h : List.Forall₂ _ entries entries' := h
  rw [keys, keys]
  induction h with
  | nil => rfl
  | cons hentry _ ih => rw [List.map_cons, List.map_cons, hentry.1, ih]

theorem Alike.intern (h : Alike related files other) (hkey : key path = key path')
    (hpath : related path path') :
    Alike related (files.intern path).2 (other.intern path').2 := by
  have hsame := find?_congr_of_keys h.keys_eq hkey
  cases hfind : files.find? path with
  | some file =>
    rw [hfind] at hsame
    rwa [intern_of_find?_some hfind, intern_of_find?_some hsame.symm]
  | none =>
    rw [hfind] at hsame
    rw [intern_of_find?_none hfind, intern_of_find?_none hsame.symm]
    exact List.rel_append h (.cons ⟨hkey, hpath⟩ .nil)

/-- Two histories of the same files by related spellings lead to sets that are alike. -/
theorem alike_ofPaths {paths others : List Path}
    (h : List.Forall₂ (fun path other => key path = key other ∧ related path other) paths others) :
    Alike related (ofPaths paths) (ofPaths others) := by
  have hrun : ∀ files other, Alike related files other →
      Alike related (paths.foldl (fun files path => (files.intern path).2) files)
        (others.foldl (fun files path => (files.intern path).2) other) := by
    induction h with
    | nil => exact fun files other hfiles => hfiles
    | cons hpath _ ih => exact fun files other hfiles => ih _ _ (hfiles.intern hpath.1 hpath.2)
  exact hrun empty empty .nil

/-- Files that are alike have paths that agree as far as a map tells, if all related paths do. -/
theorem Alike.map_path?_eq {α : Type} {f : Path → α}
    (h : Alike (fun path other => f path = f other) files other) (file : FileId) :
    (files.path? file).map f = (other.path? file).map f := by
  obtain ⟨entries⟩ := files
  obtain ⟨entries'⟩ := other
  obtain ⟨index⟩ := file
  replace h : List.Forall₂ _ entries entries' := h
  rw [path?, path?]
  induction h generalizing index with
  | nil => rfl
  | cons hentry _ ih =>
    cases index with
    | zero => exact congrArg some hentry.2
    | succ index => exact ih index

end FileSet

/-! ### Directories of spellings -/

/-- Two options that agree as far as a map tells have the same outcome, if it depends on that. -/
theorem bind_congr_of_map_eq {α β γ : Type} {first second : Option α} {f : α → β}
    {g g' : α → Option γ} (h : first.map f = second.map f) (hg : ∀ a b, f a = f b → g a = g' b) :
    first.bind g = second.bind g' := by
  cases first with
  | none =>
    rw [Option.map_none, eq_comm, Option.map_eq_none_iff] at h
    rw [h, Option.bind_none, Option.bind_none]
  | some a =>
    obtain ⟨b, rfl, hb⟩ := Option.map_eq_some_iff.mp h.symm
    exact hg a b hb.symm

namespace Path

/-- The key of the directory of a path, with the slash behind it, if the path has one. -/
def parentKey? (path : Path) : Option Text :=
  path.parent?.map fun parent => FileSet.key (parent.join [])

variable {directory other relative : Path}

theorem join_eq_append (h : relative.isAbsolute = false) (directory : Path) :
    directory.join relative = directory.join [] ++ relative := by
  rw [join, h, join]
  split_ifs <;> simp_all [isAbsolute]

/-- A relative path starts behind a slash, or at the start. -/
theorem join_nil_end (directory : Path) :
    directory.join [] = [] ∨ (directory.join []).getLast? = some '/' := by
  rw [join, if_neg (by decide)]
  split_ifs with h
  · simpa using h
  · simp

/-- The key of a path consists of those of its directory and of what follows it. -/
theorem key_join (h : relative.isAbsolute = false) (directory : Path) :
    FileSet.key (directory.join relative) =
      FileSet.key (directory.join []) ++ FileSet.key relative := by
  rw [join_eq_append h]
  rcases directory.join_nil_end with hnil | hlast
  · rw [hnil]
    rfl
  · obtain ⟨front, hfront⟩ := List.getLast?_eq_some_iff.mp hlast
    rw [hfront, List.append_assoc, List.singleton_append, FileSet.key_append_slash,
      FileSet.key_append_slash, List.append_assoc]
    rfl

theorem key_join_congr (h : FileSet.key (directory.join []) = FileSet.key (other.join []))
    (relative : Path) :
    FileSet.key (directory.join relative) = FileSet.key (other.join relative) := by
  cases hrelative : relative.isAbsolute with
  | true => rw [join, if_pos hrelative, join, if_pos hrelative]
  | false => rw [key_join hrelative, h, key_join hrelative]

/-- Spellings that differ in the case of letters only have one directory. -/
theorem parentKey?_congr_of_lowercase {path other : Path} (h : lowercase path = lowercase other) :
    path.parentKey? = other.parentKey? := by
  have hparent : path.parent?.map lowercase = other.parent?.map lowercase := by
    rw [← isPiecewise_lowercase.parent?_map, h, isPiecewise_lowercase.parent?_map]
  rw [parentKey?, parentKey?, Option.map_eq_bind, Option.map_eq_bind]
  refine bind_congr_of_map_eq hparent fun parent parent' hlower => congrArg some ?_
  refine FileSet.key_congr_of_lowercase ?_
  rw [← isPiecewise_lowercase.join_map, hlower, isPiecewise_lowercase.join_map]

end Path

namespace FileSet

/-- The key of the directory in which the search for the dotted paths of a file begins. -/
def directoryKey? (files : FileSet) (file : FileId) : Option Text :=
  (files.path? file).bind Path.parentKey?

variable {files other : FileSet} {file : FileId} {path : Path}

theorem directoryKey?_intern_congr (hkeys : files.keys = other.keys)
    (h : files.directoryKey? file = other.directoryKey? file) (path : Path) :
    (files.intern path).2.directoryKey? file = (other.intern path).2.directoryKey? file := by
  have hsame : files.find? path = other.find? path := find?_congr_of_keys hkeys rfl
  cases hfind : files.find? path with
  | some file =>
    rw [hfind] at hsame
    rwa [intern_of_find?_some hfind, intern_of_find?_some hsame.symm]
  | none =>
    rw [hfind] at hsame
    rw [intern_of_find?_none hfind, intern_of_find?_none hsame.symm]
    have hlength : files.entries.length = other.entries.length := by
      simpa [keys] using congrArg List.length hkeys
    rw [directoryKey?, path?, directoryKey?, path?] at h ⊢
    rw [List.getElem?_append, List.getElem?_append, hlength]
    split
    · exact h
    · rfl

variable {paths others : List Path}
  (h : List.Forall₂ (fun path other => key path = key other) paths others)

include h

theorem keys_ofPaths_append (further : List Path) :
    (ofPaths (paths ++ further)).keys = (ofPaths (others ++ further)).keys := by
  have halike : Alike (fun _ _ => True) (ofPaths (paths ++ further)) (ofPaths (others ++ further)) := by
    refine alike_ofPaths (List.rel_append (h.imp fun _ _ hkey => ⟨hkey, trivial⟩) ?_)
    exact List.forall₂_same.mpr fun _ _ => ⟨rfl, trivial⟩
  exact halike.keys_eq

/-- Further files do not take the directories apart. -/
theorem directoryKey?_ofPaths_append
    (hfile : (ofPaths paths).directoryKey? file = (ofPaths others).directoryKey? file)
    (further : List Path) :
    (ofPaths (paths ++ further)).directoryKey? file =
      (ofPaths (others ++ further)).directoryKey? file := by
  induction further using List.reverseRecOn with
  | nil => rwa [List.append_nil, List.append_nil]
  | append_singleton further last ih =>
    rw [← List.append_assoc, ← List.append_assoc, ofPaths_append_singleton, ofPaths_append_singleton]
    exact directoryKey?_intern_congr (keys_ofPaths_append h further) ih last

omit h

theorem directoryKey?_eq_map (files : FileSet) (file : FileId) :
    files.directoryKey? file = ((files.path? file).bind Path.parent?).map
      fun directory : Path => key (directory.join []) := by
  rw [Option.map_bind]
  rfl

theorem path?_ofPaths_append (further : List Path)
    (h : (ofPaths paths).path? file = some path) :
    (ofPaths (paths ++ further)).path? file = some path := by
  induction further using List.reverseRecOn with
  | nil => rwa [List.append_nil]
  | append_singleton further last ih =>
    rw [← List.append_assoc, ofPaths_append_singleton]
    exact path?_intern_of_path? last ih

/-- A path that has become known is found. -/
theorem exists_find?_ofPaths (h : path ∈ paths) :
    ∃ file, (ofPaths paths).find? path = some file := by
  refine Option.ne_none_iff_exists'.mp fun hnone => ?_
  exact find?_ofPaths_eq_none_iff.mp hnone path h rfl

end FileSet

/-! ### Answers -/

namespace Workspace

variable {workspace other : Workspace} {referrer : FileId}

/-- The search begins with the directory of the referring file and goes on in the roots. -/
theorem resolve?_eq_or (workspace : Workspace) (path : Text) (referrer : FileId) :
    workspace.resolve? path referrer =
      if path.all (· == '.') then none
      else (((workspace.files.path? referrer).bind Path.parent?).bind fun directory =>
          workspace.files.find? (directory.join (relativePath path))).or
        (workspace.roots.findSome? fun directory =>
          workspace.files.find? (directory.join (relativePath path))) := by
  rw [resolve?, candidates, directories, List.findSome?_map, List.findSome?_append]
  cases (workspace.files.path? referrer).bind Path.parent? with
  | none => rfl
  | some directory =>
    rw [Option.toList_some, List.findSome?_singleton]
    rfl

/-- The answers depend on the keys of the files and of the directory of the referring file. -/
theorem resolve?_congr (hkeys : workspace.files.keys = other.files.keys)
    (hroots : workspace.roots = other.roots)
    (hdirectory : workspace.files.directoryKey? referrer = other.files.directoryKey? referrer)
    (path : Text) :
    workspace.resolve? path referrer = other.resolve? path referrer := by
  have hfind (directory directory' : Path)
      (h : FileSet.key (directory.join []) = FileSet.key (directory'.join [])) :
      workspace.files.find? (directory.join (relativePath path)) =
        other.files.find? (directory'.join (relativePath path)) :=
    FileSet.find?_congr_of_keys hkeys (Path.key_join_congr h _)
  have hroot : (fun directory : Path => workspace.files.find? (directory.join (relativePath path))) =
      fun directory : Path => other.files.find? (directory.join (relativePath path)) :=
    funext fun directory => hfind directory directory rfl
  rw [FileSet.directoryKey?_eq_map, FileSet.directoryKey?_eq_map] at hdirectory
  rw [resolve?_eq_or, bind_congr_of_map_eq hdirectory hfind, hroots, hroot, resolve?_eq_or]

/-- The files of a project that become known one after the other, and its roots. -/
def ofPaths (paths roots : List Path) : Workspace where
  files := .ofPaths paths
  roots := roots

variable {paths others : List Path}

theorem resolve?_ofPaths_congr
    (hkeys : (FileSet.ofPaths paths).keys = (FileSet.ofPaths others).keys)
    (hdirectory : (FileSet.ofPaths paths).directoryKey? referrer =
      (FileSet.ofPaths others).directoryKey? referrer) (roots : List Path) (path : Text) :
    (ofPaths paths roots).resolve? path referrer =
      (ofPaths others roots).resolve? path referrer := by
  have hkeys' : (ofPaths paths roots).files.keys = (ofPaths others roots).files.keys := hkeys
  exact resolve?_congr hkeys' rfl hdirectory path

/-- In a project without roots, a dotted path of a file means the file of that name in its
directory. -/
theorem resolve?_ofPaths_name (paths : List Path) (referrer : FileId) :
    (ofPaths paths []).resolve? ['x'] referrer =
      (((FileSet.ofPaths paths).path? referrer).bind Path.parent?).bind fun directory =>
        (FileSet.ofPaths paths).find? (directory.join "x.cfc".toList) := by
  rw [resolve?_eq_or, if_neg (by decide)]
  exact Option.or_none

/-- Where the directories of two spellings differ, a file in one of them tells. -/
theorem parentKey?_eq_of_resolve?_eq
    (h : List.Forall₂ (fun path other => FileSet.key path = FileSet.key other) paths others)
    {first second : Path} (hfirst : (FileSet.ofPaths paths).path? referrer = some first)
    (hsecond : (FileSet.ofPaths others).path? referrer = some second)
    (hsame : ∀ further, (ofPaths (paths ++ further) []).resolve? ['x'] referrer =
      (ofPaths (others ++ further) []).resolve? ['x'] referrer) :
    first.parentKey? = second.parentKey? := by
  obtain ⟨further, hfurther⟩ : ∃ further : List Path, ∀ directory : Path,
      directory ∈ first.parent? ∨ directory ∈ second.parent? →
        directory.join "x.cfc".toList ∈ further := by
    refine ⟨(first.parent?.toList ++ second.parent?.toList).map (Path.join · "x.cfc".toList), ?_⟩
    intro directory hdirectory
    exact List.mem_map_of_mem (by simpa using hdirectory)
  have hkeys := FileSet.keys_ofPaths_append h further
  have hfound {directory : Path} (hdirectory : directory ∈ first.parent? ∨ directory ∈ second.parent?) :=
    FileSet.exists_find?_ofPaths (List.mem_append_right paths (hfurther directory hdirectory))
  replace hsame := hsame further
  rw [resolve?_ofPaths_name, resolve?_ofPaths_name, FileSet.path?_ofPaths_append further hfirst,
    FileSet.path?_ofPaths_append further hsecond, Option.bind_some, Option.bind_some] at hsame
  rw [Path.parentKey?, Path.parentKey?]
  cases hdirectory : first.parent? with
  | none =>
    cases hdirectory' : second.parent? with
    | none => rfl
    | some directory' =>
      obtain ⟨file, hfile⟩ := hfound (.inr hdirectory')
      rw [hdirectory, hdirectory', Option.bind_none, Option.bind_some,
        ← FileSet.find?_congr_of_keys hkeys rfl, hfile] at hsame
      contradiction
  | some directory =>
    obtain ⟨file, hfile⟩ := hfound (.inl hdirectory)
    cases hdirectory' : second.parent? with
    | none =>
      rw [hdirectory, hdirectory', Option.bind_none, Option.bind_some, hfile] at hsame
      contradiction
    | some directory' =>
      rw [hdirectory, hdirectory', Option.bind_some, Option.bind_some,
        ← FileSet.find?_congr_of_keys hkeys rfl, hfile] at hsame
      have hkey := FileSet.key_eq_of_find? hfile hsame.symm
      have hrelative : Path.isAbsolute "x.cfc".toList = false := rfl
      rw [Path.key_join hrelative, Path.key_join hrelative] at hkey
      exact congrArg some (List.append_cancel_right hkey)

theorem directoryKey?_eq_of_resolve?_eq
    (h : List.Forall₂ (fun path other => FileSet.key path = FileSet.key other) paths others)
    (hsame : ∀ further, (ofPaths (paths ++ further) []).resolve? ['x'] referrer =
      (ofPaths (others ++ further) []).resolve? ['x'] referrer) :
    (FileSet.ofPaths paths).directoryKey? referrer =
      (FileSet.ofPaths others).directoryKey? referrer := by
  have hknown : ((FileSet.ofPaths paths).path? referrer).map (fun _ => ()) =
      ((FileSet.ofPaths others).path? referrer).map fun _ => () :=
    (FileSet.alike_ofPaths (h.imp fun _ _ hkey => ⟨hkey, rfl⟩)).map_path?_eq referrer
  cases hfirst : (FileSet.ofPaths paths).path? referrer with
  | none =>
    rw [hfirst, Option.map_none, eq_comm, Option.map_eq_none_iff] at hknown
    rw [FileSet.directoryKey?, hfirst, FileSet.directoryKey?, hknown]
  | some first =>
    rw [hfirst, Option.map_some, eq_comm, Option.map_eq_some_iff] at hknown
    obtain ⟨second, hsecond, -⟩ := hknown
    rw [FileSet.directoryKey?, hfirst, FileSet.directoryKey?, hsecond]
    exact parentKey?_eq_of_resolve?_eq h hfirst hsecond hsame

/-- **Spelling of directories.** Files that become known by other spellings are found alike. What
dotted paths mean in a file is the same, whatever else becomes known and whatever the roots are,
exactly if the directories of its spellings have one key; and it is the same if the spellings differ
in the case of letters only. -/
theorem resolve?_congr_iff
    (h : List.Forall₂ (fun path other => FileSet.key path = FileSet.key other) paths others)
    (referrer : FileId) :
    (∀ path, (FileSet.ofPaths paths).find? path = (FileSet.ofPaths others).find? path) ∧
    ((∀ further roots path, (ofPaths (paths ++ further) roots).resolve? path referrer =
        (ofPaths (others ++ further) roots).resolve? path referrer) ↔
      (FileSet.ofPaths paths).directoryKey? referrer =
        (FileSet.ofPaths others).directoryKey? referrer) ∧
    (List.Forall₂ (fun path other => lowercase path = lowercase other) paths others →
      ∀ roots path, (ofPaths paths roots).resolve? path referrer =
        (ofPaths others roots).resolve? path referrer) := by
  have hkeys : (FileSet.ofPaths paths).keys = (FileSet.ofPaths others).keys := by
    simpa using FileSet.keys_ofPaths_append h []
  refine ⟨?_, ⟨?_, ?_⟩, ?_⟩
  · intro path
    exact FileSet.find?_congr_of_keys hkeys rfl
  · intro hsame
    exact directoryKey?_eq_of_resolve?_eq h fun further => hsame further [] ['x']
  · intro hdirectory further roots path
    have hfile := FileSet.directoryKey?_ofPaths_append h hdirectory further
    exact resolve?_ofPaths_congr (FileSet.keys_ofPaths_append h further) hfile roots path
  · intro hlower roots path
    have halike : FileSet.Alike (fun path other => lowercase path = lowercase other)
        (FileSet.ofPaths paths) (FileSet.ofPaths others) :=
      FileSet.alike_ofPaths (hlower.imp fun _ _ hsame =>
        ⟨FileSet.key_congr_of_lowercase hsame, hsame⟩)
    have hfile : (FileSet.ofPaths paths).directoryKey? referrer =
        (FileSet.ofPaths others).directoryKey? referrer :=
      bind_congr_of_map_eq (halike.map_path?_eq referrer) fun _ _ => Path.parentKey?_congr_of_lowercase
    exact resolve?_ofPaths_congr hkeys hfile roots path

theorem not_resolve?_congr_backslash :
    List.Forall₂ (fun path other => FileSet.key path = FileSet.key other)
      ["app/User.cfc".toList, "app/Main.cfc".toList]
      ["app/User.cfc".toList, "app\\Main.cfc".toList] ∧
    ¬ ∀ further roots path,
      (ofPaths (["app/User.cfc".toList, "app/Main.cfc".toList] ++ further) roots).resolve? path ⟨1⟩ =
        (ofPaths (["app/User.cfc".toList, "app\\Main.cfc".toList] ++ further) roots).resolve? path
          ⟨1⟩ :=
  ⟨.cons rfl (.cons (by decide +kernel) .nil), fun hsame =>
    absurd ((resolve?_congr_iff (.cons rfl (.cons (by decide +kernel) .nil)) ⟨1⟩).2.1.mp hsame)
      (by decide +kernel)⟩

example :
    (ofPaths ["app/User.cfc".toList, "app/Main.cfc".toList] []).resolve? "User".toList ⟨1⟩ =
      some ⟨0⟩ ∧
    (ofPaths ["app/User.cfc".toList, "app\\Main.cfc".toList] []).resolve? "User".toList ⟨1⟩ =
      none := by
  decide +kernel

end Workspace

end CfmlNav
