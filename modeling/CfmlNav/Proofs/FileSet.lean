import CfmlNav.FileSet
import Mathlib.Data.List.Induction
import Mathlib.Data.List.Nodup

/-!
# What is known of files

Files are numbered in the order in which they become known, and a path that becomes known changes
nothing for those before it (`find?_intern`, `path?_intern_of_path?`). So a file keeps its number and
the spelling by which it was first known (`path?_intern`, `known?_ofPaths`), and a number leads to a
path that leads back to it, because no two files have one key (`IsConsistent`).
-/

namespace CfmlNav

namespace FileSet

variable {files : FileSet} {path other : Path}

/-- The known files after some paths have become known, one after the other. -/
def ofPaths (paths : List Path) : FileSet :=
  paths.foldl (fun files path => (files.intern path).2) empty

/-- The spelling by which a path is known, if it is. -/
def known? (files : FileSet) (path : Path) : Option Path :=
  (files.find? path).bind files.path?

theorem known?_eq (files : FileSet) (path : Path) :
    files.known? path =
      (files.entries.find? fun entry => entry.key == key path).map FileEntry.path := by
  rw [known?, find?, Option.bind_map, List.find?_eq_bind_findIdx?_getElem?, Option.map_bind]
  rfl

theorem known?_eq_none_iff : files.known? path = none ↔ files.find? path = none := by
  rw [known?_eq, Option.map_eq_none_iff, List.find?_eq_none, find?, Option.map_eq_none_iff,
    List.findIdx?_eq_none_iff]
  simp

/-- All spellings of a path are known alike. -/
theorem known?_congr (h : key path = key other) : files.known? path = files.known? other := by
  rw [known?_eq, known?_eq, h]

theorem exists_known?_of_find? {file : FileId} (h : files.find? path = some file) :
    ∃ first, files.known? path = some first ∧ files.path? file = some first := by
  have hpath : files.known? path = files.path? file := by rw [known?, h, Option.bind_some]
  have hknown : files.known? path ≠ none := by
    rw [Ne, known?_eq_none_iff, h]
    simp
  obtain ⟨first, hfirst⟩ := Option.ne_none_iff_exists'.mp hknown
  exact ⟨first, hfirst, hpath ▸ hfirst⟩

theorem intern_of_find?_some {file : FileId} (h : files.find? path = some file) :
    files.intern path = (file, files) := by
  rw [intern, h]

theorem intern_of_find?_none (h : files.find? path = none) :
    files.intern path = (⟨files.size⟩, ⟨files.entries ++ [⟨key path, path⟩]⟩) := by
  rw [intern, h]

/-- What becomes known changes nothing for the paths that have been known. -/
theorem known?_intern (files : FileSet) (path other : Path) :
    (files.intern path).2.known? other =
      (files.known? other).or (if key path = key other then some path else none) := by
  cases hfind : files.find? path with
  | some file =>
    rw [intern_of_find?_some hfind]
    split
    next hkey =>
      obtain ⟨first, hfirst, -⟩ := exists_known?_of_find? hfind
      rw [← known?_congr hkey, hfirst]
      rfl
    next => rw [Option.or_none]
  | none =>
    rw [intern_of_find?_none hfind, known?_eq, known?_eq, List.find?_append, Option.map_or,
      List.find?_singleton]
    by_cases hkey : key path = key other <;> simp [hkey]

/-- A file that becomes known has its path, or the spelling by which it was first known. -/
theorem path?_intern (files : FileSet) (path : Path) :
    (files.intern path).2.path? (files.intern path).1 = some ((files.known? path).getD path) := by
  cases hfind : files.find? path with
  | some file =>
    obtain ⟨first, hfirst, hpath⟩ := exists_known?_of_find? hfind
    rw [intern_of_find?_some hfind, hpath, hfirst, Option.getD_some]
  | none =>
    rw [intern_of_find?_none hfind, known?_eq_none_iff.mpr hfind, Option.getD_none, path?, size]
    simp

/-- The spelling of a path that comes first among some paths, or the path itself if there is none
among them. -/
def firstSpelling (paths : List Path) (path : Path) : Path :=
  (paths.find? fun other => key other == key path).getD path

theorem ofPaths_append_singleton (paths : List Path) (last : Path) :
    ofPaths (paths ++ [last]) = ((ofPaths paths).intern last).2 := by
  rw [ofPaths, List.foldl_append]
  rfl

/-- A path is known by the first spelling of it that has become known. -/
theorem known?_ofPaths (paths : List Path) (path : Path) :
    (ofPaths paths).known? path = paths.find? fun other => key other == key path := by
  induction paths using List.reverseRecOn with
  | nil => rfl
  | append_singleton paths last ih =>
    rw [ofPaths_append_singleton, known?_intern, ih, List.find?_append, List.find?_singleton]
    simp

/-- A path is unknown if no spelling of it has become known. -/
theorem find?_ofPaths_eq_none_iff {paths : List Path} :
    (ofPaths paths).find? path = none ↔ ∀ other ∈ paths, key other ≠ key path := by
  rw [← known?_eq_none_iff, known?_ofPaths, List.find?_eq_none]
  simp

theorem key_firstSpelling (paths : List Path) (path : Path) :
    key (firstSpelling paths path) = key path := by
  rw [firstSpelling]
  cases hfirst : paths.find? fun other => key other == key path with
  | none => rfl
  | some first =>
    have hkey := List.find?_some hfirst
    rw [beq_iff_eq] at hkey
    exact hkey

/-- A path with no other spelling among some paths is its own first spelling. -/
theorem firstSpelling_eq_self {paths : List Path}
    (h : ∀ other ∈ paths, key other = key path → other = path) :
    firstSpelling paths path = path := by
  rw [firstSpelling]
  cases hfirst : paths.find? fun other => key other == key path with
  | none => rfl
  | some first =>
    have hkey := List.find?_some hfirst
    rw [beq_iff_eq] at hkey
    exact h first (List.mem_of_find?_eq_some hfirst) hkey

/-! ### Numbers -/

/-- The keys of the known files, by number. -/
def keys (files : FileSet) : List Text :=
  files.entries.map FileEntry.key

theorem find?_eq_some_iff {file : FileId} :
    files.find? path = some file ↔ files.keys.idxOf? (key path) = some file.index := by
  have hkeys : files.keys.idxOf? (key path) =
      files.entries.findIdx? fun entry => entry.key == key path := by
    rw [keys, List.idxOf?, List.findIdx?_map]
    rfl
  rw [find?, hkeys, Option.map_eq_some_iff]
  constructor
  · rintro ⟨index, hindex, rfl⟩
    exact hindex
  · intro hindex
    exact ⟨file.index, hindex, rfl⟩

/-- A path is unknown if its key is that of no known file. -/
theorem find?_eq_none_iff : files.find? path = none ↔ key path ∉ files.keys := by
  simp [find?, keys]

/-- A path is found by its key among those of the files. -/
theorem find?_congr_of_keys {files' : FileSet} (hkeys : files.keys = files'.keys)
    (h : key path = key other) : files.find? path = files'.find? other := by
  refine Option.ext fun file => ?_
  rw [find?_eq_some_iff, find?_eq_some_iff, hkeys, h]

/-- All spellings of a path are found alike. -/
theorem find?_congr (h : key path = key other) : files.find? path = files.find? other :=
  find?_congr_of_keys rfl h

/-- Two paths of one file have one key. -/
theorem key_eq_of_find? {file : FileId} (h : files.find? path = some file)
    (hother : files.find? other = some file) : key path = key other := by
  rw [find?_eq_some_iff, List.idxOf?_eq_some_iff] at h hother
  obtain ⟨_, hkey, -⟩ := h
  obtain ⟨_, hkey', -⟩ := hother
  exact hkey.symm.trans hkey'

/-- A path that becomes known changes nothing for the paths that have been known, and all its
spellings are the next file. -/
theorem find?_intern (files : FileSet) (path other : Path) :
    (files.intern path).2.find? other =
      (files.find? other).or (if key path = key other then some (files.intern path).1 else none) := by
  cases hfind : files.find? path with
  | some file =>
    rw [intern_of_find?_some hfind]
    split
    next hkey => rw [← find?_congr hkey, hfind, Option.or_self]
    next => rw [Option.or_none]
  | none =>
    rw [intern_of_find?_none hfind, find?, find?, List.findIdx?_append, Option.map_or, size]
    congr 1
    by_cases hkey : key path = key other <;> simp [hkey]

/-- A path that has been known keeps its file. -/
theorem find?_intern_of_find?_some {file : FileId} (further : Path) (h : files.find? path = some file) :
    (files.intern further).2.find? path = some file := by
  rw [find?_intern, h, Option.some_or]

/-- A path that has been unknown can only be the file that becomes known. -/
theorem eq_of_find?_intern {file : FileId} {further : Path} (hnone : files.find? path = none)
    (h : (files.intern further).2.find? path = some file) : file = (files.intern further).1 := by
  rw [find?_intern, hnone, Option.none_or] at h
  split at h
  · exact (Option.some_inj.mp h).symm
  · contradiction

theorem find?_intern_self (files : FileSet) (path : Path) :
    (files.intern path).2.find? path = some (files.intern path).1 := by
  cases hfind : files.find? path with
  | some file => rw [intern_of_find?_some hfind, hfind]
  | none => rw [find?_intern, hfind, if_pos rfl, Option.none_or]

/-- What a path becoming known adds is at the end, and at most one file. -/
theorem exists_entries_intern (files : FileSet) (path : Path) :
    ∃ added, (files.intern path).2.entries = files.entries ++ added ∧ added.length ≤ 1 := by
  cases hfind : files.find? path with
  | some file => exact ⟨[], by rw [intern_of_find?_some hfind, List.append_nil], Nat.zero_le 1⟩
  | none => exact ⟨[⟨key path, path⟩], by rw [intern_of_find?_none hfind], Nat.le_refl 1⟩

theorem size_intern (files : FileSet) (path : Path) :
    (files.intern path).2.size = files.size + if files.find? path = none then 1 else 0 := by
  cases hfind : files.find? path with
  | some file => simp [intern_of_find?_some hfind]
  | none => simp [intern_of_find?_none hfind, size]

/-- A file keeps its path. -/
theorem path?_intern_of_path? {file : FileId} (other : Path) (h : files.path? file = some path) :
    (files.intern other).2.path? file = some path := by
  obtain ⟨added, hadded, -⟩ := exists_entries_intern files other
  obtain ⟨entry, hentry, rfl⟩ := Option.map_eq_some_iff.mp h
  rw [path?, hadded, List.getElem?_append_left (List.getElem?_eq_some_iff.mp hentry).1, hentry]
  rfl

/-- The numbers in use are those below the number of files. -/
theorem path?_isSome_iff {file : FileId} :
    (files.path? file).isSome = true ↔ file.index < files.size := by
  simp [path?, size]

/-! ### Paths and keys -/

/-- Whether every file has the key of its path, and no two files have one key. -/
structure IsConsistent (files : FileSet) : Prop where
  key_eq : ∀ entry ∈ files.entries, entry.key = key entry.path
  nodup_keys : files.keys.Nodup

theorem IsConsistent.intern (h : files.IsConsistent) (path : Path) :
    (files.intern path).2.IsConsistent := by
  cases hfind : files.find? path with
  | some file => rwa [intern_of_find?_some hfind]
  | none =>
    rw [intern_of_find?_none hfind]
    constructor
    · intro entry hentry
      rcases List.mem_append.mp hentry with hold | hnew
      · exact h.key_eq entry hold
      · rw [List.mem_singleton.mp hnew]
    · rw [keys, List.map_append, List.map_singleton]
      exact List.Nodup.append h.nodup_keys (List.nodup_singleton _)
        (List.disjoint_singleton.mpr (find?_eq_none_iff.mp hfind))

theorem isConsistent_ofPaths (paths : List Path) : (ofPaths paths).IsConsistent := by
  induction paths using List.reverseRecOn with
  | nil => exact ⟨by simp [ofPaths, empty], by simp [ofPaths, empty, keys]⟩
  | append_singleton paths last ih =>
    rw [ofPaths_append_singleton]
    exact ih.intern last

/-- The path of a file leads back to it. -/
theorem IsConsistent.find?_of_path? (h : files.IsConsistent) {file : FileId}
    (hpath : files.path? file = some path) : files.find? path = some file := by
  obtain ⟨entry, hentry, rfl⟩ := Option.map_eq_some_iff.mp hpath
  have hkey : files.keys[file.index]? = some (key entry.path) := by
    rw [keys, List.getElem?_map, hentry, Option.map_some,
      h.key_eq entry (List.mem_of_getElem? hentry)]
  obtain ⟨hlt, hget⟩ := List.getElem?_eq_some_iff.mp hkey
  rw [find?_eq_some_iff, List.idxOf?_eq_some_iff]
  refine ⟨hlt, hget, fun index hindex hsame => ?_⟩
  have hfile := (h.nodup_keys.getElem_inj_iff).mp (hsame.trans hget.symm)
  omega

end FileSet

end CfmlNav
