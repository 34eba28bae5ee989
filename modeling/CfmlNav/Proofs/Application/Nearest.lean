import CfmlNav.Application
import CfmlNav.Proofs.FileTree
import CfmlNav.Proofs.Path.Ancestor

/-!
# The nearest application file

The search for an application file goes through the directories above a path, the nearest first, and
in each through the names of application files, until one leads to a file. With a root it ends at
the root. Whether a path lies under the root, where the search ends, and what the directories above
a path are, is all a matter of parts of paths (`map_parts_upTo`), so the three agree: a file that is
found lies under the root, and none of the directories under the root is left out
(`findAbove_isNearest`). The file system only says which of the candidates are files, so this holds
of any.
-/

namespace CfmlNav

open CfmlNav.Path

namespace ApplicationFiles

variable {root : Option Path} {path : Path}

/-! ### Directories up to the root -/

theorem upTo_prefix_self (root : Option Path) (directories : List Path) :
    upTo root directories <+: directories := by
  induction directories with
  | nil => exact List.prefix_refl []
  | cons directory rest ih =>
    rw [upTo]
    split
    · exact List.prefix_append [directory] rest
    · exact (List.prefix_cons_inj directory).mpr ih

theorem upTo_none (directories : List Path) : upTo .none directories = directories := by
  induction directories with
  | nil => rfl
  | cons directory rest ih =>
    rw [upTo, ih]
    rfl

theorem upTo_cons (r directory : Path) (rest : List Path) :
    upTo (some r) (directory :: rest) =
      if directory.parts = r.parts then [directory] else directory :: upTo (some r) rest := by
  simp [upTo, sameParts]

/-- A root among some directories is the last one that is searched. -/
theorem getLast?_upTo {r : Path} {directories : List Path}
    (h : r.parts ∈ directories.map parts) :
    (upTo (some r) directories).getLast?.map parts = some r.parts := by
  induction directories with
  | nil => contradiction
  | cons directory rest ih =>
    rw [upTo_cons]
    split
    next hsame => rw [List.getLast?_singleton, Option.map_some, hsame]
    next hdiffers =>
      rw [List.map_cons, List.mem_cons] at h
      have hlast := ih (h.resolve_left (Ne.symm hdiffers))
      obtain ⟨last, hmem, -⟩ := Option.map_eq_some_iff.mp hlast
      rw [List.getLast?_cons, hmem, Option.getD_some, ← hmem, hlast]

/-- **Below a root the search goes up to it.** The directories that are searched for a path under
the root are those above the path that are the root or lie under it. -/
theorem map_parts_upTo (hunder : ∀ r ∈ root, r.parts <+: path.parts)
    (hne : ∀ r ∈ root, r.parts ≠ path.parts) :
    (upTo root path.ancestors).map parts =
      path.above.filter fun parts => decide (∀ r ∈ root, r.parts <+: parts) := by
  cases root with
  | none => simp [upTo_none, map_parts_ancestors]
  | some r =>
    simp only [Option.mem_some_iff, forall_eq'] at hunder hne ⊢
    induction path using parentInduction with
    | start path hnone => rw [ancestors_eq, hnone, above_of_parent?_none hnone]; rfl
    | step path parent hparent ih =>
      obtain ⟨part, hparts⟩ := parts_of_parent? hparent
      -- the root is not the path, so it is the parent or lies above it
      have habove : r.parts <+: parent.parts := by
        rw [hparts, List.prefix_concat_iff] at hunder
        exact hunder.resolve_left (hparts ▸ hne)
      rw [ancestors_eq, hparent, above_of_parent? hparent, List.filter_cons,
        if_pos (decide_eq_true habove)]
      dsimp only
      rw [upTo_cons]
      split
      next hsame =>
        -- what is above the root has fewer parts than the root
        have hfarther : parent.above.filter (fun parts => decide (r.parts <+: parts)) = [] := by
          refine List.filter_eq_nil_iff.mpr fun parts hmem hprefix => ?_
          have hlt := length_lt_of_mem_above hmem
          have hle := (of_decide_eq_true hprefix).length_le
          rw [hsame] at hlt
          omega
        rw [hfarther]
        rfl
      next hdiffers =>
        rw [List.map_cons, ih habove (Ne.symm hdiffers)]

/-! ### The file that is found -/

/-- What is found lies under the directory in which it is found. -/
theorem parts_prefix_of_mem_names {directory name : Path} (h : name ∈ names) :
    directory.parts <+: (directory.join name).parts := by
  have hnames : ∀ name ∈ names, '/' ∉ name ∧ part? name = some (.name name) := by decide
  rw [parts_join directory (hnames name h).1 (hnames name h).2]
  exact List.prefix_append _ _

/-- **The nearest application file within the root.** A path that does not lie under the root has no
application file. For any other path but the root the application file is the first file among the
candidates: the names of application files, in order, in each of the directories above the path, the
nearest first, up to and with the root if it is one of them. What is found lies under the root, and
is a file, never a directory. All this holds of every file system, whatever it answers. -/
theorem findAbove_isNearest (disk : FileSystem) (root : Option Path) (path : Path)
    (hne : ∀ r ∈ root, r.parts ≠ path.parts) :
    ((∃ r ∈ root, ¬ r.parts <+: path.parts) → findAbove disk root path = .none) ∧
    ((∀ r ∈ root, r.parts <+: path.parts) → ∃ directories : List Path,
      directories.map parts =
        (path.above.filter fun parts => decide (∀ r ∈ root, r.parts <+: parts)) ∧
      (∀ directory ∈ directories, directory <+: path) ∧
      (∀ r ∈ root, r.parts ∈ path.above → directories.getLast?.map parts = some r.parts) ∧
      findAbove disk root path =
        (directories.flatMap fun directory => names.map directory.join).find? disk.isFile) ∧
    ∀ found, findAbove disk root path = some found →
      (∀ r ∈ root, r.parts <+: found.parts) ∧ disk.isFile found = true ∧
      ∀ tree : FileTree, disk = tree.fileSystem →
        ∃ content, tree.find found = .ok (.file content) := by
  have hfind (hunder : ∀ r ∈ root, r.parts <+: path.parts) : findAbove disk root path =
      ((upTo root path.ancestors).flatMap fun directory =>
        names.map directory.join).find? disk.isFile := by
    rw [findAbove, findIn, if_pos]
    cases root with
    | none => rfl
    | some r => exact List.isPrefixOf_iff_prefix.mpr (hunder r rfl)
  have hnone (houtside : ∃ r ∈ root, ¬ r.parts <+: path.parts) :
      findAbove disk root path = .none := by
    obtain ⟨r, rfl, hr⟩ := houtside
    rw [findAbove, if_neg]
    exact mt List.isPrefixOf_iff_prefix.mp hr
  refine ⟨hnone, ?_, ?_⟩
  · intro hunder
    refine ⟨upTo root path.ancestors, map_parts_upTo hunder hne, ?_, ?_, hfind hunder⟩
    · intro directory hdirectory
      exact prefix_of_mem_ancestors ((upTo_prefix_self root path.ancestors).subset hdirectory)
    · rintro r rfl hmem
      exact getLast?_upTo (map_parts_ancestors path ▸ hmem)
  · intro found hfound
    have hunder : ∀ r ∈ root, r.parts <+: path.parts := by
      intro r hr
      by_contra houtside
      rw [hnone ⟨r, hr, houtside⟩] at hfound
      contradiction
    rw [hfind hunder] at hfound
    have hfile : disk.isFile found = true := List.find?_some hfound
    refine ⟨fun r hr => ?_, hfile, ?_⟩
    · obtain ⟨directory, hdirectory, hcandidate⟩ :=
        List.mem_flatMap.mp (List.mem_of_find?_eq_some hfound)
      obtain ⟨name, hname, rfl⟩ := List.mem_map.mp hcandidate
      have hparts := List.mem_map_of_mem (f := parts) hdirectory
      rw [map_parts_upTo hunder hne, List.mem_filter] at hparts
      exact (of_decide_eq_true hparts.2 r hr).trans (parts_prefix_of_mem_names hname)
    · rintro tree rfl
      exact FileTree.isFile_iff.mp hfile

/-- In the directory of the path a directory has the name of an application file, and there is an
application file above the root. What is found is the one in the root. -/
theorem findAbove_isNearest_project :
    let tree := ((({} : FileTree).makeDirectory "/site/project/app/Application.cfc".toList).write
      "/site/project/Application.cfm".toList (some [])).write
        "/site/Application.cfc".toList (some [])
    let root : Option Path := some "/site/project//".toList
    let path : Path := "/site/project/app/./page.cfm".toList
    let found : Path := "/site/project/Application.cfm".toList
    (∀ r ∈ root, r.parts ≠ path.parts) ∧ findAbove tree.fileSystem root path = some found ∧
      (∀ r ∈ root, r.parts <+: found.parts) ∧ tree.fileSystem.isFile found = true ∧
      ∃ content, tree.find found = .ok (.file content) := by
  intro tree root path found
  have hne : ∀ r ∈ root, r.parts ≠ path.parts := by
    intro r hr
    obtain rfl : "/site/project//".toList = r := Option.some_inj.mp hr
    decide +kernel
  have hfound : findAbove tree.fileSystem root path = some found := by decide +kernel
  obtain ⟨hunder, hfile, htree⟩ :=
    (findAbove_isNearest tree.fileSystem root path hne).2.2 found hfound
  exact ⟨hne, hfound, hunder, hfile, htree tree rfl⟩

/-- For the root itself as the path, the search goes on above the root. -/
example : findAbove (({} : FileTree).write "Application.cfc".toList (some [])).fileSystem
    (some "project".toList) "project/".toList = some "Application.cfc".toList := by
  decide +kernel

end ApplicationFiles

end CfmlNav
