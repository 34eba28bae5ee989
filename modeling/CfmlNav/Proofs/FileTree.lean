import CfmlNav.FileTree
import CfmlNav.Proofs.Path

/-!
# Paths in a tree

The working directory of a tree is a place in it, so a relative path is the rest of an absolute one:
from the root on through the names of the working directory (`absolute`). Both lead to the same,
also where the path steps up out of the working directory and comes back into it
(`find_absolute`). So every file of a tree is reached by absolute paths.
-/

namespace CfmlNav.FileTree

open Text

variable {tree : FileTree} {path : Path} {names : List Text}

theorem isFile_iff :
    tree.isFile path = true ↔ ∃ content, tree.find path = .ok (.file content) := by
  rw [isFile]
  split
  next content hfile => exact iff_of_true rfl ⟨content, hfile⟩
  next hnot => exact iff_of_false (by simp) fun ⟨content, hfile⟩ => hnot content hfile

/-- A path that the system does not refuse is followed piece by piece. -/
theorem find_eq_foldlM (tree : FileTree) (hne : path ≠ []) (hnul : '\x00' ∉ path)
    (hsize : path.byteSize ≤ pathLimit) :
    tree.find path =
      (splitOnChar '/' path).foldlM tree.follow (.directory (tree.startOf path)) := by
  rw [find, if_neg (by simpa using hnul), if_neg (Nat.not_lt.mpr hsize),
    if_neg (by simpa using hne)]

/-- The rest of a path is followed from where its first pieces lead. -/
theorem foldlM_follow_append {start next : Found} {pieces : List Text}
    (h : pieces.foldlM tree.follow start = .ok next) (rest : List Text) :
    (pieces ++ rest).foldlM tree.follow start = rest.foldlM tree.follow next := by
  rw [List.foldlM_append, h]
  rfl

/-! ### Through the working directory -/

/-- Whether a text can be the name of something in a directory. -/
def IsName (name : Text) : Prop :=
  '/' ∉ name ∧ Path.part? name = some (.name name) ∧ name.byteSize ≤ nameLimit

/-- The names of the working directory, followed from the root on, lead there. -/
theorem foldlM_follow_of_suffix (hnames : ∀ name ∈ names, IsName name)
    (hsuffix : names <:+ tree.workingDirectory) :
    names.reverse.foldlM tree.follow (.directory []) = .ok (.directory names) := by
  induction names with
  | nil => rfl
  | cons name rest ih =>
    obtain ⟨⟨-, hpart, hsize⟩, hrest⟩ := List.forall_mem_cons.mp hnames
    have hnode : tree.node? (name :: rest) = some .directory := by
      rw [node?, if_pos (List.isSuffixOf_iff_suffix.mpr hsuffix)]
    have hlast : tree.follow (.directory rest) name = .ok (.directory (name :: rest)) := by
      simp only [follow, hpart, lookup, if_neg (Nat.not_lt.mpr hsize), hnode]
    have habove := ih hrest ((List.suffix_cons name rest).trans hsuffix)
    rw [List.reverse_cons, foldlM_follow_append habove, List.foldlM_cons, hlast]
    rfl

/-- A relative path as an absolute one: from the root on through a directory, whose last name comes
first. -/
def absolute (names : List Text) (path : Path) : Path :=
  '/' :: joinWithChar '/' (names.reverse ++ splitOnChar '/' path)

theorem splitOnChar_absolute (hnames : ∀ name ∈ names, IsName name) (path : Path) :
    splitOnChar '/' (absolute names path) = [] :: (names.reverse ++ splitOnChar '/' path) := by
  have hslash : ∀ piece ∈ names.reverse ++ splitOnChar '/' path, '/' ∉ piece := by
    intro piece hpiece
    rcases List.mem_append.mp hpiece with hname | hpiece
    · exact (hnames piece (List.mem_reverse.mp hname)).1
    · exact not_mem_of_mem_splitOnChar hpiece
  have hne : names.reverse ++ splitOnChar '/' path ≠ [] :=
    List.append_ne_nil_of_right_ne_nil _ (splitOnChar_ne_nil '/' path)
  rw [absolute, splitOnChar, if_pos rfl, splitOnChar_joinWithChar hslash hne]

/-- The absolute path ends with the path itself. -/
theorem exists_absolute_eq_append (names : List Text) (path : Path) :
    ∃ front, absolute names path = front ++ path := by
  have hjoin (before : List Text) :
      ∃ front, joinWithChar '/' (before ++ splitOnChar '/' path) = front ++ path := by
    induction before with
    | nil => exact ⟨[], joinWithChar_splitOnChar path⟩
    | cons piece before ih =>
      obtain ⟨front, hfront⟩ := ih
      have hne : before ++ splitOnChar '/' path ≠ [] :=
        List.append_ne_nil_of_right_ne_nil _ (splitOnChar_ne_nil '/' path)
      exact ⟨piece ++ '/' :: front, by simp [joinWithChar_cons piece hne, hfront]⟩
  obtain ⟨front, hfront⟩ := hjoin names.reverse
  exact ⟨'/' :: front, congrArg ('/' :: ·) hfront⟩

/-- **A relative path leads where the absolute path through the working directory leads,** unless
the absolute path is one that the system refuses. -/
theorem find_absolute (hnames : ∀ name ∈ tree.workingDirectory, IsName name)
    (hrelative : path.isAbsolute = false) (hne : path ≠ [])
    (hnul : '\x00' ∉ absolute tree.workingDirectory path)
    (hsize : (absolute tree.workingDirectory path).byteSize ≤ pathLimit) :
    tree.find (absolute tree.workingDirectory path) = tree.find path := by
  obtain ⟨front, hfront⟩ := exists_absolute_eq_append tree.workingDirectory path
  have hnul' : '\x00' ∉ path := fun h => hnul (hfront ▸ List.mem_append_right front h)
  have hsize' : path.byteSize ≤ pathLimit := by
    rw [hfront, byteSize_append] at hsize
    omega
  have hfollow : (splitOnChar '/' (absolute tree.workingDirectory path)).foldlM tree.follow
      (.directory []) = (splitOnChar '/' path).foldlM tree.follow
        (.directory tree.workingDirectory) := by
    rw [splitOnChar_absolute hnames]
    -- the empty piece before the first slash stays at the root
    exact foldlM_follow_append (foldlM_follow_of_suffix hnames (List.suffix_refl _)) _
  have hne' : absolute tree.workingDirectory path ≠ [] := List.cons_ne_nil _ _
  rw [find_eq_foldlM tree hne' hnul hsize, find_eq_foldlM tree hne hnul' hsize', startOf, startOf,
    hrelative, if_neg Bool.false_ne_true]
  exact hfollow

/-- Out of the working directory and back into it. -/
example :
    let tree := ({} : FileTree).write "page.cfm".toList (some [])
    tree.isFile "../session/page.cfm".toList = true ∧
      tree.isFile "/session/page.cfm".toList = true ∧
      tree.isFile "../page.cfm".toList = false := by
  decide +kernel

end CfmlNav.FileTree
