import CfmlNav.Workspace
import CfmlNav.Proofs.Path
import CfmlNav.Proofs.LetterCase.Text
import Mathlib.Tactic.SplitIfs

/-!
# Paths up to ASCII case

Slashes and dots are no letters, so lowering goes along the slashes of a path
(`isPiecewise_asciiLowercase`) and leaves its dots, and every operation on paths commutes with it.
Known files are found by keys in lower case, hence a dotted path and its lowered form mean the same
file (`resolve?_asciiLowercase`).
-/

namespace CfmlNav

open Character Text

/-! ### Pieces -/

theorem Text.splitOnChar_asciiLowercase {separator : Char} (h : isAsciiLetter separator = false)
    (text : Text) :
    splitOnChar separator text.asciiLowercase =
      (splitOnChar separator text).map asciiLowercase := by
  induction text with
  | nil => rfl
  | cons c rest ih =>
    simp only [asciiLowercase_cons, splitOnChar, asciiLower_eq_iff h, ih]
    split
    · rfl
    · cases splitOnChar separator rest <;> rfl

theorem isPiecewise_asciiLowercase : IsPiecewise asciiLowercase where
  append_slash _ _ := List.map_append
  not_mem hslash hmem := by
    obtain ⟨c, hc, hlower⟩ := List.mem_map.mp hmem
    exact hslash ((asciiLower_eq_iff rfl).mp hlower ▸ hc)
  eq_nil_iff := asciiLowercase_eq_nil_iff
  eq_dot_iff := asciiLowercase_eq_iff (by decide)

/-- The part with a lowered name. -/
def PathPart.asciiLowercase : PathPart → PathPart
  | name n => name n.asciiLowercase
  | part => part

namespace Path

/-! ### Parts -/

theorem part?_asciiLowercase (piece : Text) :
    part? piece.asciiLowercase = (part? piece).map PathPart.asciiLowercase := by
  have hup : piece.asciiLowercase = ['.', '.'] ↔ piece = ['.', '.'] :=
    asciiLowercase_eq_iff (by decide)
  simp only [part?, isPiecewise_asciiLowercase.isBlank_map, hup]
  split_ifs <;> rfl

theorem parts_asciiLowercase (path : Path) :
    parts path.asciiLowercase = path.parts.map PathPart.asciiLowercase := by
  have hpieces (pieces : List Text) :
      (pieces.map asciiLowercase).filterMap part? =
        (pieces.filterMap part?).map PathPart.asciiLowercase := by
    rw [List.filterMap_map, List.map_filterMap]
    exact congrArg (List.filterMap · pieces) (funext part?_asciiLowercase)
  rw [parts, parts, isPiecewise_asciiLowercase.splitLead_map, isPiecewise_asciiLowercase.pieces_map,
    hpieces, List.map_append]
  congr 1
  dsimp only
  generalize path.splitLead.1 = lead
  split <;> rfl

/-! ### Names and extensions -/

theorem fileName?_asciiLowercase (path : Path) :
    fileName? path.asciiLowercase = path.fileName?.map asciiLowercase := by
  rw [fileName?, parts_asciiLowercase, List.getLast?_map, fileName?]
  cases path.parts.getLast? with
  | none => rfl
  | some part => cases part <;> rfl

theorem splitExtension_asciiLowercase (name : Text) :
    splitExtension name.asciiLowercase =
      ((splitExtension name).1.asciiLowercase, (splitExtension name).2.map asciiLowercase) := by
  have hnotDot : Character.CaseBlind (· != '.') := caseBlind_of_letters (by decide)
  simp only [splitExtension, reverse_asciiLowercase, takeWhile_asciiLowercase hnotDot,
    take_asciiLowercase, length_asciiLowercase, asciiLowercase_eq_nil_iff]
  split_ifs <;> rfl

theorem withExtension_asciiLowercase (path : Path) (extension : Text) :
    withExtension path.asciiLowercase extension.asciiLowercase =
      asciiLowercase (path.withExtension extension) := by
  rw [withExtension, fileName?_asciiLowercase, withExtension]
  cases path.fileName? with
  | none => rfl
  | some name =>
    have hlast : (path.pieces.map asciiLowercase |> trimBlank).dropLast ++
          [(splitExtension name.asciiLowercase).1] =
        ((trimBlank path.pieces).dropLast ++ [(splitExtension name).1]).map asciiLowercase := by
      rw [isPiecewise_asciiLowercase.trimBlank_map, ← List.map_dropLast,
        splitExtension_asciiLowercase, List.map_append]
      rfl
    have hlead : asciiLowercase path.splitLead.1 = path.splitLead.1 := by
      rcases path.splitLead_fst with h | h | h <;> rw [h] <;> rfl
    simp only [Option.map_some, isPiecewise_asciiLowercase.splitLead_map,
      isPiecewise_asciiLowercase.pieces_map, hlast, isPiecewise_asciiLowercase.joinWithChar_map,
      asciiLowercase_append, hlead]
    rfl

end Path

/-! ### Files -/

theorem FileSet.key_asciiLowercase (path : Path) :
    FileSet.key path.asciiLowercase = FileSet.key path := by
  have hslash (c : Char) : (if asciiLower c = '\\' then '/' else asciiLower c) =
      asciiLower (if c = '\\' then '/' else c) := by
    rw [apply_ite asciiLower]
    simp only [asciiLower_eq_iff (d := '\\') rfl]
    rfl
  have hmap : List.map (fun c => if c = '\\' then '/' else c) path.asciiLowercase =
      asciiLowercase (path.map fun c => if c = '\\' then '/' else c) := by
    simp only [asciiLowercase, List.map_map]
    exact congrArg (List.map · path) (funext hslash)
  rw [FileSet.key, hmap, lowercase_asciiLowercase, FileSet.key]

/-- Files are found by keys in lower case, so the case of the end of a path does not matter. -/
theorem FileSet.find?_join_asciiLowercase (files : FileSet) (directory relative : Path) :
    files.find? (directory.join relative.asciiLowercase) =
      files.find? (directory.join relative) := by
  have hkey : FileSet.key (directory.join relative.asciiLowercase) =
      FileSet.key (directory.join relative) := by
    rw [← FileSet.key_asciiLowercase, ← isPiecewise_asciiLowercase.join_map,
      asciiLowercase_asciiLowercase, isPiecewise_asciiLowercase.join_map, FileSet.key_asciiLowercase]
  rw [FileSet.find?, hkey, FileSet.find?]

namespace Workspace

theorem relativePath_asciiLowercase (path : Text) :
    relativePath path.asciiLowercase = asciiLowercase (relativePath path) := by
  have hfilter (segments : List Text) :
      (segments.map asciiLowercase).filter (fun segment => !segment.isEmpty) =
        (segments.filter fun segment => !segment.isEmpty).map asciiLowercase := by
    rw [List.filter_map]
    exact congrArg (fun p => (segments.filter p).map asciiLowercase)
      (funext fun segment => congrArg (!·) (isEmpty_asciiLowercase segment))
  have hjoin (segments : List Text) (start : Path) :
      (segments.map asciiLowercase).foldl Path.join start.asciiLowercase =
        asciiLowercase (segments.foldl Path.join start) := by
    induction segments generalizing start with
    | nil => rfl
    | cons segment segments ih =>
      rw [List.map_cons, List.foldl_cons, isPiecewise_asciiLowercase.join_map, ih, List.foldl_cons]
  rw [relativePath, splitOnChar_asciiLowercase rfl, hfilter]
  exact (congrArg (Path.withExtension · componentExtension) (hjoin _ [])).trans
    (Path.withExtension_asciiLowercase _ componentExtension)

/-- **Dotted paths do not see case.** A dotted path and its lowered form mean the same file. -/
theorem resolve?_asciiLowercase (workspace : Workspace) (path : Text) (referrer : FileId) :
    workspace.resolve? path.asciiLowercase referrer = workspace.resolve? path referrer := by
  have hdots : List.all path.asciiLowercase (· == '.') = List.all path (· == '.') := by
    rw [asciiLowercase, List.all_map]
    exact congrArg (List.all path)
      (funext (caseBlind_of_letters (p := (· == '.')) (by decide)))
  rw [resolve?, hdots, resolve?, candidates, candidates, List.findSome?_map, List.findSome?_map,
    relativePath_asciiLowercase]
  congr 2
  exact funext fun directory => workspace.files.find?_join_asciiLowercase directory _

end Workspace

end CfmlNav
