import CfmlNav.Proofs.Path
import Mathlib.Data.List.Infix

/-!
# Directories above a path

A path is compared by its parts but cut off as it is written, so what is left of a path is the start
of its text, and its parts are those of the path without the last one (`parts_of_parent?`). The
proper ancestors of a path are therefore, part by part, the proper starts of its parts
(`map_parts_ancestors`), apart from the empty one if the path is absolute, because nothing is above
the root. A path continued by a name has the parts of the path and the name (`parts_join`).
-/

namespace CfmlNav

open Text

namespace Path

variable {path parent : Path} {front : List Text}

/-! ### Leads and pieces -/

/-- The part that the lead of a path stands for. -/
def leadParts : Text → List PathPart
  | '/' :: _ => [.root]
  | '.' :: _ => [.here]
  | _ => []

theorem parts_eq (path : Path) :
    path.parts = leadParts path.splitLead.1 ++ path.pieces.filterMap part? :=
  rfl

theorem splitLead_append (path : Path) : path.splitLead.1 ++ path.splitLead.2 = path := by
  rcases path with _ | ⟨c, rest⟩
  · rfl
  · rw [splitLead_cons]
    split_ifs with hslash hdot
    · rw [hslash]
      rfl
    · rw [hdot.1]
      rfl
    · rfl

theorem lead_append_pieces (path : Path) :
    path.splitLead.1 ++ joinWithChar '/' path.pieces = path := by
  rw [pieces, joinWithChar_splitOnChar, splitLead_append]

theorem isAbsolute_iff : path.isAbsolute = true ↔ path.splitLead.1 = ['/'] := by
  rcases path with _ | ⟨c, rest⟩
  · decide
  · rw [splitLead_cons, isAbsolute, List.head?_cons, beq_iff_eq, Option.some_inj]
    split_ifs with hslash hdot <;> simp_all

/-- The pieces of a path that do not count may be left out at the end. -/
theorem filterMap_trimBlank (pieces : List Text) :
    (trimBlank pieces).filterMap part? = pieces.filterMap part? := by
  have hblank : (pieces.rtakeWhile isBlank).filterMap part? = [] := by
    refine List.filterMap_eq_nil_iff.mpr fun piece hpiece => ?_
    rw [part?, if_pos (List.mem_rtakeWhile_imp hpiece)]
  calc (trimBlank pieces).filterMap part?
      = (pieces.rdropWhile isBlank).filterMap part? ++
          (pieces.rtakeWhile isBlank).filterMap part? := by rw [hblank, List.append_nil]; rfl
    _ = pieces.filterMap part? := by
        rw [← List.filterMap_append, List.rdropWhile_append_rtakeWhile]

/-- A path without a lead starts with a name, or with two dots, or is empty. -/
theorem splitLead_fst_eq_nil_iff : path.splitLead.1 = [] ↔
    path.head? ≠ some '/' ∧ (splitOnChar '/' path).head? ≠ some ['.'] := by
  constructor
  · intro h
    constructor
    · intro hslash
      obtain ⟨body, rfl⟩ := List.head?_eq_some_iff.mp hslash
      exact List.cons_ne_nil '/' [] h
    · intro hdot
      rcases (head?_splitOnChar_eq_some_iff (by decide)).mp hdot with rfl | ⟨body, rfl⟩
      · exact List.cons_ne_nil '.' [] h
      · exact List.cons_ne_nil '.' [] h
  · rintro ⟨hslash, hdot⟩
    rw [splitLead_of_ne hslash hdot]

/-- The text of a path up to one of its pieces that counts has the same lead. -/
theorem splitLead_front (h : front <+: path.pieces)
    (hlast : ∀ piece ∈ front.getLast?, isBlank piece = false) :
    splitLead (path.splitLead.1 ++ joinWithChar '/' front) =
      (path.splitLead.1, joinWithChar '/' front) := by
  rcases path.splitLead_fst with hlead | hlead | hlead
  · rw [hlead, List.nil_append]
    rcases front with _ | ⟨first, front⟩
    · rfl
    -- the first piece decides, and it is the same
    obtain ⟨hslash, hdot⟩ := splitLead_fst_eq_nil_iff.mp hlead
    have hpath : path.splitLead.2 = path := by
      have htext := splitLead_append path
      rwa [hlead, List.nil_append] at htext
    obtain ⟨rest, hpieces⟩ := h
    rw [pieces, hpath] at hpieces
    have hmem : ∀ piece ∈ first :: front, '/' ∉ piece := fun piece hpiece =>
      not_mem_of_mem_splitOnChar (hpieces ▸ List.mem_append_left rest hpiece)
    have hsame : splitOnChar '/' (joinWithChar '/' (first :: front)) = first :: front :=
      splitOnChar_joinWithChar hmem (List.cons_ne_nil first front)
    rw [← hpieces] at hdot
    refine splitLead_of_ne ?_ (by rw [hsame]; exact hdot)
    intro hhead
    obtain ⟨back, hback⟩ := List.head?_eq_some_iff.mp hhead
    have hfirst := (head?_splitOnChar_eq_some_iff List.not_mem_nil).mpr (.inr ⟨back, hback⟩)
    rw [hsame, List.head?_cons, Option.some_inj] at hfirst
    subst hfirst
    rcases (head?_splitOnChar_eq_some_iff List.not_mem_nil).mp (congrArg List.head? hpieces.symm)
      with rfl | ⟨body, rfl⟩
    · rw [splitOnChar, List.cons_append, List.cons_inj_right, List.append_eq_nil_iff] at hpieces
      exact absurd (hlast [] (by rw [hpieces.1]; rfl)) (by decide)
    · exact hslash rfl
  · rw [hlead]
    rfl
  · rw [hlead]
    obtain ⟨rest, hrest⟩ := List.head?_eq_some_iff.mp (head?_pieces_of_lead hlead)
    rw [hrest, List.prefix_cons_iff] at h
    -- what follows the dot is empty or starts with a slash
    obtain rfl | ⟨front, rfl, -⟩ := h
    · rfl
    · rcases front with _ | ⟨next, front⟩
      · exact absurd (hlast [] rfl) (by decide)
      · rfl

/-- The text of a path up to one of its pieces that counts has the parts of these pieces. -/
theorem parts_front (h : front <+: path.pieces)
    (hlast : ∀ piece ∈ front.getLast?, isBlank piece = false) :
    parts (path.splitLead.1 ++ joinWithChar '/' front) =
      leadParts path.splitLead.1 ++ front.filterMap part? := by
  rw [parts_eq, pieces, splitLead_front h hlast]
  rcases front with _ | ⟨piece, front⟩
  · rfl
  · have hslash : ∀ piece' ∈ piece :: front, '/' ∉ piece' := fun piece' hmem =>
      not_mem_of_mem_splitOnChar (h.subset hmem)
    rw [splitOnChar_joinWithChar hslash (List.cons_ne_nil piece front)]

/-! ### Parents -/

/-- What is left of some pieces without blank ones at the end does not end in a blank one. -/
theorem isBlank_getLast?_trimBlank (pieces : List Text) :
    ∀ piece ∈ (trimBlank pieces).getLast?, isBlank piece = false := by
  intro piece hpiece
  obtain ⟨init, hinit⟩ := List.getLast?_eq_some_iff.mp hpiece
  have hdropped : pieces.rdropWhile isBlank = init ++ [piece] := hinit
  have hlast := List.rdropWhile_last_not isBlank pieces (by simp [hdropped])
  simpa [hdropped] using hlast

theorem trimBlank_prefix_self (pieces : List Text) : trimBlank pieces <+: pieces :=
  List.rdropWhile_prefix isBlank pieces

/-- The text of the first pieces of a path is the start of its text. -/
theorem joinWithChar_prefix_mono {pieces : List Text} (h : front <+: pieces) :
    joinWithChar '/' front <+: joinWithChar '/' pieces := by
  obtain ⟨rest, rfl⟩ := h
  induction front using joinWithChar.induct with
  | case1 => exact List.nil_prefix
  | case2 piece =>
    rcases rest with _ | ⟨next, rest⟩
    · exact List.prefix_refl _
    · exact List.prefix_append piece _
  | case3 piece next front ih =>
    exact (List.prefix_append_right_inj piece).mpr ((List.prefix_cons_inj '/').mpr ih)

theorem exists_part_of_not_blank {piece : Text} (h : isBlank piece = false) :
    ∃ part, part? piece = some part := by
  rw [part?, if_neg (Bool.eq_false_iff.mp h)]
  split
  · exact ⟨.up, rfl⟩
  · exact ⟨.name piece, rfl⟩

/-- A path without pieces that count is its lead, part by part. -/
theorem parts_of_trimBlank_nil (h : trimBlank path.pieces = []) :
    path.parts = leadParts path.splitLead.1 := by
  rw [parts_eq, ← filterMap_trimBlank, h, List.filterMap_nil, List.append_nil]

/-- The parent of a path is its text up to the piece before the last one that counts, or nothing if
the path is a dot. -/
theorem parent?_cases (h : path.parent? = some parent) :
    (∃ front, front <+: path.pieces ∧ (∀ piece ∈ front.getLast?, isBlank piece = false) ∧
      parent = path.splitLead.1 ++ joinWithChar '/' front ∧
      ∃ part, path.pieces.filterMap part? = front.filterMap part? ++ [part]) ∨
    path.splitLead.1 = ['.'] ∧ trimBlank path.pieces = [] ∧ parent = [] := by
  rw [parent?] at h
  dsimp only at h
  split at h
  next last before hlast =>
    have htrim : trimBlank path.pieces = before.reverse ++ [last] := by
      rw [← List.reverse_cons, ← hlast, List.reverse_reverse]
    have hbefore : before.reverse <+: path.pieces :=
      (List.prefix_append _ [last]).trans (htrim ▸ trimBlank_prefix_self path.pieces)
    have hcounts : isBlank last = false :=
      isBlank_getLast?_trimBlank path.pieces last (by rw [htrim]; simp)
    obtain ⟨part, hpart⟩ := exists_part_of_not_blank hcounts
    refine .inl ⟨trimBlank before.reverse, (trimBlank_prefix_self before.reverse).trans hbefore,
      isBlank_getLast?_trimBlank before.reverse, (Option.some_inj.mp h).symm, part, ?_⟩
    rw [filterMap_trimBlank, ← filterMap_trimBlank path.pieces, htrim, List.filterMap_append]
    simp [hpart]
  next hnone =>
    have htrim : trimBlank path.pieces = [] := List.reverse_eq_nil_iff.mp hnone
    split at h
    next hlead => exact .inr ⟨hlead, htrim, (Option.some_inj.mp h).symm⟩
    next => contradiction

/-- The parent of a path has the parts of the path but the last. -/
theorem parts_of_parent? (h : path.parent? = some parent) :
    ∃ part, path.parts = parent.parts ++ [part] := by
  rcases parent?_cases h with ⟨front, hfront, hlast, rfl, part, hparts⟩ | ⟨hlead, htrim, rfl⟩
  · exact ⟨part, by rw [parts_front hfront hlast, parts_eq, hparts, List.append_assoc]⟩
  · exact ⟨.here, by rw [parts_of_trimBlank_nil htrim, hlead]; rfl⟩

/-- The parent of a path is written as the start of the path. -/
theorem prefix_of_parent? (h : path.parent? = some parent) : parent <+: path := by
  rcases parent?_cases h with ⟨front, hfront, -, rfl, -⟩ | ⟨-, -, rfl⟩
  · calc path.splitLead.1 ++ joinWithChar '/' front
        <+: path.splitLead.1 ++ joinWithChar '/' path.pieces :=
          (List.prefix_append_right_inj _).mpr (joinWithChar_prefix_mono hfront)
      _ = path := lead_append_pieces path
  · exact List.nil_prefix

/-- The parent of a path is absolute if the path is. -/
theorem isAbsolute_of_parent? (h : path.parent? = some parent) :
    parent.isAbsolute = path.isAbsolute := by
  rw [Bool.eq_iff_iff, isAbsolute_iff, isAbsolute_iff]
  rcases parent?_cases h with ⟨front, hfront, hlast, rfl, -⟩ | ⟨hlead, -, rfl⟩
  · rw [splitLead_front hfront hlast]
  · rw [hlead]
    decide

/-- Nothing is above the root, or above the directory where relative paths begin. -/
theorem parts_of_parent?_none (h : path.parent? = none) :
    path.parts = [] ∨ path.parts = [.root] ∧ path.isAbsolute = true := by
  rw [parent?] at h
  dsimp only at h
  split at h
  next => contradiction
  next hnone =>
    have htrim : trimBlank path.pieces = [] := List.reverse_eq_nil_iff.mp hnone
    rw [parts_of_trimBlank_nil htrim, isAbsolute_iff]
    rcases path.splitLead_fst with hlead | hlead | hlead
    · exact .inl (by rw [hlead]; rfl)
    · exact .inr ⟨by rw [hlead]; rfl, hlead⟩
    · rw [if_pos hlead] at h
      contradiction

theorem exists_parts_of_isAbsolute (h : path.isAbsolute = true) :
    ∃ rest, path.parts = .root :: rest := by
  rw [parts_eq, isAbsolute_iff.mp h]
  exact ⟨_, rfl⟩

/-- The parent of a path is shorter. -/
theorem length_lt_of_parent? (h : path.parent? = some parent) : parent.length < path.length := by
  refine Nat.lt_of_le_of_ne (prefix_of_parent? h).length_le fun hlength => ?_
  obtain ⟨part, hparts⟩ := parts_of_parent? h
  rw [(prefix_of_parent? h).eq_of_length hlength] at hparts
  simpa using congrArg List.length hparts

/-! ### Ancestors -/

/-- Any bound from the length of the path on leads to all ancestors. -/
theorem ancestorsWithin_congr {bound other : Nat} (h : path.length ≤ bound)
    (h' : path.length ≤ other) : ancestorsWithin bound path = ancestorsWithin other path := by
  induction bound generalizing path other with
  | zero =>
    obtain rfl := List.eq_nil_of_length_eq_zero (Nat.le_zero.mp h)
    cases other <;> rfl
  | succ bound ih =>
    cases other with
    | zero =>
      obtain rfl := List.eq_nil_of_length_eq_zero (Nat.le_zero.mp h')
      rfl
    | succ other =>
      rw [ancestorsWithin, ancestorsWithin]
      cases hparent : path.parent? with
      | none => rfl
      | some parent =>
        have hlt := length_lt_of_parent? hparent
        exact congrArg (parent :: ·) (ih (by omega) (by omega))

/-- The ancestors of a path are its parent and the ancestors of its parent. -/
theorem ancestors_eq (path : Path) :
    path.ancestors = match path.parent? with
      | none => []
      | some parent => parent :: parent.ancestors := by
  -- a bound that is not zero, so that the definition opens
  have hmore : path.ancestors = ancestorsWithin (path.length + 1) path :=
    ancestorsWithin_congr (Nat.le_refl _) (Nat.le_succ _)
  rw [hmore, ancestorsWithin]
  cases hparent : path.parent? with
  | none => rfl
  | some parent =>
    have hlt := length_lt_of_parent? hparent
    exact congrArg (parent :: ·) (ancestorsWithin_congr (by omega) (Nat.le_refl _))

/-- What holds of a path without a parent, and of a path as soon as it holds of its parent, holds of
every path. -/
theorem parentInduction {motive : Path → Prop}
    (start : ∀ path : Path, path.parent? = none → motive path)
    (step : ∀ path parent : Path, path.parent? = some parent → motive parent → motive path)
    (path : Path) : motive path := by
  induction hlength : path.length using Nat.strong_induction_on generalizing path with
  | _ length ih =>
    cases hparent : path.parent? with
    | none => exact start path hparent
    | some parent =>
      exact step path parent hparent
        (ih parent.length (hlength ▸ length_lt_of_parent? hparent) parent rfl)

/-- The parts of the directories above a path, the nearest directory first: the parts of the path
without the last, without the last two and so on. Nothing is above the root. -/
def above (path : Path) : List (List PathPart) :=
  path.parts.inits.dropLast.reverse.filter fun parts => !(path.isAbsolute && parts.isEmpty)

theorem above_of_parent?_none (h : path.parent? = none) : path.above = [] := by
  rw [above]
  rcases parts_of_parent?_none h with hparts | ⟨hparts, habsolute⟩
  · rw [hparts]
    rfl
  · rw [hparts, habsolute]
    rfl

theorem above_of_parent? (h : path.parent? = some parent) :
    path.above = parent.parts :: parent.above := by
  obtain ⟨part, hparts⟩ := parts_of_parent? h
  have hinits : path.parts.inits.dropLast = parent.parts.inits := by
    simp [hparts, List.inits_append]
  have hself : parent.parts.inits = parent.parts.inits.dropLast ++ [parent.parts] := by
    cases parent.parts using List.reverseRecOn <;> simp [List.inits_append]
  -- the parent of an absolute path still has the root
  have hkept : (!(path.isAbsolute && parent.parts.isEmpty)) = true := by
    cases habsolute : path.isAbsolute with
    | false => rfl
    | true =>
      obtain ⟨rest, hrest⟩ :=
        exists_parts_of_isAbsolute ((isAbsolute_of_parent? h).trans habsolute)
      rw [hrest]
      rfl
  rw [above, hinits, hself, List.reverse_concat, List.filter_cons, if_pos hkept, above,
    isAbsolute_of_parent? h]

theorem length_lt_of_mem_above {parts : List PathPart} (h : parts ∈ path.above) :
    parts.length < path.parts.length := by
  induction path using parentInduction with
  | start path hnone =>
    rw [above_of_parent?_none hnone] at h
    contradiction
  | step path parent hparent ih =>
    obtain ⟨part, hparts⟩ := parts_of_parent? hparent
    rw [above_of_parent? hparent] at h
    rw [hparts, List.length_append, List.length_singleton]
    rcases List.mem_cons.mp h with rfl | hfarther
    · exact Nat.lt_succ_self _
    · exact Nat.lt_succ_of_lt (ih hfarther)

/-- **The ancestors of a path are the directories above it**, part by part. -/
theorem map_parts_ancestors (path : Path) : path.ancestors.map parts = path.above := by
  induction path using parentInduction with
  | start path hnone => rw [ancestors_eq, hnone, above_of_parent?_none hnone, List.map_nil]
  | step path parent hparent ih =>
    rw [ancestors_eq, hparent, above_of_parent? hparent, List.map_cons, ih]

/-- The ancestors of a path are written as starts of the path. -/
theorem prefix_of_mem_ancestors {directory : Path} (h : directory ∈ path.ancestors) :
    directory <+: path := by
  induction path using parentInduction with
  | start path hnone =>
    rw [ancestors_eq, hnone] at h
    contradiction
  | step path parent hparent ih =>
    rw [ancestors_eq, hparent] at h
    rcases List.mem_cons.mp h with rfl | hfarther
    · exact prefix_of_parent? hparent
    · exact (ih hfarther).trans (prefix_of_parent? hparent)

/-! ### Names in directories -/

theorem splitLead_append_slash {start : Path} (hstart : start ≠ []) (back : Text) :
    splitLead (start ++ '/' :: back) = (start.splitLead.1, start.splitLead.2 ++ '/' :: back) := by
  obtain ⟨c, rest, rfl⟩ := List.exists_cons_of_ne_nil hstart
  have hnext : (rest ++ '/' :: back = [] ∨ (rest ++ '/' :: back).head? = some '/') ↔
      (rest = [] ∨ rest.head? = some '/') := by
    rcases rest with _ | ⟨d, rest⟩ <;> simp
  rw [List.cons_append, splitLead_cons, splitLead_cons]
  simp only [hnext]
  split_ifs <;> rfl

theorem parts_append_slash {start : Path} (hstart : start ≠ []) (back : Text) :
    parts (start ++ '/' :: back) = start.parts ++ (splitOnChar '/' back).filterMap part? := by
  rw [parts_eq, pieces, splitLead_append_slash hstart, splitOnChar_append, List.filterMap_append,
    ← List.append_assoc]
  rfl

/-- A path that is continued by a name has the parts of the path and the name. -/
theorem parts_join (directory : Path) {name : Text} (hslash : '/' ∉ name)
    (hname : part? name = some (.name name)) :
    (directory.join name).parts = directory.parts ++ [.name name] := by
  have hpieces : splitOnChar '/' name = [name] :=
    splitOnChar_joinWithChar (List.forall_mem_singleton.mpr hslash) (List.cons_ne_nil name [])
  have hparts : (splitOnChar '/' name).filterMap part? = [.name name] := by
    rw [hpieces, List.filterMap_cons, hname]
    rfl
  have hrelative : name.head? ≠ some '/' := fun hhead => hslash (List.mem_of_mem_head? hhead)
  rw [join, if_neg (by simpa [isAbsolute] using hrelative)]
  rcases directory with _ | ⟨c, rest⟩
  · have hdot : (splitOnChar '/' name).head? ≠ some ['.'] := by
      rw [hpieces, List.head?_cons, ne_eq, Option.some_inj]
      rintro rfl
      contradiction
    rw [List.isEmpty_nil, Bool.true_or, if_pos rfl, List.nil_append, parts_eq, pieces,
      splitLead_of_ne hrelative hdot, hparts]
    rfl
  · rw [List.isEmpty_cons, Bool.false_or]
    split
    next hend =>
      obtain ⟨start, hstart⟩ := List.getLast?_eq_some_iff.mp (beq_iff_eq.mp hend)
      rw [hstart, List.append_assoc, List.singleton_append]
      rcases eq_or_ne start [] with rfl | hne
      · exact congrArg (PathPart.root :: ·) hparts
      · rw [parts_append_slash hne, parts_append_slash hne, hparts]
        exact congrArg (· ++ _) (List.append_nil _).symm
    next => rw [parts_append_slash (List.cons_ne_nil c rest), hparts]

end Path

end CfmlNav
