import CfmlNav.Proofs.FileSet
import CfmlNav.Proofs.LetterCase.Path
import Mathlib.Logic.Relation

/-!
# Dotted paths as an ordered search

A dotted path without slashes names one relative path, that of its segments with the extension of
component files (`relativePath_eq_componentPath`). It means the file of this path in the first
directory where there is one (`resolve?_eq_some_iff`), so dots at the ends of a path and doubled
dots do not matter, and a file that becomes known can only come before the one found so far
(`FoundAt.intern`).
-/

namespace CfmlNav

open Text

/-! ### Names between slashes -/

namespace Path

/-- Whether a piece of a path is a name without an extension. -/
structure IsPlainName (name : Text) : Prop where
  ne_nil : name ≠ []
  slash_not_mem : '/' ∉ name
  dot_not_mem : '.' ∉ name

variable {name : Text} {names : List Text}

theorem IsPlainName.isBlank_eq_false (h : IsPlainName name) : isBlank name = false := by
  have hdot : name ≠ ['.'] := fun heq => h.dot_not_mem (heq ▸ List.mem_singleton_self '.')
  simp [isBlank, h.ne_nil, hdot]

theorem IsPlainName.part?_eq (h : IsPlainName name) : part? name = some (.name name) := by
  have hup : name ≠ ['.', '.'] := fun heq => h.dot_not_mem (heq ▸ List.mem_cons_self)
  rw [part?, h.isBlank_eq_false, if_neg hup]
  rfl

/-- A name without dots is all stem. -/
theorem IsPlainName.splitExtension_eq (h : IsPlainName name) : splitExtension name = (name, none) := by
  have hpass : ∀ c ∈ name.reverse, (c != '.') = true := fun c hc =>
    bne_iff_ne.mpr (ne_of_mem_of_not_mem (List.mem_reverse.mp hc) h.dot_not_mem)
  have htake : (List.takeWhile (· != '.') name.reverse).reverse = name := by
    rw [List.takeWhile_eq_self_iff.mpr hpass, List.reverse_reverse]
  rw [splitExtension, htake]
  exact if_pos (.inl rfl)

theorem IsPlainName.join_eq (h : IsPlainName name) {start : Path} (hstart : start ≠ [])
    (hend : start.getLast? ≠ some '/') : start.join name = start ++ '/' :: name := by
  have hrelative : name.head? ≠ some '/' := fun hhead => h.slash_not_mem (List.mem_of_mem_head? hhead)
  simp [join, isAbsolute, hrelative, hstart, hend]

/-- A path that grows by names grows by one piece for each of them. -/
theorem foldl_join_eq_joinWithChar (h : ∀ name ∈ names, IsPlainName name) {start : Path}
    (hstart : start ≠ []) (hend : start.getLast? ≠ some '/') :
    names.foldl join start = joinWithChar '/' (start :: names) := by
  induction names generalizing start with
  | nil => rfl
  | cons name names ih =>
    have hname := h name List.mem_cons_self
    have hlast : (start ++ '/' :: name).getLast? ≠ some '/' :=
      mt (getLast?_append_separator hname.slash_not_mem start).mp hname.ne_nil
    rw [List.foldl_cons, hname.join_eq hstart hend,
      ih (fun name hmem => h name (List.mem_cons_of_mem _ hmem)) (by simp) hlast]
    rcases names with _ | ⟨next, names⟩ <;> simp [joinWithChar]

theorem foldl_join_nil (h : ∀ name ∈ names, IsPlainName name) :
    names.foldl join [] = joinWithChar '/' names := by
  cases names with
  | nil => rfl
  | cons first names =>
    have hfirst := h first List.mem_cons_self
    have hrelative : first.head? ≠ some '/' := fun hhead =>
      hfirst.slash_not_mem (List.mem_of_mem_head? hhead)
    have hstart : join [] first = first := by simp [join, isAbsolute, hrelative]
    rw [List.foldl_cons, hstart]
    exact foldl_join_eq_joinWithChar (fun name hmem => h name (List.mem_cons_of_mem _ hmem))
      hfirst.ne_nil fun hlast => hfirst.slash_not_mem (List.mem_of_getLast? hlast)

theorem splitLead_joinWithChar (h : ∀ name ∈ names, IsPlainName name) (hne : names ≠ []) :
    splitLead (joinWithChar '/' names) = ([], joinWithChar '/' names) := by
  have hpieces : splitOnChar '/' (joinWithChar '/' names) = names :=
    splitOnChar_joinWithChar (fun name hmem => (h name hmem).slash_not_mem) hne
  refine splitLead_of_ne ?_ ?_
  · intro hslash
    obtain ⟨back, hback⟩ := List.head?_eq_some_iff.mp hslash
    have hfirst := (head?_splitOnChar_eq_some_iff List.not_mem_nil).mpr (.inr ⟨back, hback⟩)
    rw [hpieces] at hfirst
    exact (h [] (List.mem_of_mem_head? hfirst)).ne_nil rfl
  · rw [hpieces]
    intro hdot
    exact (h ['.'] (List.mem_of_mem_head? hdot)).dot_not_mem List.mem_cons_self

theorem pieces_joinWithChar (h : ∀ name ∈ names, IsPlainName name) (hne : names ≠ []) :
    pieces (joinWithChar '/' names) = names := by
  rw [pieces, splitLead_joinWithChar h hne]
  exact splitOnChar_joinWithChar (fun name hmem => (h name hmem).slash_not_mem) hne

/-- An extension goes behind the last of some names. -/
theorem withExtension_joinWithChar (h : ∀ name ∈ names, IsPlainName name) (hne : names ≠ [])
    (extension : Text) :
    withExtension (joinWithChar '/' names) extension = joinWithChar '/' names ++ '.' :: extension := by
  have hlead := splitLead_joinWithChar h hne
  have hpieces := pieces_joinWithChar h hne
  obtain ⟨before, last, rfl⟩ := (List.eq_nil_or_concat' names).resolve_left hne
  have hlast : IsPlainName last := h last (by simp)
  have hfile : fileName? (joinWithChar '/' (before ++ [last])) = some last := by
    rw [fileName?, parts, hpieces, List.filterMap_append]
    simp [hlast.part?_eq]
  have htrim : trimBlank (before ++ [last]) = before ++ [last] := by
    simp [trimBlank, hlast.isBlank_eq_false]
  rw [withExtension, hfile]
  dsimp only
  rw [hlead, hpieces, htrim, List.dropLast_concat, hlast.splitExtension_eq, List.nil_append]

end Path

/-! ### Segments of dotted paths -/

namespace Workspace

/-- The segments of a dotted path that are not empty. -/
def segments (path : Text) : List Text :=
  (path.splitOnChar '.').filter fun segment => !segment.isEmpty

/-- The relative path of a component: its segments between slashes, and the extension. -/
def componentPath (path : Text) : Path :=
  joinWithChar '/' (segments path) ++ '.' :: componentExtension

variable {path other segment : Text}

theorem isPlainName_of_mem_segments (hslash : '/' ∉ path) (h : segment ∈ segments path) :
    Path.IsPlainName segment := by
  obtain ⟨hpiece, hkept⟩ := List.mem_filter.mp h
  refine ⟨?_, fun hmem => hslash (mem_of_mem_splitOnChar hpiece hmem).1,
    not_mem_of_mem_splitOnChar hpiece⟩
  rintro rfl
  contradiction

/-- **The path of a component.** The relative path that a dotted path without slashes names is that
of its segments. -/
theorem relativePath_eq_componentPath (hslash : '/' ∉ path) (hne : segments path ≠ []) :
    relativePath path = componentPath path := by
  have hnames : ∀ segment ∈ segments path, Path.IsPlainName segment := fun segment =>
    isPlainName_of_mem_segments hslash
  calc relativePath path
      = Path.withExtension ((segments path).foldl Path.join []) componentExtension := rfl
    _ = Path.withExtension (joinWithChar '/' (segments path)) componentExtension := by
        rw [Path.foldl_join_nil hnames]
    _ = componentPath path := Path.withExtension_joinWithChar hnames hne _

/-- A dotted path is cut at a dot into the segments on both sides. -/
theorem segments_append (front back : Text) :
    segments (front ++ '.' :: back) = segments front ++ segments back := by
  rw [segments, splitOnChar_append, List.filter_append, segments, segments]

/-- The paths without segments are those of dots alone. -/
theorem segments_eq_nil_iff : segments path = [] ↔ path.all (· == '.') = true := by
  induction path with
  | nil => simp [segments, splitOnChar]
  | cons c path ih =>
    by_cases hdot : c = '.'
    · subst hdot
      have hcut : segments ('.' :: path) = segments path := segments_append [] path
      rw [hcut, ih, List.all_cons]
      simp
    · obtain ⟨piece, pieces, hpieces⟩ := List.exists_cons_of_ne_nil (splitOnChar_ne_nil '.' path)
      simp [segments, splitOnChar, hpieces, hdot]

/-! ### Variants of a path -/

/-- A dotted path and one that differs from it in a dot at an end, in a doubled dot, or in the case
of letters. -/
inductive IsVariant : Text → Text → Prop where
  | leading (path : Text) : IsVariant ('.' :: path) path
  | trailing (path : Text) : IsVariant (path ++ ['.']) path
  | doubled (front back : Text) : IsVariant (front ++ '.' :: '.' :: back) (front ++ '.' :: back)
  | letters {path other : Text} (h : path.asciiLowercase = other.asciiLowercase) :
      IsVariant path other

theorem resolve?_congr_of_segments (workspace : Workspace) (referrer : FileId)
    (h : segments path = segments other) :
    workspace.resolve? path referrer = workspace.resolve? other referrer := by
  have hdots : path.all (· == '.') = other.all (· == '.') := by
    rw [Bool.eq_iff_iff, ← segments_eq_nil_iff, h, segments_eq_nil_iff]
  have hrelative : relativePath path = relativePath other := by
    show Path.withExtension ((segments path).foldl Path.join []) componentExtension = _
    rw [h]
    rfl
  rw [resolve?, hdots, candidates, hrelative, resolve?, candidates]

theorem IsVariant.resolve?_eq (h : IsVariant path other) (workspace : Workspace) (referrer : FileId) :
    workspace.resolve? path referrer = workspace.resolve? other referrer := by
  cases h with
  | leading => exact workspace.resolve?_congr_of_segments referrer (segments_append [] other)
  | trailing =>
    refine workspace.resolve?_congr_of_segments referrer ?_
    rw [segments_append]
    exact List.append_nil _
  | doubled front back =>
    refine workspace.resolve?_congr_of_segments referrer ?_
    rw [segments_append, segments_append]
    exact congrArg (segments front ++ ·) (segments_append [] back)
  | letters h =>
    rw [← workspace.resolve?_asciiLowercase path, h, workspace.resolve?_asciiLowercase]

/-! ### The first directory -/

/-- Whether a dotted path of a file leads to a known file from one of the directories of the search,
and from none before it. -/
structure FoundAt (workspace : Workspace) (path : Text) (referrer : FileId) (place : Nat)
    (file : FileId) : Prop where
  known : ∃ directory, (workspace.directories referrer)[place]? = some directory ∧
    workspace.files.keys.idxOf? (FileSet.key (directory.join (componentPath path))) =
      some file.index
  unknown_before : ∀ earlier < place, ∀ directory,
    (workspace.directories referrer)[earlier]? = some directory →
      FileSet.key (directory.join (componentPath path)) ∉ workspace.files.keys

variable {workspace : Workspace} {referrer file : FileId} {place : Nat}

theorem resolve?_eq_findSome? (hslash : '/' ∉ path) (hne : segments path ≠ []) :
    workspace.resolve? path referrer = (workspace.directories referrer).findSome? fun directory =>
      workspace.files.find? (directory.join (componentPath path)) := by
  rw [resolve?, if_neg (mt segments_eq_nil_iff.mpr hne), candidates,
    relativePath_eq_componentPath hslash hne, List.findSome?_map]
  rfl

/-- **Ordered search.** A dotted path means what it leads to from the first directory from which it
leads to a known file. -/
theorem resolve?_eq_some_iff (hslash : '/' ∉ path) (hne : segments path ≠ []) :
    workspace.resolve? path referrer = some file ↔ ∃ place, workspace.FoundAt path referrer place file := by
  rw [resolve?_eq_findSome? hslash hne, List.findSome?_eq_some_iff]
  constructor
  · rintro ⟨before, directory, behind, hsplit, hfind, hbefore⟩
    refine ⟨before.length, ⟨directory, by simp [hsplit], FileSet.find?_eq_some_iff.mp hfind⟩, ?_⟩
    intro earlier hearlier directory' hget
    rw [hsplit, List.getElem?_append_left hearlier] at hget
    exact FileSet.find?_eq_none_iff.mp (hbefore directory' (List.mem_of_getElem? hget))
  · rintro ⟨place, ⟨directory, hget, hkey⟩, hbefore⟩
    obtain ⟨hlt, hget⟩ := List.getElem?_eq_some_iff.mp hget
    refine ⟨(workspace.directories referrer).take place, directory,
      (workspace.directories referrer).drop (place + 1), ?_, FileSet.find?_eq_some_iff.mpr hkey, ?_⟩
    · rw [← hget, ← List.drop_eq_getElem_cons hlt, List.take_append_drop]
    · intro directory' hmem
      obtain ⟨earlier, hearlier, hget'⟩ := List.mem_take_iff_getElem.mp hmem
      exact FileSet.find?_eq_none_iff.mpr
        (hbefore earlier (by omega) directory' (List.getElem?_eq_some_iff.mpr ⟨by omega, hget'⟩))

theorem resolve?_eq_none_iff (hslash : '/' ∉ path) (hne : segments path ≠ []) :
    workspace.resolve? path referrer = none ↔ ∀ directory ∈ workspace.directories referrer,
      FileSet.key (directory.join (componentPath path)) ∉ workspace.files.keys := by
  rw [resolve?_eq_findSome? hslash hne, List.findSome?_eq_none_iff]
  exact forall₂_congr fun directory _ => FileSet.find?_eq_none_iff

/-! ### Further files -/

/-- A file that is known keeps the directories in which its paths are looked up. -/
theorem directories_intern (further : Path) (h : (workspace.files.path? referrer).isSome = true) :
    (workspace.intern further).2.directories referrer = workspace.directories referrer := by
  obtain ⟨first, hfirst⟩ := Option.isSome_iff_exists.mp h
  have hkept : (workspace.intern further).2.files.path? referrer = some first :=
    FileSet.path?_intern_of_path? further hfirst
  rw [directories, hkept, directories, hfirst]
  rfl

/-- A file that becomes known takes the place of what a path means only if it comes from an earlier
directory. -/
theorem FoundAt.intern (hslash : '/' ∉ path) (hne : segments path ≠ [])
    (hreferrer : (workspace.files.path? referrer).isSome = true)
    (h : workspace.FoundAt path referrer place file) (further : Path) :
    ∃ place' file', (workspace.intern further).2.resolve? path referrer = some file' ∧
      (workspace.intern further).2.FoundAt path referrer place' file' ∧
      (place' = place ∧ file' = file ∨
        place' < place ∧ file' = (workspace.intern further).1) := by
  have hdirectories := directories_intern further hreferrer
  obtain ⟨directory, hget, hkey⟩ := h.known
  have hkept : (workspace.intern further).2.files.find? (directory.join (componentPath path)) =
      some file :=
    FileSet.find?_intern_of_find?_some further (FileSet.find?_eq_some_iff.mpr hkey)
  -- the path still leads to a file, so there is a first directory from which it does
  obtain ⟨file', hfile'⟩ : ∃ file', (workspace.intern further).2.resolve? path referrer = some file' := by
    refine Option.ne_none_iff_exists'.mp fun hnone => ?_
    rw [resolve?_eq_none_iff hslash hne, hdirectories] at hnone
    have hunknown := FileSet.find?_eq_none_iff.mpr (hnone directory (List.mem_of_getElem? hget))
    exact absurd (hkept.symm.trans hunknown) (Option.some_ne_none file)
  obtain ⟨place', hfound⟩ := (resolve?_eq_some_iff hslash hne).mp hfile'
  refine ⟨place', file', hfile', hfound, ?_⟩
  obtain ⟨directory', hget', hkey'⟩ := hfound.known
  have hfind' := FileSet.find?_eq_some_iff.mpr hkey'
  rw [hdirectories] at hget'
  rcases Nat.lt_trichotomy place' place with hlt | rfl | hgt
  · have hunknown := FileSet.find?_eq_none_iff.mpr (h.unknown_before place' hlt directory' hget')
    exact .inr ⟨hlt, FileSet.eq_of_find?_intern hunknown hfind'⟩
  · obtain rfl : directory = directory' := Option.some_inj.mp (hget.symm.trans hget')
    exact .inl ⟨rfl, Option.some_inj.mp (hfind'.symm.trans hkept)⟩
  · have hunknown := FileSet.find?_eq_none_iff.mpr
      (hfound.unknown_before place hgt directory (by rwa [hdirectories]))
    exact absurd (hkept.symm.trans hunknown) (Option.some_ne_none file)

/-- **Resolution is an ordered search.** A dotted path without slashes means nothing if it has no
segments. Otherwise it means the file of its component path in the first directory where there is
one, of the directory of the referring file and the roots in order, and nothing if there is none.
Variants of a path mean the same, and a file that becomes known changes what a path means in a known
file only to one from an earlier directory. -/
theorem resolve?_isOrderedSearch (workspace : Workspace) {path : Text} (hslash : '/' ∉ path)
    (referrer : FileId) :
    (segments path = [] → workspace.resolve? path referrer = none) ∧
    (segments path ≠ [] →
      (∀ file, workspace.resolve? path referrer = some file ↔
        ∃ place, workspace.FoundAt path referrer place file) ∧
      (workspace.resolve? path referrer = none ↔ ∀ directory ∈ workspace.directories referrer,
        FileSet.key (directory.join (componentPath path)) ∉ workspace.files.keys)) ∧
    (∀ other, Relation.EqvGen IsVariant path other →
      workspace.resolve? path referrer = workspace.resolve? other referrer) ∧
    ∀ further place file, (workspace.files.path? referrer).isSome = true → segments path ≠ [] →
      workspace.FoundAt path referrer place file →
      ∃ place' file', (workspace.intern further).2.resolve? path referrer = some file' ∧
        (workspace.intern further).2.FoundAt path referrer place' file' ∧
        (place' = place ∧ file' = file ∨
          place' < place ∧ file' = (workspace.intern further).1) := by
  refine ⟨?_, ?_, ?_, ?_⟩
  · intro hnil
    rw [resolve?, if_pos (segments_eq_nil_iff.mp hnil)]
  · intro hne
    exact ⟨fun file => resolve?_eq_some_iff hslash hne, resolve?_eq_none_iff hslash hne⟩
  · clear hslash
    intro other hvariants
    induction hvariants with
    | rel path other h => exact h.resolve?_eq workspace referrer
    | refl path => rfl
    | symm path other _ ih => exact ih.symm
    | trans path middle other _ _ ih₁ ih₂ => exact ih₁.trans ih₂
  · intro further place file hreferrer hne hfound
    exact hfound.intern hslash hne hreferrer further

theorem foundAt_lib_models_user : '/' ∉ "models..User".toList ∧
    ∃ place, Workspace.FoundAt
      { files := .ofPaths ["lib/models/User.cfc".toList, "app/Main.cfc".toList]
        roots := ["lib".toList] } "models..User".toList ⟨1⟩ place ⟨0⟩ :=
  ⟨by decide, (((resolve?_isOrderedSearch _ (by decide) ⟨1⟩).2.1 (by decide)).1 ⟨0⟩).mp
    (by decide +kernel)⟩

end Workspace

end CfmlNav
