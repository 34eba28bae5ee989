import CfmlNav.Path
import Mathlib.Data.List.DropRight
import Mathlib.Tactic.SplitIfs

/-!
# Paths piece by piece

A path is its pieces between slashes (`joinWithChar_splitOnChar`, `splitOnChar_joinWithChar`), and
all that is asked of a piece to find the parent of a path or to continue it is whether the piece is
empty or a dot. So a map of texts that goes along the slashes and does not touch such pieces
(`IsPiecewise`) commutes with these operations (`IsPiecewise.parent?_map`, `IsPiecewise.join_map`).
Lowering is such a map, be it of the letters of ASCII or of all letters.
-/

namespace CfmlNav

namespace Text

variable {separator : Char}

/-! ### Pieces -/

theorem splitOnChar_eq_splitOn (separator : Char) (text : Text) :
    splitOnChar separator text = text.splitOn separator := by
  induction text with
  | nil => rfl
  | cons c text ih =>
    rw [splitOnChar, ih, List.splitOn_cons_eq_if_modifyHead]
    obtain ⟨piece, pieces, hpieces⟩ := List.exists_cons_of_ne_nil (List.splitOn_ne_nil separator text)
    simp [hpieces]

theorem joinWithChar_eq_intercalate (separator : Char) (pieces : List Text) :
    joinWithChar separator pieces = [separator].intercalate pieces := by
  induction pieces using joinWithChar.induct with
  | case1 => rfl
  | case2 piece => simp [joinWithChar]
  | case3 piece next pieces ih => simp [joinWithChar, ih, List.intercalate_cons_cons]

theorem splitOnChar_ne_nil (separator : Char) (text : Text) : splitOnChar separator text ≠ [] := by
  rw [splitOnChar_eq_splitOn]
  exact List.splitOn_ne_nil separator text

/-- A text is cut in two at a separator, and the two parts on their own. -/
theorem splitOnChar_append (front back : Text) :
    splitOnChar separator (front ++ separator :: back) =
      splitOnChar separator front ++ splitOnChar separator back := by
  simp only [splitOnChar_eq_splitOn, List.splitOn_append_cons_self]

@[simp] theorem joinWithChar_splitOnChar (text : Text) :
    joinWithChar separator (splitOnChar separator text) = text := by
  rw [joinWithChar_eq_intercalate, splitOnChar_eq_splitOn, List.intercalate_splitOn]

theorem splitOnChar_joinWithChar {pieces : List Text} (h : ∀ piece ∈ pieces, separator ∉ piece)
    (hne : pieces ≠ []) : splitOnChar separator (joinWithChar separator pieces) = pieces := by
  rw [joinWithChar_eq_intercalate, splitOnChar_eq_splitOn, List.splitOn_intercalate separator h hne]

theorem joinWithChar_cons (piece : Text) {pieces : List Text} (h : pieces ≠ []) :
    joinWithChar separator (piece :: pieces) = piece ++ separator :: joinWithChar separator pieces := by
  obtain ⟨next, pieces, rfl⟩ := List.exists_cons_of_ne_nil h
  rfl

/-- A piece consists of characters of the text other than the separator. -/
theorem mem_of_mem_splitOnChar {text piece : Text} (h : piece ∈ splitOnChar separator text) {c : Char}
    (hc : c ∈ piece) : c ∈ text ∧ c ≠ separator := by
  induction text generalizing piece with
  | nil =>
    obtain rfl := List.mem_singleton.mp h
    simp at hc
  | cons d text ih =>
    obtain ⟨first, pieces, hpieces⟩ := List.exists_cons_of_ne_nil (splitOnChar_ne_nil separator text)
    rw [hpieces] at ih
    rw [splitOnChar, hpieces] at h
    split_ifs at h with hd
    · rcases List.mem_cons.mp h with rfl | hlater
      · simp at hc
      · exact (ih hlater hc).imp_left (List.mem_cons_of_mem d)
    · rcases List.mem_cons.mp h with rfl | hlater
      · rcases List.mem_cons.mp hc with rfl | hfirst
        · exact ⟨List.mem_cons_self, hd⟩
        · exact (ih List.mem_cons_self hfirst).imp_left (List.mem_cons_of_mem d)
      · exact (ih (List.mem_cons_of_mem first hlater) hc).imp_left (List.mem_cons_of_mem d)

theorem not_mem_of_mem_splitOnChar {text piece : Text} (h : piece ∈ splitOnChar separator text) :
    separator ∉ piece :=
  fun hmem => (mem_of_mem_splitOnChar h hmem).2 rfl

/-! ### Ends -/

theorem head?_append_separator {front : Text} (h : separator ∉ front) (back : Text) :
    (front ++ separator :: back).head? = some separator ↔ front = [] := by
  rcases front with _ | ⟨c, front⟩
  · simp
  · simpa using (List.ne_of_not_mem_cons h).symm

theorem getLast?_append_separator {back : Text} (h : separator ∉ back) (front : Text) :
    (front ++ separator :: back).getLast? = some separator ↔ back = [] := by
  rw [← List.head?_reverse, List.reverse_append, List.reverse_cons, List.append_assoc,
    List.singleton_append, head?_append_separator (by simpa using h), List.reverse_eq_nil_iff]

/-- A text is cut at its last separator, if it has one. -/
theorem exists_eq_append_cons_of_mem {text : Text} (h : separator ∈ text) :
    ∃ front back, text = front ++ separator :: back ∧ separator ∉ back := by
  obtain ⟨back, front, hsplit, hback⟩ := List.eq_append_cons_of_mem (List.mem_reverse.mpr h)
  refine ⟨front.reverse, back.reverse, ?_, by simpa using hback⟩
  rw [← text.reverse_reverse, hsplit]
  simp

/-- The first piece of a text is what stands before the first separator. -/
theorem head?_splitOnChar_eq_some_iff {text piece : Text} (h : separator ∉ piece) :
    (splitOnChar separator text).head? = some piece ↔
      text = piece ∨ ∃ back, text = piece ++ separator :: back := by
  constructor
  · intro hhead
    obtain ⟨pieces, hpieces⟩ := List.head?_eq_some_iff.mp hhead
    have htext : joinWithChar separator (splitOnChar separator text) = text :=
      joinWithChar_splitOnChar text
    rw [← htext, hpieces]
    rcases pieces with _ | ⟨next, pieces⟩
    · exact .inl rfl
    · exact .inr ⟨_, joinWithChar_cons piece (List.cons_ne_nil next pieces)⟩
  · have hpiece : splitOnChar separator piece = [piece] := by
      have hpieces : ∀ other ∈ [piece], separator ∉ other := by simpa
      exact splitOnChar_joinWithChar hpieces (List.cons_ne_nil piece [])
    rintro (rfl | ⟨back, rfl⟩)
    · rw [hpiece]
      rfl
    · rw [splitOnChar_append, hpiece]
      rfl

end Text

/-! ### Maps along the slashes -/

open Text

/-- Whether a map of texts goes along the slashes of a path, and leaves and makes no piece that is
empty or a dot. -/
structure IsPiecewise (f : Text → Text) : Prop where
  append_slash : ∀ front back, f (front ++ '/' :: back) = f front ++ '/' :: f back
  not_mem : ∀ {piece}, '/' ∉ piece → '/' ∉ f piece
  eq_nil_iff : ∀ {text}, f text = [] ↔ text = []
  eq_dot_iff : ∀ {text}, f text = ['.'] ↔ text = ['.']

namespace IsPiecewise

variable {f : Text → Text} (hf : IsPiecewise f)

include hf

theorem map_nil : f [] = [] :=
  hf.eq_nil_iff.mpr rfl

theorem map_slash_cons (text : Text) : f ('/' :: text) = '/' :: f text := by
  have hsplit := hf.append_slash [] text
  rwa [hf.map_nil] at hsplit

theorem joinWithChar_map (pieces : List Text) :
    joinWithChar '/' (pieces.map f) = f (joinWithChar '/' pieces) := by
  induction pieces using joinWithChar.induct with
  | case1 => exact hf.map_nil.symm
  | case2 piece => rfl
  | case3 piece next pieces ih =>
    rw [joinWithChar, hf.append_slash, ← ih]
    rfl

theorem splitOnChar_map (text : Text) :
    splitOnChar '/' (f text) = (splitOnChar '/' text).map f := by
  have hpieces : ∀ piece ∈ (splitOnChar '/' text).map f, '/' ∉ piece := by
    intro piece hpiece
    obtain ⟨piece, hmem, rfl⟩ := List.mem_map.mp hpiece
    exact hf.not_mem (not_mem_of_mem_splitOnChar hmem)
  have hne : (splitOnChar '/' text).map f ≠ [] :=
    mt List.map_eq_nil_iff.mp (splitOnChar_ne_nil '/' text)
  rw [← splitOnChar_joinWithChar hpieces hne, hf.joinWithChar_map, joinWithChar_splitOnChar]

/-! ### Slashes at the ends -/

theorem head?_eq_slash_iff {text : Text} : (f text).head? = some '/' ↔ text.head? = some '/' := by
  by_cases hmem : '/' ∈ text
  · obtain ⟨front, back, rfl, hfront⟩ := List.eq_append_cons_of_mem hmem
    rw [hf.append_slash, head?_append_separator (hf.not_mem hfront), head?_append_separator hfront,
      hf.eq_nil_iff]
  · exact iff_of_false (fun h => hf.not_mem hmem (List.mem_of_mem_head? h))
      fun h => hmem (List.mem_of_mem_head? h)

theorem getLast?_eq_slash_iff {text : Text} :
    (f text).getLast? = some '/' ↔ text.getLast? = some '/' := by
  by_cases hmem : '/' ∈ text
  · obtain ⟨front, back, rfl, hback⟩ := exists_eq_append_cons_of_mem hmem
    rw [hf.append_slash, getLast?_append_separator (hf.not_mem hback),
      getLast?_append_separator hback, hf.eq_nil_iff]
  · exact iff_of_false (fun h => hf.not_mem hmem (List.mem_of_getLast? h))
      fun h => hmem (List.mem_of_getLast? h)

theorem map_append_of_end {path : Path} (h : path = [] ∨ path.getLast? = some '/') (other : Path) :
    f (path ++ other) = f path ++ f other := by
  rcases h with rfl | hlast
  · rw [hf.map_nil, List.nil_append, List.nil_append]
  · obtain ⟨front, rfl⟩ := List.getLast?_eq_some_iff.mp hlast
    rw [List.append_assoc, List.singleton_append, hf.append_slash, hf.append_slash, hf.map_nil,
      List.append_assoc, List.singleton_append]

end IsPiecewise

namespace Path

/-- The lead of a path is its first character if that is a slash, or a dot that is a piece of
its own. -/
theorem splitLead_cons (c : Char) (rest : Text) :
    splitLead (c :: rest) =
      if c = '/' then (['/'], rest)
      else if c = '.' ∧ (rest = [] ∨ rest.head? = some '/') then (['.'], rest)
      else ([], c :: rest) := by
  by_cases hslash : c = '/'
  · subst hslash
    rfl
  by_cases hdot : c = '.'
  · subst hdot
    rcases rest with _ | ⟨d, rest⟩
    · rfl
    · by_cases hnext : d = '/'
      · subst hnext
        rfl
      · rw [splitLead]
        · simp [hnext]
        all_goals simp [hnext]
  · rw [splitLead]
    · simp [hslash, hdot]
    all_goals simp [hslash, hdot]

/-- A path that starts with neither a slash nor a dot as its first piece has no lead. -/
theorem splitLead_of_ne {path : Path} (hslash : path.head? ≠ some '/')
    (hdot : (splitOnChar '/' path).head? ≠ some ['.']) : splitLead path = ([], path) := by
  rw [ne_eq, head?_splitOnChar_eq_some_iff (by decide), not_or] at hdot
  rw [splitLead]
  · rintro body rfl
    exact hslash rfl
  · exact hdot.1
  · rintro body rfl
    exact hdot.2 ⟨body, rfl⟩

theorem splitLead_fst (path : Path) :
    path.splitLead.1 = [] ∨ path.splitLead.1 = ['/'] ∨ path.splitLead.1 = ['.'] := by
  rcases path with _ | ⟨c, rest⟩
  · exact .inl rfl
  rw [splitLead_cons]
  split_ifs <;> simp

/-- Behind a dot as the lead comes nothing, or a slash. -/
theorem head?_pieces_of_lead {path : Path} (h : path.splitLead.1 = ['.']) :
    path.pieces.head? = some [] := by
  rcases path with _ | ⟨c, rest⟩
  · simp [splitLead] at h
  rw [pieces]
  rw [splitLead_cons] at h ⊢
  split_ifs at h ⊢ with hslash hdot
  · simp at h
  · rcases hdot.2 with rfl | hhead
    · rfl
    · obtain ⟨body, rfl⟩ := List.head?_eq_some_iff.mp hhead
      rfl

end Path

namespace IsPiecewise

variable {f : Text → Text} (hf : IsPiecewise f)

include hf

open CfmlNav.Path

/-! ### Parts of paths -/

theorem splitLead_map (path : Path) : splitLead (f path) = (path.splitLead.1, f path.splitLead.2) := by
  by_cases hslash : path.head? = some '/'
  · obtain ⟨body, rfl⟩ := List.head?_eq_some_iff.mp hslash
    rw [hf.map_slash_cons]
    rfl
  by_cases hdot : (splitOnChar '/' path).head? = some ['.']
  · rcases (head?_splitOnChar_eq_some_iff (by decide)).mp hdot with rfl | ⟨body, rfl⟩
    · rw [hf.eq_dot_iff.mpr rfl]
      exact congrArg (['.'], ·) hf.map_nil.symm
    · rw [hf.append_slash, hf.eq_dot_iff.mpr rfl]
      exact congrArg (['.'], ·) (hf.map_slash_cons body).symm
  · have hdot' : (splitOnChar '/' (f path)).head? ≠ some ['.'] := by
      rw [hf.splitOnChar_map, List.head?_map, ne_eq, Option.map_eq_some_iff]
      rintro ⟨piece, hpiece, hmap⟩
      exact hdot (hf.eq_dot_iff.mp hmap ▸ hpiece)
    rw [splitLead_of_ne (mt hf.head?_eq_slash_iff.mp hslash) hdot', splitLead_of_ne hslash hdot]

theorem pieces_map (path : Path) : pieces (f path) = path.pieces.map f := by
  rw [pieces, hf.splitLead_map, hf.splitOnChar_map, pieces]

theorem isBlank_map (piece : Text) : isBlank (f piece) = isBlank piece := by
  rw [isBlank, isBlank, Bool.eq_iff_iff]
  simp [hf.eq_nil_iff, hf.eq_dot_iff]

theorem trimBlank_map (pieces : List Text) : trimBlank (pieces.map f) = (trimBlank pieces).map f := by
  have hblank : isBlank ∘ f = isBlank := funext hf.isBlank_map
  rw [trimBlank, ← List.map_reverse, List.dropWhile_map, hblank, ← List.map_reverse, trimBlank]

/-- The lead of a path stays before any of its pieces. -/
theorem map_splitLead_append {path : Path} {pieces : List Text} (h : pieces <+: path.pieces) :
    f (path.splitLead.1 ++ joinWithChar '/' pieces) =
      path.splitLead.1 ++ joinWithChar '/' (pieces.map f) := by
  rw [hf.joinWithChar_map]
  rcases path.splitLead_fst with hlead | hlead | hlead
  · rw [hlead, List.nil_append, List.nil_append]
  · rw [hlead, List.singleton_append, List.singleton_append, hf.map_slash_cons]
  · rw [hlead]
    obtain ⟨rest, hrest⟩ := List.head?_eq_some_iff.mp (head?_pieces_of_lead hlead)
    rw [hrest, List.prefix_cons_iff] at h
    -- what follows the dot is empty or starts with a slash
    obtain rfl | ⟨pieces, rfl, -⟩ := h
    · exact (hf.eq_dot_iff.mpr rfl).trans (congrArg ('.' :: ·) hf.map_nil.symm)
    · rcases pieces with _ | ⟨next, pieces⟩
      · exact (hf.eq_dot_iff.mpr rfl).trans (congrArg ('.' :: ·) hf.map_nil.symm)
      · rw [joinWithChar_cons _ (List.cons_ne_nil next pieces), List.nil_append, hf.append_slash,
          hf.map_slash_cons, hf.eq_dot_iff.mpr rfl]

theorem parent?_map (path : Path) : parent? (f path) = (parent? path).map f := by
  have hpieces : (trimBlank (pieces (f path))).reverse = (trimBlank path.pieces).reverse.map f := by
    rw [hf.pieces_map, hf.trimBlank_map, List.map_reverse]
  rw [parent?, hpieces, hf.splitLead_map, parent?]
  cases hlast : (trimBlank path.pieces).reverse with
  | nil =>
    dsimp only [List.map_nil]
    split_ifs <;> simp [hf.map_nil]
  | cons last before =>
    have htrim : (trimBlank (before.map f).reverse) = (trimBlank before.reverse).map f := by
      rw [← List.map_reverse, hf.trimBlank_map]
    have hfront : trimBlank before.reverse <+: path.pieces := by
      have hbefore : before.reverse ++ [last] <+: path.pieces := by
        rw [← List.reverse_cons, ← hlast, List.reverse_reverse]
        exact List.rdropWhile_prefix isBlank path.pieces
      exact (List.rdropWhile_prefix isBlank _).trans ((List.prefix_append _ _).trans hbefore)
    rw [List.map_cons]
    dsimp only [Option.map_some]
    rw [htrim, hf.map_splitLead_append hfront]

theorem join_map (path other : Path) : join (f path) (f other) = f (path.join other) := by
  have habsolute : isAbsolute (f other) = isAbsolute other := by
    rw [isAbsolute, isAbsolute, Bool.eq_iff_iff]
    simp [hf.head?_eq_slash_iff]
  have hend : ((f path).isEmpty || (f path).getLast? == some '/') =
      (path.isEmpty || path.getLast? == some '/') := by
    rw [Bool.eq_iff_iff]
    simp [hf.eq_nil_iff, hf.getLast?_eq_slash_iff]
  rw [join, habsolute, hend, join]
  split_ifs with h₁ h₂
  · rfl
  · refine (hf.map_append_of_end ?_ other).symm
    simpa using h₂
  · exact (hf.append_slash path other).symm

end IsPiecewise

end CfmlNav
