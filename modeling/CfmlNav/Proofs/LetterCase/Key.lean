import CfmlNav.FileSet
import CfmlNav.Proofs.Character
import CfmlNav.Proofs.LetterCase.Path
import Mathlib.Data.List.Basic

/-!
# What the key of a path tells

Known files are found by keys in lower case, so different spellings may have one key. Lowering goes
character by character, and of the characters of ASCII in lower case only `k` is the form of a
character outside of ASCII (`asciiLower_of_lowerBetween`). So where a key ends with other characters
of ASCII, the path ends with the same characters up to their case (`exists_suffix_of_key`), and
paths with one key have the same extension up to case, if the key shows one (`extension?_of_key`).
-/

namespace CfmlNav

open Character Text

/-! ### Characters with a lower case form in ASCII -/

namespace Character

/-- Whether a character of ASCII is in lower case and the form of characters of ASCII only. The
letter `k` is not, as it is the form of the Kelvin sign. -/
def isPlainLower (c : Char) : Bool :=
  isAscii c && asciiLower c == c && c != 'k' && c != '\x00'

/-- A number that is no character stands for the character zero. -/
theorem eq_toNat_ofNat {n : Nat} (h : Char.ofNat n ≠ '\x00') : n = (Char.ofNat n).toNat := by
  by_cases hvalid : n.isValidChar
  · have hchar : Char.ofNat n = Char.ofNatAux n hvalid := dif_pos hvalid
    rw [hchar]
    rfl
  · exact absurd (dif_neg hvalid) h

/-- Only the capital letters of ASCII and the Kelvin sign are carried to characters of ASCII. -/
theorem lowerRuns_ascii : ∀ run ∈ lowerRuns, 128 ≤ run.image ∨
    run.first = 65 ∧ run.last = 90 ∧ run.image = 97 ∨
    run.first = 0x212A ∧ run.last = 0x212A ∧ run.image = 0x6B := by
  decide +kernel

theorem lower_of_isAscii {c : Char} (h : isAscii c = true) : lower c = [asciiLower c] :=
  of_isAscii (motive := fun c => lower c = [asciiLower c]) (by decide +kernel) h

theorem asciiLower_of_carry {c d : Char} (hc : isPlainLower c = true)
    (h : carry d.toNat lowerRuns = c.toNat) : asciiLower d = c := by
  simp only [isPlainLower, isAscii, Bool.and_eq_true, decide_eq_true_eq, beq_iff_eq, bne_iff_ne]
    at hc
  obtain ⟨⟨⟨hascii, hlower⟩, hk⟩, -⟩ := hc
  rcases exists_run_of_carry h with hsame | ⟨run, hmem, hfirst, hlast, himage⟩
  · rw [← Char.toNat_inj.mp hsame, hlower]
  · rcases lowerRuns_ascii run hmem with hlarge | hcapital | hkelvin
    · omega
    · have hd : 'A' ≤ d ∧ d ≤ 'Z' := by
        constructor
        · show 65 ≤ d.toNat
          omega
        · show d.toNat ≤ 90
          omega
      rw [asciiLower, if_pos hd, show d.toNat + 32 = c.toNat by omega, Char.ofNat_toNat]
    · refine absurd (Char.toNat_inj.mp ?_) hk
      show c.toNat = 0x6B
      omega

end Character

namespace Text

variable {before behind t u : Text} {c d : Char}

theorem lowerBetween_ne_nil (before : Text) (d : Char) (behind : Text) :
    lowerBetween before d behind ≠ [] := by
  unfold lowerBetween lower
  split <;> split <;> simp

/-- A character whose lower case form ends with a character of ASCII other than `k` is that
character up to case. -/
theorem asciiLower_of_lowerBetween (hc : isPlainLower c = true)
    (h : c ∈ (lowerBetween before d behind).getLast?) :
    lowerBetween before d behind = [c] ∧ asciiLower d = c := by
  have hnot {e : Char} (he : isPlainLower e = false) : c ≠ e := by
    rintro rfl
    rw [he] at hc
    contradiction
  unfold lowerBetween at h ⊢
  split at h
  next =>
    split at h
    · exact absurd (Option.some_inj.mp h).symm (hnot (by decide))
    · exact absurd (Option.some_inj.mp h).symm (hnot (by decide))
  next hsigma =>
    rw [if_neg hsigma]
    unfold lower at h ⊢
    split at h
    next => exact absurd (Option.some_inj.mp h).symm (hnot (by decide))
    next hdotted =>
      rw [if_neg hdotted]
      obtain rfl : Char.ofNat (carry d.toNat lowerRuns) = c := Option.some_inj.mp h
      exact ⟨rfl, asciiLower_of_carry hc (eq_toNat_ofNat (hnot (by decide)))⟩

/-! ### Lower case forms of texts -/

theorem length_le_lowercaseFrom (before t : Text) : t.length ≤ (lowercaseFrom before t).length := by
  induction t generalizing before with
  | nil => exact Nat.le_refl 0
  | cons d t ih =>
    have hpos := List.length_pos_iff.mpr (lowerBetween_ne_nil before d t)
    have hrest := ih (d :: before)
    rw [lowercaseFrom, List.length_append, List.length_cons]
    omega

/-- Where the lower case form of a text ends with characters of ASCII other than `k`, the text ends
with these characters up to case. -/
theorem exists_suffix_of_lowercaseFrom {word out : Text} (hword : word.all isPlainLower = true)
    (h : lowercaseFrom before t = out ++ word) :
    ∃ front back, t = front ++ back ∧ asciiLowercase back = word := by
  induction t generalizing before out word with
  | nil =>
    obtain ⟨-, rfl⟩ := List.append_eq_nil_iff.mp h.symm
    exact ⟨[], [], rfl, rfl⟩
  | cons d t ih =>
    rw [lowercaseFrom] at h
    rcases List.append_eq_append_iff.mp h with ⟨between, rfl, hrest⟩ | ⟨tail, hform, rfl⟩
    · obtain ⟨front, back, rfl, hback⟩ := ih hword hrest
      exact ⟨d :: front, back, rfl, hback⟩
    · rw [List.all_append, Bool.and_eq_true] at hword
      obtain ⟨front, back, hsplit, hback⟩ := ih hword.2 (List.nil_append _).symm
      rcases List.eq_nil_or_concat' tail with rfl | ⟨init, c, rfl⟩
      · exact ⟨d :: front, back, by rw [hsplit]; rfl, hback⟩
      · -- the form of the character reaches into the word, so it is its last character
        have hc : isPlainLower c = true := List.all_eq_true.mp hword.1 c (by simp)
        have hlast : c ∈ (lowerBetween before d t).getLast? := by
          rw [hform]
          simp
        obtain ⟨hsingle, hlower⟩ := asciiLower_of_lowerBetween hc hlast
        obtain rfl : init = [] := by
          rw [hform, ← List.append_assoc] at hsingle
          exact (List.append_eq_nil_iff.mp (List.append_cancel_right hsingle)).2
        have hlength := length_le_lowercaseFrom (d :: before) t
        rw [← hback, length_asciiLowercase, hsplit, List.length_append] at hlength
        obtain rfl : front = [] := List.eq_nil_of_length_eq_zero (by omega)
        refine ⟨[], d :: t, rfl, ?_⟩
        rw [asciiLowercase_cons, hlower, hsplit, List.nil_append, hback, hsplit]
        rfl

/-- Characters of ASCII are lowered on their own, whatever stands around them. -/
theorem lowercaseFrom_append_of_isAscii (before : Text) (h : isAscii t = true) (u : Text) :
    lowercaseFrom before (t ++ u) = asciiLowercase t ++ lowercaseFrom (t.reverse ++ before) u := by
  induction t generalizing before with
  | nil => rfl
  | cons d t ih =>
    rw [isAscii, List.all_cons, Bool.and_eq_true] at h
    have hsigma : d ≠ 'Σ' := by
      rintro rfl
      exact absurd h.1 (by decide)
    rw [List.cons_append, lowercaseFrom, lowerBetween, if_neg hsigma, lower_of_isAscii h.1, ih _ h.2,
      asciiLowercase_cons, List.reverse_cons, List.append_assoc]
    rfl

theorem lowercaseFrom_of_isAscii (before : Text) (h : isAscii t = true) :
    lowercaseFrom before t = asciiLowercase t := by
  have happend := lowercaseFrom_append_of_isAscii before h []
  rwa [lowercaseFrom, List.append_nil, List.append_nil] at happend

/-- The lower case form of a text ends with that of its end, if that is of ASCII. -/
theorem exists_lowercaseFrom_append (before t : Text) (h : isAscii u = true) :
    ∃ out, lowercaseFrom before (t ++ u) = out ++ asciiLowercase u := by
  induction t generalizing before with
  | nil => exact ⟨[], lowercaseFrom_of_isAscii before h⟩
  | cons d t ih =>
    obtain ⟨out, hout⟩ := ih (d :: before)
    exact ⟨lowerBetween before d (t ++ u) ++ out, by
      rw [List.cons_append, lowercaseFrom, hout, List.append_assoc]⟩

end Text

/-! ### Keys of paths -/

namespace FileSet

variable {path word out : Text}

theorem map_slash_eq_self (h : '\\' ∉ word) :
    word.map (fun c => if c = '\\' then '/' else c) = word := by
  have hsame : word.map (fun c => if c = '\\' then '/' else c) = word.map id :=
    List.map_congr_left fun c hc => if_neg (ne_of_mem_of_not_mem hc h)
  rw [hsame, List.map_id]

/-- The key of a path ends with the lowered end of the path, if that is of ASCII and has no
backslash. -/
theorem exists_key_append (front : Text) (hascii : isAscii word = true) (hslash : '\\' ∉ word) :
    ∃ out, key (front ++ word) = out ++ asciiLowercase word := by
  rw [key, List.map_append, map_slash_eq_self hslash, lowercase]
  exact exists_lowercaseFrom_append _ _ hascii

/-- Where a key ends with characters of ASCII other than `k`, the path ends with these characters up
to case. -/
theorem exists_suffix_of_key (hword : word.all isPlainLower = true) (hslash : '/' ∉ word)
    (h : key path = out ++ word) :
    ∃ front back, path = front ++ back ∧ asciiLowercase back = word := by
  obtain ⟨front, back, hsplit, hback⟩ := exists_suffix_of_lowercaseFrom hword h
  obtain ⟨front', back', rfl, -, hmap⟩ := List.map_eq_append_iff.mp hsplit
  refine ⟨front', back', rfl, ?_⟩
  have hbackslash : '\\' ∉ back' := by
    intro hmem
    refine hslash ?_
    rw [← hback, ← hmap]
    exact List.mem_map_of_mem (f := asciiLower) (List.mem_map_of_mem hmem)
  rwa [← hmap, map_slash_eq_self hbackslash] at hback

end FileSet

/-! ### Extensions -/

namespace Text

/-- The last piece of a text ends with the part of the text that holds no separator. -/
theorem exists_splitOnChar_append {separator : Char} {back : Text} (h : separator ∉ back)
    (front : Text) :
    ∃ pieces stem, splitOnChar separator (front ++ back) = pieces ++ [stem ++ back] := by
  induction front with
  | nil =>
    refine ⟨[], [], ?_⟩
    induction back with
    | nil => rfl
    | cons c back ih =>
      rw [List.mem_cons, not_or] at h
      rw [List.nil_append] at ih ⊢
      rw [splitOnChar, if_neg (Ne.symm h.1), ih h.2]
      rfl
  | cons c front ih =>
    obtain ⟨pieces, stem, hpieces⟩ := ih
    rw [List.cons_append, splitOnChar, hpieces]
    split
    · exact ⟨[] :: pieces, stem, rfl⟩
    · rcases pieces with _ | ⟨piece, pieces⟩
      · exact ⟨[], c :: stem, rfl⟩
      · exact ⟨(c :: piece) :: pieces, stem, rfl⟩

end Text

namespace Path

variable {c : Char} {extension : Text}

/-- A name that ends with a dot and an extension is no step up and no dot. -/
theorem part?_append (stem : Text) (hc : c ≠ '.') :
    part? (stem ++ c :: '.' :: extension) = some (.name (stem ++ c :: '.' :: extension)) := by
  have hblank : isBlank (stem ++ c :: '.' :: extension) = false := by
    rcases stem with _ | ⟨d, stem⟩ <;> simp [isBlank]
  have hup : stem ++ c :: '.' :: extension ≠ ['.', '.'] := by
    rcases stem with _ | ⟨d, _ | ⟨e, stem⟩⟩ <;> simp [hc]
  rw [part?, hblank, if_neg hup]
  rfl

theorem splitExtension_append (stem : Text) (c : Char) (hdot : '.' ∉ extension) :
    splitExtension (stem ++ c :: '.' :: extension) = (stem ++ [c], some extension) := by
  have hname : stem ++ c :: '.' :: extension = (stem ++ [c]) ++ '.' :: extension := by simp
  have htake : (List.takeWhile (· != '.') (stem ++ c :: '.' :: extension).reverse).reverse =
      extension := by
    have hpass : ∀ d ∈ extension.reverse, (d != '.') = true := fun d hd =>
      bne_iff_ne.mpr (ne_of_mem_of_not_mem (List.mem_reverse.mp hd) hdot)
    rw [hname, List.reverse_append, List.reverse_cons, List.append_assoc,
      List.takeWhile_append_of_pos hpass]
    simp
  have hstem : (stem ++ c :: '.' :: extension).take
      ((stem ++ c :: '.' :: extension).length - extension.length - 1) = stem ++ [c] := by
    rw [hname]
    refine List.take_left' ?_
    simp only [List.length_append, List.length_cons, List.length_nil]
    omega
  have hshort : ¬ (extension.length = (stem ++ c :: '.' :: extension).length ∨
      stem ++ [c] = []) := by
    simp
    omega
  simp only [splitExtension, htake, hstem]
  rw [if_neg hshort]

/-- A path that ends with a dot and an extension behind a character of its name has this
extension. -/
theorem extension?_append (front : Path) (hc : c ≠ '.') (hslash : '/' ∉ c :: extension)
    (hdot : '.' ∉ extension) : extension? (front ++ c :: '.' :: extension) = some extension := by
  have hback : '/' ∉ c :: '.' :: extension := by
    rw [List.mem_cons, not_or] at hslash
    simp [hslash.1, hslash.2]
  obtain ⟨body, hbody⟩ : ∃ body, (splitLead (front ++ c :: '.' :: extension)).2 =
      body ++ c :: '.' :: extension := by
    rcases front with _ | ⟨d, front⟩
    · refine ⟨[], ?_⟩
      rw [List.mem_cons, not_or] at hslash
      rw [List.nil_append, splitLead_cons, if_neg (Ne.symm hslash.1), if_neg (fun h => hc h.1)]
    · rw [List.cons_append, splitLead_cons]
      split
      · exact ⟨front, rfl⟩
      · split
        · exact ⟨front, rfl⟩
        · exact ⟨d :: front, rfl⟩
  obtain ⟨before, stem, hpieces⟩ := exists_splitOnChar_append hback body
  have hname : fileName? (front ++ c :: '.' :: extension) =
      some (stem ++ c :: '.' :: extension) := by
    rw [fileName?, parts, pieces, hbody, hpieces, List.filterMap_append, List.filterMap_cons,
      part?_append stem hc]
    simp
  rw [extension?, hname, Option.bind_some, splitExtension_append stem c hdot]

/-- **The extension shows in the key.** A path whose key ends with a dot and an extension behind a
character of the name has this extension up to case. -/
theorem extension?_of_key {path out : Path}
    (hword : List.all (c :: '.' :: extension) isPlainLower = true) (hc : c ≠ '.')
    (hslash : '/' ∉ c :: extension) (hdot : '.' ∉ extension)
    (h : FileSet.key path = out ++ c :: '.' :: extension) :
    path.extension?.map asciiLowercase = some extension := by
  have hback : '/' ∉ c :: '.' :: extension := by
    rw [List.mem_cons, not_or] at hslash
    simp [hslash.1, hslash.2]
  obtain ⟨front, back, rfl, hlower⟩ := FileSet.exists_suffix_of_key hword hback h
  obtain ⟨c', rest, rfl, rfl, hrest⟩ := List.map_eq_cons_iff.mp hlower
  obtain ⟨d, extension', rfl, hd, rfl⟩ := List.map_eq_cons_iff.mp hrest
  obtain rfl : d = '.' := (asciiLower_eq_iff rfl).mp hd
  have hc' : c' ≠ '.' := mt (asciiLower_eq_iff rfl).mpr hc
  have hslash' : '/' ∉ c' :: extension' := fun hmem => hslash (List.mem_map_of_mem hmem)
  have hdot' : '.' ∉ extension' := fun hmem => hdot (List.mem_map_of_mem hmem)
  rw [extension?_append front hc' hslash' hdot']
  rfl

end Path

end CfmlNav
