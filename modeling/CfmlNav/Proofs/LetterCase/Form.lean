import CfmlNav.Qualifier
import CfmlNav.Reference
import CfmlNav.Variable.Assignment
import CfmlNav.Proofs.LetterCase.Comment
import CfmlNav.Proofs.LetterCase.Pattern
import Mathlib.Data.List.Basic

/-!
# The forms of the language up to ASCII case

Scope qualifiers, declarations of local variables and references to components are found by
patterns that are blind to case. What they find in a lowered document is therefore what they find
in the document, at the same places and with lowered names.
-/

namespace CfmlNav

open Character Text Pattern

/-! ### Qualifiers -/

namespace Qualifier

theorem caseBlind_pattern (qualifier : Qualifier) : qualifier.pattern.CaseBlind := by
  have hfresh : (one fun c => c != '.' && !isSpace c).CaseBlind :=
    caseBlind_of_letters (by decide)
  have hwritten : (written qualifier.scopes).CaseBlind := by
    simp [written, caseBlind_char, isAsciiLetter]
  cases hoptional : qualifier.isOptional <;> simp [pattern, hoptional, hfresh, hwritten]

/-- A qualifier accepts a lowered text exactly if it accepts the text. -/
@[simp] theorem accepts_asciiLowercase (qualifier : Qualifier) (before : Text) :
    qualifier.accepts before.asciiLowercase = qualifier.accepts before :=
  matchesIn_asciiLowercase qualifier.caseBlind_pattern before

end Qualifier

/-! ### Local variables -/

/-- Sorting by places does not see a change of the entries that keeps their places. -/
theorem Position.sortBy_map {α : Type} {place : α → Position} {f : α → α}
    (hplace : ∀ x, place (f x) = place x) (xs : List α) :
    sortBy place (xs.map f) = (sortBy place xs).map f := by
  have hinsert (x : α) (ys : List α) :
      insertBy place (f x) (ys.map f) = (insertBy place x ys).map f := by
    induction ys with
    | nil => rfl
    | cons y ys ih =>
      simp only [List.map_cons, insertBy, hplace]
      split
      · rfl
      · rw [ih, List.map_cons]
  induction xs with
  | nil => rfl
  | cons x xs ih => rw [List.map_cons, sortBy, ih, hinsert, sortBy]

namespace Variable

/-- The variable with a lowered identifier. -/
def asciiLowercase (v : Variable) : Variable :=
  { v with identifier := v.identifier.asciiLowercase }

@[simp] theorem isNamed_asciiLowercase (v : Variable) (name : Text) :
    v.asciiLowercase.isNamed name.asciiLowercase = v.isNamed name := by
  rw [isNamed, Name.same_asciiLowercase_right]
  exact Name.same_asciiLowercase_left v.identifier name

theorem caseBlind_equals : equals.CaseBlind := by
  have hsecond : (one (· != '=')).CaseBlind := caseBlind_of_letters (by decide)
  simp [equals, caseBlind_char, isAsciiLetter, hsecond]

theorem caseBlind_varDeclaration : varDeclaration.CaseBlind := by
  simp [varDeclaration, name, caseBlind_equals]

theorem caseBlind_localAssignment : localAssignment.CaseBlind := by
  have hfresh : freshStart.CaseBlind := ⟨trivial, caseBlind_of_letters (by decide)⟩
  simp [localAssignment, dot, name, caseBlind_equals, caseBlind_char, isAsciiLetter, hfresh]

/-- What a form finds in a lowered part of a lowered text. -/
theorem collect_asciiLowercase {form : Pattern} (hform : form.CaseBlind) (file : FileId)
    (text : Text) (base : Nat) (part : Text) (scope : Scope) :
    collect file text.asciiLowercase base part.asciiLowercase form scope =
      (collect file text base part form scope).map asciiLowercase := by
  rw [collect, findAll_asciiLowercase hform, List.filterMap_map, collect, List.map_filterMap]
  refine congrArg (List.filterMap · _) (funext fun found => ?_)
  simp only [Function.comp_apply, Match.capture?_asciiLowercase, Option.map_map]
  refine congrArg (Option.map · _) (funext fun range => ?_)
  simp only [Function.comp_apply, asciiLowercase, slice_asciiLowercase, spanAt_asciiLowercase,
    Scope.parse_asciiLowercase]

/-- The local variables that are found in a lowered document. -/
theorem localsIn_asciiLowercase (context : Context) (body : Option Span) :
    localsIn context.asciiLowercase body = (localsIn context body).map asciiLowercase := by
  cases body with
  | none => rfl
  | some body =>
    have hbytes : bodyBytes context.text.asciiLowercase body = bodyBytes context.text body := by
      simp only [bodyBytes, offsetAt_asciiLowercase]
    simp only [localsIn, Context.asciiLowercase, hbytes, slice_asciiLowercase,
      collect_asciiLowercase caseBlind_varDeclaration,
      collect_asciiLowercase caseBlind_localAssignment, ← List.map_append]
    exact Position.sortBy_map (f := asciiLowercase) (fun _ => rfl) _

end Variable

/-! ### References -/

/-- The reference with a lowered path. -/
def Reference.asciiLowercase (reference : Reference) : Reference :=
  { reference with
    path := reference.path.asciiLowercase
    name := reference.name.asciiLowercase }

namespace ReferencePattern

theorem caseBlind_languageForms : ∀ form ∈ languageForms, form.2.CaseBlind := by
  have hpart : (one fun c => isNamePart c || c == '.').CaseBlind :=
    caseBlind_of_letters (by decide)
  have htag : (one (· != '>')).CaseBlind := caseBlind_of_letters (by decide)
  have hlist : (noneOf [',', ')']).CaseBlind := caseBlind_of_letters (by decide)
  have hloose : loosePath.CaseBlind := hpart
  have hdotted : dottedPath.CaseBlind := by
    simp [dottedPath, caseBlind_char, isAsciiLetter]
  simp [languageForms, call, clause, quotedPath, maybeQuote, caseBlind_char, isAsciiLetter,
    htag, hlist, hloose, hdotted]

/-- The reference of a captured path in a lowered text. -/
theorem reference?_asciiLowercase (form : ReferencePattern) (text : Text) (captured : ByteRange) :
    form.reference? text.asciiLowercase captured =
      (form.reference? text captured).map Reference.asciiLowercase := by
  have hdot : Character.CaseBlind (· == '.') := caseBlind_of_letters (by decide)
  have hnotDot : Character.CaseBlind (· != '.') := caseBlind_of_letters (by decide)
  simp only [reference?, slice_asciiLowercase, reverse_asciiLowercase,
    dropWhile_asciiLowercase hdot, takeWhile_asciiLowercase hnotDot,
    take_asciiLowercase, isEmpty_asciiLowercase, length_asciiLowercase, byteSize_asciiLowercase]
  split
  · rfl
  · rfl

theorem find_asciiLowercase {form : ReferencePattern} (h : form ∈ builtIn) (text : Text) :
    form.find text.asciiLowercase = (form.find text).map Reference.asciiLowercase := by
  obtain ⟨⟨name, pattern⟩, hmem, rfl⟩ := List.mem_map.mp h
  have hblind : pattern.CaseBlind := caseBlind_languageForms _ hmem
  rw [find, find, ReferenceForm.findAll, findAll_asciiLowercase hblind, List.filterMap_map,
    List.map_filterMap]
  refine congrArg (List.filterMap · _) (funext fun found => ?_)
  simp only [Function.comp_apply, Match.capture?_asciiLowercase]
  cases found.capture? pathGroup with
  | none => rfl
  | some captured => exact reference?_asciiLowercase _ text captured

/-- The references of the language in a lowered text. -/
theorem findAll_builtIn_asciiLowercase (text : Text) :
    findAll builtIn text.asciiLowercase =
      (findAll builtIn text).map Reference.asciiLowercase := by
  rw [findAll, findAll, List.map_flatMap]
  exact List.flatMap_congr fun form hform => find_asciiLowercase hform text

end ReferencePattern

end CfmlNav
