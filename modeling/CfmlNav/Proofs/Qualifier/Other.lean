import CfmlNav.Definition.Variables
import CfmlNav.Proofs.Qualifier.Word

/-!
# Qualifiers of another scope

A text before a word cannot be qualified by two scopes: it ends in one keyword only
(`Qualification.keyword_eq`), and keywords of different scopes are different words. So where one
scope qualifies a word, a list without that scope accepts the text before it only if it takes the
word for a bare one. Whether it does is seen from the last character alone. A dot is not passed
over, so `this.x` is no bare `x`; but the quote of `this["x"]` is a character like any other, so the
written form with a bracket passes for text before a bare word (`Qualification.isBare_iff`).
-/

namespace CfmlNav

open Text Pattern Character

namespace Scope

/-! ### Keywords of different scopes -/

/-- All scopes, those without a qualifier included. -/
def all : List Scope :=
  unknown :: qualifiers

theorem mem_all (scope : Scope) : scope ∈ all := by
  cases scope <;> decide

/-- The keywords of different scopes differ in more than case. -/
theorem eq_of_foldCode_word {scope other : Scope}
    (h : scope.word.map foldCode = other.word.map foldCode) : scope = other := by
  have hall : ∀ s ∈ all, ∀ t ∈ all, s.word.map foldCode = t.word.map foldCode → s = t := by
    decide +kernel
  exact hall scope (mem_all scope) other (mem_all other) h

end Scope

namespace Qualifier

variable {scope : Scope} {scopes scopes' : List Scope} {keyword text front rest : Text}
  {captures : List Capture}

/-! ### One qualification only -/

/-- Two qualifications of a text have the same keyword. Both keywords are the whole run of word
characters before the joint. -/
theorem Qualification.keyword_eq (q : Qualification scopes text) (q' : Qualification scopes' text) :
    q.keyword = q'.keyword := by
  have hsame := q.beforeJoint_eq.symm.trans q'.beforeJoint_eq
  have hedge := (isWord_before_iff q.isSpace_before).mpr q.noLongerWord
  have hedge' := (isWord_before_iff q'.isSpace_before).mpr q'.noLongerWord
  exact (append_inj_of_block_right hsame q.isKeyword.isWord q'.isKeyword.isWord hedge hedge').2

theorem IsKeyword.mem_of_singleton (h : IsKeyword [scope] keyword) (h' : IsKeyword scopes keyword) :
    scope ∈ scopes := by
  obtain ⟨s, hs, hfold⟩ := h
  obtain ⟨t, ht, hfold'⟩ := h'
  obtain rfl : s = t := Scope.eq_of_foldCode_word (hfold.symm.trans hfold')
  obtain rfl : s = scope := by simpa using hs
  exact ht

/-- Where a scope qualifies a text, only lists with that scope do. -/
theorem Qualification.mem_of_accepts (q : Qualification [scope] text) (hscopes : scopes ≠ [])
    (h : (required scopes).accepts text = true) : scope ∈ scopes := by
  obtain ⟨q'⟩ := (accepts_required_iff hscopes).mp h
  have hkeyword := q.keyword_eq q'
  exact q.isKeyword.mem_of_singleton (hkeyword ▸ q'.isKeyword)

/-! ### The last character -/

/-- Whether a text ends in a quote. -/
def endsInQuote (text : Text) : Bool :=
  text.getLast?.any fun c => c == '\'' || c == '"'

theorem endsInQuote_iff : endsInQuote text = true ↔
    ∃ init c, text = init ++ [c] ∧ (c = '\'' ∨ c = '"') := by
  rcases List.eq_nil_or_concat' text with rfl | ⟨init, c, rfl⟩
  · simp [endsInQuote]
  · constructor
    · intro h
      exact ⟨init, c, rfl, by simpa [endsInQuote] using h⟩
    · rintro ⟨init', c', hsame, hc⟩
      obtain ⟨-, hchar⟩ := List.append_inj' hsame rfl
      obtain rfl : c = c' := by simpa using hchar
      simpa [endsInQuote] using hc

/-- A text that ends in a quote ends like one before a bare word. -/
theorem isBare_of_endsInQuote (h : endsInQuote text = true) : IsBare text := by
  obtain ⟨init, c, rfl, hc⟩ := endsInQuote_iff.mp h
  have hquote : isSpace c = false ∧ c ≠ '.' := by rcases hc with rfl | rfl <;> decide
  exact Or.inr ⟨init, c, [], rfl, hquote.1, hquote.2, by simp⟩

/-- Behind a dot no word is bare. -/
theorem not_isBare_of_dot {gap : Text} (hgap : ∀ c ∈ gap, isSpace c = true) :
    ¬ IsBare (front ++ '.' :: gap) := by
  have hdot : isSpace '.' = false := by decide
  rintro (hspaces | ⟨front', c, gap', htext, hspace, hc, hgap'⟩)
  · have hin := hspaces '.' (by simp)
    rw [hdot] at hin
    contradiction
  · have hsame : (front ++ ['.']) ++ gap = (front' ++ [c]) ++ gap' := by simpa using htext
    obtain ⟨hlast, -⟩ := append_inj_of_block_right hsame hgap hgap' (by simpa using hdot)
      (by simpa using hspace)
    obtain ⟨-, hchar⟩ := List.append_inj' hlast rfl
    exact hc (by simpa using hchar.symm)

/-- Behind a qualifier a word is taken for a bare one if the qualifier is written with a bracket,
and only then. -/
theorem Qualification.isBare_iff (q : Qualification scopes text) :
    IsBare text ↔ endsInQuote text = true := by
  refine ⟨?_, isBare_of_endsInQuote⟩
  intro hbare
  have htext : text = (q.before ++ (q.gapBefore ++ (q.keyword ++ q.gapBehind))) ++ q.joint := by
    simpa using q.text_eq
  rcases q.isJoint with ⟨gap, hjoint, hgap⟩ | ⟨gap, c, hjoint, -, hc⟩
  · rw [htext, hjoint] at hbare
    exact absurd hbare (not_isBare_of_dot hgap)
  · have hend : text = (q.before ++ (q.gapBefore ++ (q.keyword ++ (q.gapBehind ++ '[' :: gap)))) ++
        [c] := by simpa [hjoint] using htext
    exact endsInQuote_iff.mpr ⟨_, c, hend, hc⟩

/-! ### No scopes at all -/

/-- Where no word character follows there is a boundary exactly behind one. -/
theorem fits_boundary_behind_iff (hrest : ∀ d ∈ rest.head?, isWord d = false) :
    boundary.Fits front [] rest captures ↔
      captures = [] ∧ ∃ init c, front = init ++ [c] ∧ isWord c = true := by
  have hedge : (Cursor.between front rest).satisfies (.word .boundary false) = true ↔
      ∃ init c, front = init ++ [c] ∧ isWord c = true := by
    have hlast : (∃ init c, front = init ++ [c] ∧ isWord c = true) ↔
        front.getLast?.any isWord = true := by
      rcases List.eq_nil_or_concat' front with rfl | ⟨init, c, rfl⟩ <;> simp
    rw [hlast]
    clear hlast
    cases hend : front.getLast? <;> cases hhead : rest.head? <;>
      simp_all [Cursor.satisfies, Cursor.between, Cursor.isWordSide, WordEdge.isBetween]
  constructor
  · rintro ⟨-, rfl, h⟩
    exact ⟨rfl, hedge.mp h⟩
  · rintro ⟨rfl, h⟩
    exact ⟨rfl, rfl, hedge.mpr h⟩

theorem IsJoint.isWord_head (h : IsJoint text) : ∀ c ∈ text.head?, isWord c = false := by
  have hdot : isWord '.' = false := by decide
  have hbracket : isWord '[' = false := by decide
  rcases h with ⟨gap, rfl, -⟩ | ⟨gap, quote, rfl, -⟩
  · simpa using hdot
  · simpa using hbracket

/-- Whether a text ends in a joint behind a word character, white space apart. -/
def EndsBehindWord (text : Text) : Prop :=
  ∃ front c gap joint, text = front ++ c :: (gap ++ joint) ∧ isWord c = true ∧
    (∀ d ∈ gap, isSpace d = true) ∧ IsJoint joint

/-- Without scopes no keyword is asked for, only the boundary that would stand before it, so a joint
is accepted behind whatever word there is. -/
theorem accepts_required_nil_iff : (required []).accepts text = true ↔ EndsBehindWord text := by
  have hbehind {gap joint : Text} (hgap : ∀ d ∈ gap, isSpace d = true) (hjoint : IsJoint joint) :
      ∀ d ∈ (gap ++ joint).head?, isWord d = false := by
    rcases gap with _ | ⟨d, gap⟩
    · exact hjoint.isWord_head
    · simpa using isWord_of_isSpace (hgap d List.mem_cons_self)
  rw [accepts, pattern_required, matchesIn_atEnd]
  constructor
  · rintro ⟨before, gapBefore, _, _, rfl, -, hgapBefore, _, _, _, _, rfl, rfl, hboundary, _, _, _, _,
      rfl, rfl, ⟨rfl, rfl⟩, gap, joint, _, _, rfl, rfl, hgap, hjoint⟩
    obtain ⟨hspaces, rfl⟩ := fits_spaces.mp hgap
    obtain ⟨hisJoint, rfl⟩ := fits_joint.mp hjoint
    obtain rfl := hboundary.1
    obtain ⟨-, front, c, hfront, hc⟩ := (fits_boundary_behind_iff
      (by simpa using hbehind hspaces hisJoint)).mp hboundary
    refine ⟨front, c, gap, joint, ?_, hc, hspaces, hisJoint⟩
    simpa using congrArg (· ++ (gap ++ joint)) hfront
  · rintro ⟨front, c, gap, joint, rfl, hc, hgap, hjoint⟩
    have hopen : c ≠ '.' ∧ isSpace c = false := by
      refine ⟨?_, ?_⟩
      · rintro rfl
        revert hc
        decide
      · rw [Bool.eq_false_iff]
        intro hspace
        rw [isWord_of_isSpace hspace] at hc
        contradiction
    have hboundary : boundary.Fits (front ++ [c]) [] (gap ++ joint) [] :=
      (fits_boundary_behind_iff (hbehind hgap hjoint)).mpr ⟨rfl, front, c, rfl, hc⟩
    refine ⟨front ++ [c], [], gap ++ joint, [], by simp, by simpa using hopen, by simp, ?_⟩
    rw [List.append_nil]
    exact ⟨[], _, [], [], rfl, rfl, by simpa using hboundary, [], _, [], [], rfl, rfl, ⟨rfl, rfl⟩,
      gap, joint, [], [], rfl, rfl, fits_spaces.mpr ⟨hgap, rfl⟩, fits_joint.mpr ⟨hjoint, rfl⟩⟩

/-- Whatever keyword stands before the joint is passed over with the text before it. -/
theorem Qualification.accepts_nil (q : Qualification scopes text) :
    (required []).accepts text = true := by
  obtain ⟨init, c, hkeyword⟩ := (List.eq_nil_or_concat' q.keyword).resolve_left q.isKeyword.ne_nil
  refine accepts_required_nil_iff.mpr ⟨q.before ++ (q.gapBefore ++ init), c, q.gapBehind, q.joint,
    ?_, q.isKeyword.isWord c (by simp [hkeyword]), q.isSpace_behind, q.isJoint⟩
  simpa [hkeyword] using q.text_eq

end Qualifier

/-! ### Variables that need no qualifier -/

namespace Lookup

variable {lookup : Lookup}

theorem componentVariables_eq_nil (h : lookup.allows [.vars] = false) (component : Component) :
    lookup.componentVariables component = [] := by
  simp [componentVariables, h]

/-- Where a local variable is not looked up, a function can only answer with its parameters. -/
theorem kind_of_mem_functionVariables (h : lookup.allows [.locals] = false) {component : Component}
    {target : Target} (htarget : target ∈ lookup.functionVariables component) :
    target.kind = .parameter := by
  simp only [functionVariables, h, Bool.false_eq_true, if_false, List.append_nil] at htarget
  split at htarget
  next =>
    split at htarget
    next => simp at htarget
    next =>
      split at htarget
      next =>
        obtain ⟨p, -, rfl⟩ := List.mem_map.mp htarget
        rfl
      next => simp at htarget
  next => simp at htarget

end Lookup

namespace Qualifier

/-! ### Main result -/

/-- **Another qualifier is rejected if it is written with a dot, and only then.** Where a scope
qualifies the text before a word, an optional qualifier by other scopes accepts it if and only if
there are no other scopes at all or the text ends in a quote. So a word that another scope qualifies
with a dot is looked up neither as a variable of the component nor as a local one. -/
theorem accepts_optional_iff_of_other {scope : Scope} {before : Text}
    (hrequired : (required [scope]).accepts before = true) :
    (∀ scopes : List Scope, scope ∉ scopes →
      ((optional scopes).accepts before = true ↔ scopes = [] ∨ endsInQuote before = true)) ∧
    ∀ (lookup : Lookup) (component : Component), lookup.context.before = before →
      endsInQuote before = false →
      (scope ≠ .vars → lookup.componentVariables component = []) ∧
      (scope ≠ .locals →
        ∀ target ∈ lookup.functionVariables component, target.kind = .parameter) := by
  obtain ⟨q⟩ := (accepts_required_iff (List.cons_ne_nil scope [])).mp hrequired
  have hoptional : ∀ scopes : List Scope, scope ∉ scopes →
      ((optional scopes).accepts before = true ↔ scopes = [] ∨ endsInQuote before = true) := by
    intro scopes hscope
    rw [accepts_optional_iff, q.isBare_iff]
    refine or_congr_left ⟨?_, ?_⟩
    · intro haccepts
      by_contra hscopes
      exact hscope (q.mem_of_accepts hscopes haccepts)
    · rintro rfl
      exact q.accepts_nil
  refine ⟨hoptional, ?_⟩
  rintro lookup component rfl hquote
  have hrejects {other : Scope} (hother : scope ≠ other) : lookup.allows [other] = false := by
    rw [Bool.eq_false_iff, Ne, Lookup.allows, hoptional [other] (by simpa using hother)]
    simp [hquote]
  refine ⟨?_, ?_⟩
  · intro hscope
    exact Lookup.componentVariables_eq_nil (hrejects hscope) component
  · intro hscope target htarget
    exact Lookup.kind_of_mem_functionVariables (hrejects hscope) htarget

/-- A component variable that `session` qualifies with a dot is not looked up. -/
theorem accepts_optional_session :
    let y : Variable := ⟨"y".toList, .vars, ⟨⟨0⟩, ⟨⟨3, 0⟩, ⟨3, 1⟩⟩⟩⟩
    let cart : Component := { file := ⟨0⟩, name := "Cart".toList, range := ⟨⟨0, 0⟩, ⟨0, 0⟩⟩,
                              assigned := [y] }
    let registry : Registry := ⟨fun _ => none, fun _ _ => none⟩
    let lookup : Lookup :=
      ⟨.build ⟨0⟩ .script (some cart) "x = y + Session . y".toList ⟨0, 18⟩, registry, {}⟩
    (required [.session]).accepts lookup.context.before = true ∧
      lookup.word = y.identifier ∧
      (optional [.vars, .this]).accepts lookup.context.before = false ∧
      lookup.componentVariables cart = [] ∧
      ∀ target ∈ lookup.functionVariables cart, target.kind = .parameter := by
  intro y cart registry lookup
  have hrequired : (required [.session]).accepts lookup.context.before = true := by decide +kernel
  have hquote : endsInQuote lookup.context.before = false := by decide +kernel
  obtain ⟨hoptional, hlookup⟩ := accepts_optional_iff_of_other hrequired
  obtain ⟨hcomponent, hfunction⟩ := hlookup lookup cart rfl hquote
  refine ⟨hrequired, by decide +kernel, ?_, hcomponent (by decide), hfunction (by decide)⟩
  rw [Bool.eq_false_iff, Ne, hoptional [.vars, .this] (by decide), hquote]
  decide

/-- Written with a bracket, `session` passes for no qualifier at all. -/
example : (required [.session]).accepts "x = session[\"".toList = true ∧
    (optional [.vars]).accepts "x = session[\"".toList = true := by
  decide +kernel

end Qualifier

end CfmlNav
