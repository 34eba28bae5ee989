import CfmlNav.Proofs.Qualifier.Grammar
import CfmlNav.Proofs.Text.Word
import Mathlib.Data.List.DropRight

/-!
# Qualifiers as words

The keyword of a qualifier ends the word before the joint, since it consists of word characters.
Whether it is the whole word is decided by two different classes of characters. The grammar asks
that the keyword does not follow a word character of patterns, while a word of a document runs on
over characters of its own, above all the dollar sign. So a word in front of which a keyword is cut
off passes for a qualifier if the character before the keyword is one of these, and in no other
case (`isKeyword_wordBeforeJoint_iff`).
-/

namespace CfmlNav

open Text Character

/-! ### Words at the end of a text -/

namespace Text

theorem rdropWhile_append_of_block {p : Char → Bool} {front block : Text}
    (hfront : ∀ c ∈ front.getLast?, p c = false) (hblock : ∀ c ∈ block, p c = true) :
    (front ++ block).rdropWhile p = front := by
  have hreverse : (front ++ block).reverse.dropWhile p = front.reverse.dropWhile p := by
    rw [List.reverse_append]
    exact List.dropWhile_append_of_pos (by simpa using hblock)
  have hhead : ∀ c ∈ front.reverse.head?, p c = false := by simpa using hfront
  have hkept : front.reverse.dropWhile p = front.reverse := by
    cases hlast : front.reverse with
    | nil => rfl
    | cons c rest => exact List.dropWhile_cons_of_neg (by simp [hhead c (by simp [hlast])])
  rw [List.rdropWhile, hreverse, hkept, List.reverse_reverse]

end Text

namespace Qualifier

/-! ### The word before a joint -/

/-- A text without the joint that it ends with, and without the white space around it: the dot, or
else the quote and the bracket, are taken off. -/
def beforeJoint (text : Text) : Text :=
  let trimmed := text.rdropWhile isSpace
  let unquoted := trimmed.dropLast.rdropWhile isSpace
  if trimmed.getLast? = some '.' then unquoted else unquoted.dropLast.rdropWhile isSpace

/-- The word before the joint that a text ends with. -/
def wordBeforeJoint (text : Text) : Text :=
  trailingWord (beforeJoint text)

theorem beforeJoint_append {front gap joint : Text} (hfront : ∀ c ∈ front.getLast?, isSpace c = false)
    (hgap : ∀ c ∈ gap, isSpace c = true) (hjoint : IsJoint joint) :
    beforeJoint (front ++ (gap ++ joint)) = front := by
  have hdot : ¬ isSpace '.' = true := by decide
  have hbracket : ¬ isSpace '[' = true := by decide
  have hbefore : (front ++ gap).rdropWhile isSpace = front := rdropWhile_append_of_block hfront hgap
  rcases hjoint with ⟨gap', rfl, hgap'⟩ | ⟨gap', c, rfl, hgap', hc⟩
  · have htext : front ++ (gap ++ '.' :: gap') = ((front ++ gap) ++ ['.']) ++ gap' := by simp
    have htrimmed : (((front ++ gap) ++ ['.']) ++ gap').rdropWhile isSpace = (front ++ gap) ++ ['.'] :=
      rdropWhile_append_of_block (by simpa using hdot) hgap'
    rw [beforeJoint, htext, htrimmed, List.dropLast_concat, List.getLast?_concat, if_pos rfl, hbefore]
  · have htext : front ++ (gap ++ '[' :: (gap' ++ [c])) =
        (((front ++ gap) ++ ['[']) ++ gap') ++ [c] := by simp
    have hquote : ¬ isSpace c = true ∧ some c ≠ some '.' := by rcases hc with rfl | rfl <;> decide
    have hunquoted : (((front ++ gap) ++ ['[']) ++ gap').rdropWhile isSpace = (front ++ gap) ++ ['['] :=
      rdropWhile_append_of_block (by simpa using hbracket) hgap'
    rw [beforeJoint, htext, List.rdropWhile_concat_neg _ _ _ hquote.1, List.dropLast_concat,
      List.getLast?_concat, if_neg hquote.2, hunquoted, List.dropLast_concat, hbefore]

variable {scopes : List Scope} {text : Text}

theorem Qualification.isWordCharacter (q : Qualification scopes text) :
    ∀ c ∈ q.keyword, isWordCharacter c = true := by
  intro c hc
  obtain ⟨hlow, hhigh⟩ := q.isKeyword.foldCode c hc
  exact isWordCharacter_of_foldCode hlow hhigh

/-- Before the joint of a qualification the text ends with the keyword. -/
theorem Qualification.beforeJoint_eq (q : Qualification scopes text) :
    beforeJoint text = (q.before ++ q.gapBefore) ++ q.keyword := by
  have hlast : ∀ c ∈ ((q.before ++ q.gapBefore) ++ q.keyword).getLast?, isSpace c = false := by
    obtain ⟨init, c, hkeyword⟩ := (List.eq_nil_or_concat' q.keyword).resolve_left q.isKeyword.ne_nil
    have hc := q.isWordCharacter c (by simp [hkeyword])
    have hspace : isSpace c = false := by
      rw [Bool.eq_false_iff]
      intro hspace
      rw [isWordCharacter_of_isSpace hspace] at hc
      contradiction
    simpa [hkeyword, ← List.append_assoc] using hspace
  have htext : text = ((q.before ++ q.gapBefore) ++ q.keyword) ++ (q.gapBehind ++ q.joint) := by
    simpa using q.text_eq
  exact (congrArg beforeJoint htext).trans (beforeJoint_append hlast q.isSpace_behind q.isJoint)

/-- The word before the joint of a qualification ends with the keyword, and what stands before the
keyword in the word does not end with a word character of patterns. -/
theorem Qualification.exists_wordBeforeJoint_eq (q : Qualification scopes text) :
    ∃ lead, wordBeforeJoint text = lead ++ q.keyword ∧
      ∀ c ∈ lead.getLast?, isWord c = false := by
  refine ⟨trailingWord (q.before ++ q.gapBefore), ?_, ?_⟩
  · rw [wordBeforeJoint, q.beforeJoint_eq, trailingWord_append q.isWordCharacter]
  · intro c hc
    exact (isWord_before_iff q.isSpace_before).mpr q.noLongerWord c
      (getLast?_of_mem_trailingWord hc)

/-! ### Main result -/

/-- **Qualifiers are whole words, but for one exception.** Where a required qualifier is accepted,
the word before the joint ends with the keyword of one of the scopes. It is the keyword itself if
and only if it consists of word characters of patterns; otherwise what stands before the keyword
ends with another character, such as the dollar sign. -/
theorem isKeyword_wordBeforeJoint_iff {scopes : List Scope} {text : Text} (hscopes : scopes ≠ [])
    (haccepts : (required scopes).accepts text = true) :
    (∃ lead keyword, wordBeforeJoint text = lead ++ keyword ∧ IsKeyword scopes keyword ∧
      ∀ c ∈ lead.getLast?, isWord c = false) ∧
    (IsKeyword scopes (wordBeforeJoint text) ↔ (wordBeforeJoint text).all isWord = true) := by
  obtain ⟨q⟩ := (accepts_required_iff hscopes).mp haccepts
  obtain ⟨lead, hword, hlead⟩ := q.exists_wordBeforeJoint_eq
  refine ⟨⟨lead, q.keyword, hword, q.isKeyword, hlead⟩, ?_⟩
  rw [List.all_eq_true]
  constructor
  · exact IsKeyword.isWord
  · intro hall
    have hnil : lead = [] := by
      rcases List.eq_nil_or_concat' lead with hnil | ⟨init, c, rfl⟩
      · exact hnil
      · have hc : isWord c = true := hall c (by simp [hword])
        rw [hlead c (by simp)] at hc
        contradiction
    rw [hword, hnil, List.nil_append]
    exact q.isKeyword

theorem isKeyword_wordBeforeJoint_session :
    ([.session] : List Scope) ≠ [] ∧
      (required [.session]).accepts "return Session [ \"".toList = true ∧
      wordBeforeJoint "return Session [ \"".toList = "Session".toList ∧
      IsKeyword [.session] (wordBeforeJoint "return Session [ \"".toList) := by
  have hscopes : ([.session] : List Scope) ≠ [] := by decide
  have haccepts : (required [.session]).accepts "return Session [ \"".toList = true := by
    decide +kernel
  have hword : wordBeforeJoint "return Session [ \"".toList = "Session".toList := by decide +kernel
  refine ⟨hscopes, haccepts, hword, (isKeyword_wordBeforeJoint_iff hscopes haccepts).2.mpr ?_⟩
  rw [hword]
  decide +kernel

/-- The word `$variables` is taken for the scope `variables`. -/
example : (required [.vars]).accepts "$variables.".toList = true ∧
    wordBeforeJoint "$variables.".toList = "$variables".toList := by
  decide +kernel

end Qualifier

end CfmlNav
