import CfmlNav.Proofs.Comment.Extent

/-!
# Scanning a document

The lexer is written with a bound on the number of its steps. That the bound ends no scan is said
by a relation without one: `mode.Scans text lexemes` holds if the steps that start in `mode` come to
the end of `text` and give `lexemes` on the way. Every text is scanned, in at most as many steps as
it has characters, since each step takes one at least (`scans_lexemes`, `Scans.length_le`). Being a
relation with one constructor for each way to go on, it is also what one argues by about all lexemes
of a text: a script document never leaves the mode that has no markup comments
(`Scans.comment_ne_tag`).

The comments among the lexemes are well formed (`findAll_wellFormed`): they are parts of the
document, cut at character boundaries, one behind the other, each with the delimiters of its kind.
-/

namespace CfmlNav

open Text LexMode

/-! ### Scans -/

namespace LexMode

/-- Whether the steps of the lexer that start in a mode come to the end of a text, and what they
take. -/
inductive Scans : LexMode → Text → List Lexeme → Prop
  /-- At the end of the text nothing is left to take. -/
  | done (mode : LexMode) : Scans mode [] []
  /-- Before a character one step is made, and the scan goes on behind it. -/
  | step {mode : LexMode} {c : Char} {rest : Text} {lexemes : List Lexeme}
      (later : Scans (mode.step c rest).mode ((c :: rest).drop (mode.step c rest).length) lexemes) :
      Scans mode (c :: rest)
        (⟨(mode.step c rest).comment, (c :: rest).take (mode.step c rest).length⟩ :: lexemes)

/-- **Every scan ends,** with the lexemes of the text. -/
theorem scans_lexemes (mode : LexMode) (text : Text) : mode.Scans text (mode.lexemes text) := by
  induction h : text.length using Nat.strongRecOn generalizing mode text with
  | ind n ih =>
    rcases text with _ | ⟨c, rest⟩
    · exact .done mode
    · have hpos := step_length_pos mode c rest
      have hshorter : ((c :: rest).drop (mode.step c rest).length).length < n := by
        rw [← h, List.length_drop, List.length_cons]
        omega
      rw [lexemes_cons]
      exact .step (ih _ hshorter _ _ rfl)

/-- A scan makes at most as many steps as there are characters. -/
theorem Scans.length_le {mode : LexMode} {text : Text} {lexemes : List Lexeme}
    (h : mode.Scans text lexemes) : lexemes.length ≤ text.length := by
  induction h with
  | done => exact Nat.le_refl 0
  | @step mode c rest lexemes _ ih =>
    have hpos := step_length_pos mode c rest
    rw [List.length_drop, List.length_cons] at ih
    simp only [List.length_cons]
    omega

/-- A step of script takes no markup comment and leaves the mode. -/
theorem scriptStep_of_script (c : Char) (rest : Text) :
    (script.step c rest).comment ≠ some .tag ∧ (script.step c rest).mode = script := by
  rw [step, scriptStep]
  split
  · exact ⟨by simp, rfl⟩
  · split
    · exact ⟨by simp, rfl⟩
    · split <;> exact ⟨by simp, rfl⟩

/-- A script document has no markup comments. -/
theorem Scans.comment_ne_tag {text : Text} {lexemes : List Lexeme} (h : script.Scans text lexemes) :
    ∀ lexeme ∈ lexemes, lexeme.comment ≠ some .tag := by
  generalize hmode : script = mode at h
  induction h with
  | done => simp
  | @step mode c rest lexemes _ ih =>
    subst hmode
    obtain ⟨htag, hstays⟩ := scriptStep_of_script c rest
    rw [List.forall_mem_cons]
    exact ⟨htag, ih hstays.symm⟩

end LexMode

/-! ### The form of what is found -/

/-- The delimiter that a comment can be closed with; a line comment has none. -/
def CommentKind.closing? : CommentKind → Option Text
  | line => none
  | block => some "*/".toList
  | tag => some tagCommentClose

theorem CommentKind.Closes.closing_suffix {kind : CommentKind} {part : Text}
    (h : kind.Closes part) : ∀ closing ∈ kind.closing?, closing <:+ part := by
  intro closing hclosing
  cases kind with
  | line => exact h.elim
  | block =>
    obtain rfl := Option.some_inj.mp hclosing
    obtain ⟨body, rfl⟩ := h
    exact ⟨"/*".toList ++ body, by simp⟩
  | tag =>
    obtain rfl := Option.some_inj.mp hclosing
    obtain ⟨⟨body, rfl⟩, -⟩ := h
    exact ⟨tagCommentOpen ++ body, by simp⟩

theorem CommentKind.two_le_byteSize_opening (kind : CommentKind) :
    2 ≤ kind.opening.byteSize := by
  cases kind <;> decide

namespace Comment

/-- A comment that is the part `part` of a text, between `front` and `behind`: it has at least two
bytes, starts with the delimiter of its kind and ends as its kind does, a line comment before the
end of its line and any other with a closing delimiter or with the text. -/
structure StandsIn (comment : Comment) (text front part behind : Text) : Prop where
  text_eq : text = front ++ (part ++ behind)
  range_eq : comment.range = ⟨front.byteSize, byteSize (front ++ part)⟩
  two_le : comment.range.start + 2 ≤ comment.range.stop
  opening_prefix : comment.kind.opening <+: part
  line : comment.kind = .line → '\n' ∉ part ∧ ∀ c ∈ behind.head?, c = '\n' ∨ c = '\r'
  closing : ∀ closing ∈ comment.kind.closing?, closing <:+ part ∨ behind = []

theorem exists_standsIn_of_mem_findAll {dialect : Dialect} {text : Text} {comment : Comment}
    (h : comment ∈ findAll dialect text) :
    ∃ front part behind, comment.StandsIn text front part behind := by
  obtain ⟨front, part, behind, htext, hrange, hdelimited⟩ := exists_delimited_of_mem_findAll h
  have hopening := hdelimited.opening_prefix
  refine ⟨front, part, behind, htext, hrange, ?_, hopening, ?_, ?_⟩
  · obtain ⟨rest, rfl⟩ := hopening
    have htwo := comment.kind.two_le_byteSize_opening
    rw [hrange]
    simp only [byteSize_append]
    omega
  · intro hkind
    rw [hkind] at hdelimited
    cases hdelimited with
    | line hbody hbehind =>
      refine ⟨?_, hbehind⟩
      rw [List.mem_append, not_or]
      exact ⟨by decide, hbody⟩
    | closed hclosed _ => exact hclosed.elim
    | unclosed hne _ _ => exact absurd rfl hne
  · intro closing hclosing
    generalize comment.kind = kind at hdelimited hclosing
    cases hdelimited with
    | line => simp [CommentKind.closing?] at hclosing
    | closed hclosed _ => exact Or.inl (hclosed.closing_suffix closing hclosing)
    | unclosed => exact Or.inr rfl

/-- A comment among lexemes is one of them. -/
theorem exists_lexeme_of_mem_ofLexemes {offset : Nat} {lexemes : List Lexeme} {comment : Comment}
    (h : comment ∈ ofLexemes offset lexemes) :
    ∃ lexeme ∈ lexemes, lexeme.comment = some comment.kind := by
  induction lexemes generalizing offset with
  | nil => simp [ofLexemes] at h
  | cons first lexemes ih =>
    have hlater (h : comment ∈ ofLexemes (offset + first.text.byteSize) lexemes) :
        ∃ lexeme ∈ first :: lexemes, lexeme.comment = some comment.kind := by
      obtain ⟨lexeme, hmem, hkind⟩ := ih h
      exact ⟨lexeme, List.mem_cons_of_mem _ hmem, hkind⟩
    rw [ofLexemes] at h
    split at h
    next kind hkind =>
      rcases List.mem_cons.mp h with rfl | hmem
      · exact ⟨first, List.mem_cons_self, hkind⟩
      · exact hlater hmem
    next => exact hlater h

/-- **The comments of a document are well formed.** For every document the scan ends, after at most
one step for each character, and lists comments that are parts of the document, cut at character
boundaries and delimited as their kinds are. Each ends before the next one starts, and a script
document has no markup comments. -/
theorem findAll_wellFormed (dialect : Dialect) (text : Text) :
    (∃ lexemes, dialect.startMode.Scans text lexemes ∧ lexemes.length ≤ text.length ∧
      findAll dialect text = ofLexemes 0 lexemes) ∧
    (findAll dialect text).Pairwise
      (fun a b => a.range.start < b.range.start ∧ a.range.stop ≤ b.range.start) ∧
    (∀ comment ∈ findAll dialect text,
      ∃ front part behind, comment.StandsIn text front part behind) ∧
    (dialect = .script → ∀ comment ∈ findAll dialect text, comment.kind ≠ .tag) := by
  have hscans := scans_lexemes dialect.startMode text
  refine ⟨⟨_, hscans, hscans.length_le, rfl⟩, ?_, fun _ => exists_standsIn_of_mem_findAll, ?_⟩
  · have hordered := inOrder_readFrom dialect.startMode 0 text
    refine List.Pairwise.imp_of_mem (fun {a b} ha _ hstop => ?_) hordered
    obtain ⟨_, _, _, hstands⟩ := exists_standsIn_of_mem_findAll ha
    have htwo := hstands.two_le
    exact ⟨by omega, hstop⟩
  · rintro rfl comment hmem htag
    obtain ⟨lexeme, hlexeme, hkind⟩ := exists_lexeme_of_mem_ofLexemes hmem
    exact Scans.comment_ne_tag hscans lexeme hlexeme (htag ▸ hkind)

/-- A block comment does not close itself, a line comment ends before the carriage return, and in
markup the comments of script are found in blocks only. -/
example :
    findAll .script "/*/ é */ //a\r\n".toList = [⟨.block, 0, 9⟩, ⟨.line, 10, 13⟩] ∧
    findAll .tag "//<!--- <!--- ---> ---><cfscript>//".toList =
      [⟨.tag, 2, 23⟩, ⟨.line, 33, 35⟩] := by
  decide

end Comment

end CfmlNav
