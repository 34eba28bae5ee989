import CfmlNav.Proofs.Comment.Reading
import CfmlNav.Proofs.Text.Boundary

/-!
# Blanking keeps the layout

Blanking puts a space for some characters and never touches a line break, whatever list of
comments it is given (`blanks_blankFrom`). Hence the blanked text has the layout of the text, and
lines, columns and characters correspond one to one, although a space may take fewer bytes than
the character it stands for.

Which characters are blanked is clear when no comment of the list reaches into a later one, as is
the case for the comments of a document: then it is the characters that some comment covers
(`blankFrom_eq_paint`). The comments of a document are in this order because each of them is a
lexeme and lexemes stand one behind the other (`inOrder_readFrom`).
-/

namespace CfmlNav

open Text

namespace Text

/-! ### Blanked texts -/

/-- A text after some of its characters that are no line breaks have been replaced by spaces. -/
def Blanks (text blanked : Text) : Prop :=
  List.Forall₂ (fun c d => d = c ∨ d = ' ' ∧ c ≠ '\n' ∧ c ≠ '\r') text blanked

/-- Blanking keeps the layout, as it neither makes nor removes a line feed. -/
theorem Blanks.sameLayout {text blanked : Text} (h : Blanks text blanked) :
    SameLayout text blanked := by
  refine List.Forall₂.imp ?_ h
  rintro c d (rfl | ⟨rfl, hfeed, -⟩)
  · exact Iff.rfl
  · exact iff_of_false hfeed (by decide)

/-- Each character of a blanked text is the one of the text, or a space for one that is no line
break. -/
theorem Blanks.getElem? {text blanked : Text} (h : Blanks text blanked) (k : Nat) :
    blanked[k]? = text[k]? ∨
      blanked[k]? = some ' ' ∧ ∃ c, text[k]? = some c ∧ c ≠ '\n' ∧ c ≠ '\r' := by
  induction h generalizing k with
  | nil => exact Or.inl rfl
  | @cons c d text blanked hcd _ ih =>
    cases k with
    | zero =>
      rcases hcd with rfl | ⟨rfl, hbreaks⟩
      · exact Or.inl rfl
      · exact Or.inr ⟨rfl, c, rfl, hbreaks⟩
    | succ k => simpa using ih k

/-- A character as it is blanked: a line break is left. -/
def blankChar (c : Char) : Char :=
  if c ≠ '\n' ∧ c ≠ '\r' then ' ' else c

theorem blankChar_cases (c : Char) :
    blankChar c = ' ' ∨ blankChar c = '\n' ∨ blankChar c = '\r' := by
  by_cases hfeed : c = '\n'
  · exact Or.inr (Or.inl (by rw [hfeed]; decide))
  · by_cases hreturn : c = '\r'
    · exact Or.inr (Or.inr (by rw [hreturn]; decide))
    · exact Or.inl (if_pos ⟨hfeed, hreturn⟩)

/-- The text with the characters blanked that start at a place which `inside` accepts, for a
text that stands at `offset`. -/
def paint (inside : Nat → Bool) : (offset : Nat) → Text → Text
  | _, [] => []
  | offset, c :: rest =>
    (if inside offset then blankChar c else c) :: paint inside (offset + c.utf8Size) rest

section Paint

variable {inside inside' : Nat → Bool}

theorem getElem?_paint (offset k : Nat) (text : Text) :
    (paint inside offset text)[k]? =
      text[k]?.map fun c => if inside (offset + byteSize (text.take k)) then blankChar c else c := by
  induction text generalizing offset k with
  | nil => rfl
  | cons c rest ih =>
    cases k with
    | zero => rfl
    | succ k =>
      rw [paint, List.getElem?_cons_succ, ih, Nat.add_assoc]
      rfl

theorem paint_append (offset : Nat) (front back : Text) :
    paint inside offset (front ++ back) =
      paint inside offset front ++ paint inside (offset + front.byteSize) back := by
  induction front generalizing offset with
  | nil => rfl
  | cons c front ih => simp [paint, ih, Nat.add_assoc]

/-- Painting looks no further than the text reaches. -/
theorem paint_congr {offset : Nat} {text : Text}
    (h : ∀ place, offset ≤ place → place < offset + text.byteSize → inside place = inside' place) :
    paint inside offset text = paint inside' offset text := by
  induction text generalizing offset with
  | nil => rfl
  | cons c rest ih =>
    have hpos := c.utf8Size_pos
    rw [byteSize_cons] at h
    have hhere : inside offset = inside' offset := h offset (Nat.le_refl _) (by omega)
    have hrest : paint inside (offset + c.utf8Size) rest =
        paint inside' (offset + c.utf8Size) rest :=
      ih fun place hlow hhigh => h place (by omega) (by omega)
    rw [paint, paint, hhere, hrest]

theorem paint_false (offset : Nat) (text : Text) : paint (fun _ => false) offset text = text := by
  induction text generalizing offset with
  | nil => rfl
  | cons c rest ih => simp [paint, ih]

@[simp] theorem length_paint (offset : Nat) (text : Text) :
    (paint inside offset text).length = text.length := by
  induction text generalizing offset with
  | nil => rfl
  | cons c rest ih => rw [paint, List.length_cons, List.length_cons, ih]

/-- Where a painted text falls into two parts, so does the text. -/
theorem exists_parts_of_paint {offset : Nat} {text front back : Text}
    (h : paint inside offset text = front ++ back) :
    ∃ front' back', text = front' ++ back' ∧ front'.length = front.length ∧
      paint inside offset front' = front ∧
      paint inside (offset + front'.byteSize) back' = back := by
  have hsplit : text.take front.length ++ text.drop front.length = text :=
    List.take_append_drop _ _
  have hlength : (text.take front.length).length = front.length := by
    have hle := congrArg List.length h
    rw [length_paint, List.length_append] at hle
    rw [List.length_take]
    omega
  rw [← hsplit, paint_append] at h
  obtain ⟨hfront, hback⟩ := List.append_inj h (by rw [length_paint, hlength])
  exact ⟨_, _, hsplit.symm, hlength, hfront, hback⟩

/-- Where a painted text shows neither a space nor a line break, nothing is painted. -/
theorem eq_of_paint_eq {offset : Nat} {text part : Text} (h : paint inside offset text = part)
    (hpart : ∀ c ∈ part, c ≠ ' ' ∧ c ≠ '\n' ∧ c ≠ '\r') :
    text = part ∧ ∀ (front : Text) (c : Char) (back : Text), text = front ++ c :: back →
      inside (offset + front.byteSize) = false := by
  induction text generalizing offset part with
  | nil => exact ⟨h, by simp⟩
  | cons c rest ih =>
    obtain rfl := h
    rw [paint, List.forall_mem_cons] at hpart
    obtain ⟨hc, hrest⟩ := hpart
    obtain ⟨hsame, hinside⟩ := ih rfl hrest
    have hhere : inside offset = false := by
      by_contra hpainted
      rw [Bool.not_eq_false] at hpainted
      simp only [hpainted, if_true, blankChar] at hc
      split at hc
      next => exact hc.1 rfl
      next hbreaks => exact hbreaks hc.2
    refine ⟨by rw [paint, ← hsame, hhere]; rfl, ?_⟩
    rintro (_ | ⟨d, front⟩) e back htext
    · exact hhere
    · obtain ⟨rfl, hback⟩ := List.cons.inj htext
      rw [byteSize_cons, ← Nat.add_assoc]
      exact hinside front e back hback

end Paint

end Text

namespace Comment

/-! ### Any list of comments -/

/-- The comments of a list that end behind an offset, from the first such comment on. -/
def openAt (comments : List Comment) (offset : Nat) : List Comment :=
  comments.dropWhile fun comment => decide (comment.range.stop ≤ offset)

/-- One step of blanking: the first comment that has not ended decides. -/
theorem blankFrom_cons (offset : Nat) (comments : List Comment) (c : Char) (rest : Text) :
    blankFrom offset comments (c :: rest) =
      (if (openAt comments offset).head?.any fun comment => decide (comment.range.start ≤ offset)
        then blankChar c else c) ::
        blankFrom (offset + c.utf8Size) (openAt comments offset) rest := by
  have hopen : comments.dropWhile (fun comment => decide (comment.range.stop ≤ offset)) =
      openAt comments offset := rfl
  rw [blankFrom]
  simp only [hopen]
  refine congrArg₂ List.cons ?_ rfl
  cases openAt comments offset with
  | nil => rfl
  | cons comment later => cases hstart : decide (comment.range.start ≤ offset) <;>
      simp [hstart, blankChar]

/-- Blanking leaves a blanked text, whatever the list of comments. -/
theorem blanks_blankFrom (offset : Nat) (comments : List Comment) (text : Text) :
    Blanks text (blankFrom offset comments text) := by
  induction text generalizing offset comments with
  | nil => exact .nil
  | cons c rest ih =>
    rw [blankFrom_cons]
    refine .cons ?_ (ih _ _)
    split
    next =>
      rw [blankChar]
      split
      next hbreaks => exact Or.inr ⟨rfl, hbreaks⟩
      next => exact Or.inl rfl
    next => exact Or.inl rfl

/-- Whether some comment of a list covers a byte. -/
def covered (comments : List Comment) (offset : Nat) : Bool :=
  comments.any fun comment =>
    decide (comment.range.start ≤ offset ∧ offset < comment.range.stop)

theorem covered_iff {comments : List Comment} {offset : Nat} :
    covered comments offset = true ↔
      ∃ comment ∈ comments, comment.range.start ≤ offset ∧ offset < comment.range.stop := by
  simp [covered]

/-- Comments one behind the other. -/
def InOrder (comments : List Comment) : Prop :=
  comments.Pairwise fun a b => a.range.stop ≤ b.range.start

/-- Comments that end before a byte do not matter from there on. -/
theorem covered_openAt (comments : List Comment) {offset place : Nat} (h : offset ≤ place) :
    covered (openAt comments offset) place = covered comments place := by
  induction comments with
  | nil => rfl
  | cons comment comments ih =>
    rw [openAt, List.dropWhile_cons]
    split
    next hended =>
      have hstop : comment.range.stop ≤ offset := of_decide_eq_true hended
      have hout : ¬ (comment.range.start ≤ place ∧ place < comment.range.stop) := by omega
      rw [← openAt, ih, covered, covered, List.any_cons, decide_eq_false hout, Bool.false_or]
    next => rfl

theorem InOrder.openAt {comments : List Comment} (h : InOrder comments) (offset : Nat) :
    InOrder (openAt comments offset) :=
  h.sublist (List.dropWhile_sublist _)

/-- Of comments in order, only the first that has not ended can cover a byte. -/
theorem covered_eq_head?_openAt {comments : List Comment} (h : InOrder comments) (offset : Nat) :
    covered comments offset =
      (openAt comments offset).head?.any fun comment => decide (comment.range.start ≤ offset) := by
  rw [← covered_openAt comments (Nat.le_refl offset)]
  have hordered := h.openAt offset
  cases heq : openAt comments offset with
  | nil => rfl
  | cons comment later =>
    have hopen : offset < comment.range.stop := by
      have hhead := List.head?_dropWhile_not
        (fun comment : Comment => decide (comment.range.stop ≤ offset)) comments
      rw [← openAt, heq] at hhead
      simpa using hhead
    have hlater : covered later offset = false := by
      rw [Bool.eq_false_iff, Ne, covered_iff]
      rintro ⟨other, hmem, hstart, -⟩
      have hbehind := (List.pairwise_cons.mp (heq ▸ hordered)).1 other hmem
      omega
    rw [covered, List.any_cons, ← covered, hlater, Bool.or_false]
    simp [hopen]

/-- **What is blanked.** With comments in order, blanking takes exactly the characters that some
comment covers. -/
theorem blankFrom_eq_paint (offset : Nat) {comments : List Comment} (h : InOrder comments)
    (text : Text) : blankFrom offset comments text = paint (covered comments) offset text := by
  induction text generalizing offset comments with
  | nil => rfl
  | cons c rest ih =>
    have hrest : paint (covered (openAt comments offset)) (offset + c.utf8Size) rest =
        paint (covered comments) (offset + c.utf8Size) rest :=
      paint_congr fun place hplace _ => covered_openAt comments (by omega)
    rw [blankFrom_cons, ih _ (h.openAt offset), hrest, paint, covered_eq_head?_openAt h]

/-! ### The comments of a document -/

/-- The comments among lexemes lie behind the start of the first lexeme. -/
theorem le_of_mem_ofLexemes {offset : Nat} {lexemes : List Lexeme} {comment : Comment}
    (h : comment ∈ ofLexemes offset lexemes) : offset ≤ comment.range.start := by
  induction lexemes generalizing offset with
  | nil => simp [ofLexemes] at h
  | cons lexeme lexemes ih =>
    rw [ofLexemes] at h
    split at h
    · rcases List.mem_cons.mp h with rfl | hmem
      · exact Nat.le_refl _
      · exact Nat.le_trans (Nat.le_add_right _ _) (ih hmem)
    · exact Nat.le_trans (Nat.le_add_right _ _) (ih h)

/-- The comments among lexemes stand one behind the other. -/
theorem inOrder_ofLexemes (offset : Nat) (lexemes : List Lexeme) :
    InOrder (ofLexemes offset lexemes) := by
  induction lexemes generalizing offset with
  | nil => exact List.Pairwise.nil
  | cons lexeme lexemes ih =>
    rw [ofLexemes]
    split
    · exact List.pairwise_cons.mpr ⟨fun comment hmem => le_of_mem_ofLexemes hmem, ih _⟩
    · exact ih _

/-- A comment among lexemes is a part of the text that they make up. -/
theorem exists_part_of_mem_ofLexemes {offset : Nat} {lexemes : List Lexeme} {comment : Comment}
    (h : comment ∈ ofLexemes offset lexemes) :
    ∃ lexeme ∈ lexemes, ∃ front back : Text,
      lexemes.flatMap Lexeme.text = front ++ (lexeme.text ++ back) ∧ comment.range =
        ⟨offset + front.byteSize, offset + front.byteSize + lexeme.text.byteSize⟩ := by
  induction lexemes generalizing offset with
  | nil => simp [ofLexemes] at h
  | cons first lexemes ih =>
    have hlater (h : comment ∈ ofLexemes (offset + first.text.byteSize) lexemes) :
        ∃ lexeme ∈ first :: lexemes, ∃ front back : Text,
          (first :: lexemes).flatMap Lexeme.text = front ++ (lexeme.text ++ back) ∧
            comment.range =
              ⟨offset + front.byteSize, offset + front.byteSize + lexeme.text.byteSize⟩ := by
      obtain ⟨lexeme, hlexeme, front, back, htext, hrange⟩ := ih h
      refine ⟨lexeme, List.mem_cons_of_mem _ hlexeme, first.text ++ front, back, ?_, ?_⟩
      · rw [List.flatMap_cons, htext, List.append_assoc]
      · rw [hrange, byteSize_append, Nat.add_assoc offset]
    rw [ofLexemes] at h
    split at h
    · rcases List.mem_cons.mp h with rfl | hmem
      · exact ⟨first, List.mem_cons_self, [], lexemes.flatMap Lexeme.text, rfl, rfl⟩
      · exact hlater hmem
    · exact hlater h

/-- A comment of a document is a part of it that is not empty. -/
theorem exists_part_of_mem_findAll {dialect : Dialect} {text : Text} {comment : Comment}
    (h : comment ∈ findAll dialect text) :
    ∃ front part back, text = front ++ (part ++ back) ∧ part ≠ [] ∧
      comment.range = ⟨front.byteSize, byteSize (front ++ part)⟩ := by
  obtain ⟨lexeme, hlexeme, front, back, htext, hrange⟩ := exists_part_of_mem_ofLexemes h
  rw [LexMode.flatMap_text_lexemes] at htext
  refine ⟨front, lexeme.text, back, htext, LexMode.text_ne_nil_of_mem_lexemes hlexeme, ?_⟩
  rw [hrange, byteSize_append, Nat.zero_add]

theorem inOrder_readFrom (mode : LexMode) (offset : Nat) (text : Text) :
    InOrder (readFrom mode offset text) :=
  inOrder_ofLexemes offset _

/-- The document with its comments blanked out, character by character. -/
theorem strip_eq_paint (dialect : Dialect) (text : Text) :
    strip dialect text = paint (covered (findAll dialect text)) 0 text :=
  blankFrom_eq_paint 0 (inOrder_readFrom dialect.startMode 0 text) text

/-- A document and the same with its comments blanked out have the same layout. -/
theorem sameLayout_strip (dialect : Dialect) (text : Text) :
    SameLayout text (strip dialect text) :=
  (blanks_blankFrom 0 _ text).sameLayout

/-- **Blanking keeps every position.** Whatever the list of comments, the blanked text has the
same number of characters, each unchanged or a space for one that is no line break; it has the
same lines, each of its characters has the same position, and each position is that of the same
character. The comments of the text itself blank exactly the characters that one of them covers. -/
theorem blank_keeps_positions (comments : List Comment) (text : Text) :
    (blank comments text).length = text.length ∧
    (∀ k : Nat, (blank comments text)[k]? = text[k]? ∨
      (blank comments text)[k]? = some ' ' ∧ ∃ c, text[k]? = some c ∧ c ≠ '\n' ∧ c ≠ '\r') ∧
    (blank comments text).lineCount = text.lineCount ∧
    (∀ k, (blank comments text).positionAt (byteSize ((blank comments text).take k)) =
      text.positionAt (byteSize (text.take k))) ∧
    (∀ position, ∃ k, k ≤ text.length ∧ text.offsetAt position = byteSize (text.take k) ∧
      (blank comments text).offsetAt position = byteSize ((blank comments text).take k)) ∧
    ∀ (dialect : Dialect) (k : Nat), (blank (findAll dialect text) text)[k]? =
      text[k]?.map fun c =>
        if (∃ comment ∈ findAll dialect text,
            comment.range.start ≤ byteSize (text.take k) ∧
              byteSize (text.take k) < comment.range.stop) ∧ c ≠ '\n' ∧ c ≠ '\r'
        then ' ' else c := by
  have hblanks : Blanks text (blank comments text) := blanks_blankFrom 0 comments text
  have hlayout := hblanks.sameLayout
  refine ⟨(List.Forall₂.length_eq hblanks).symm, hblanks.getElem?, hlayout.lineCount_eq,
    hlayout.positionAt_take_eq, hlayout.exists_offsetAt_eq, ?_⟩
  intro dialect k
  have hstrip : blank (findAll dialect text) text =
      paint (covered (findAll dialect text)) 0 text := strip_eq_paint dialect text
  rw [hstrip, getElem?_paint, Nat.zero_add]
  refine congrArg (Option.map · _) (funext fun c => ?_)
  simp only [← covered_iff, blankChar]
  cases covered (findAll dialect text) (byteSize (text.take k)) <;> simp

end Comment

end CfmlNav
