import CfmlNav.Proofs.Comment.Blanking
import CfmlNav.Proofs.Comment.MarkupDocument
import Mathlib.Data.List.TakeWhile

/-!
# Where comments end

A comment ends in one of three ways. A line comment ends before the end of its line. A block or
markup comment ends with the first delimiter that closes it, or, if none does, with the document.
`CommentKind.Closes` says when a text is a closed comment, by its delimiters alone: markup comments
nest, so as many have to be closed as have been opened. `Delimited` describes a comment together
with the text behind it in these terms, and every comment that the lexer finds is of this form
(`exists_delimited_of_mem_findAll`). What a comment means for a cursor at its ends or for the words
next to it can be read off from this description.
-/

namespace CfmlNav

open Text LexMode

namespace Text

/-! ### Nesting -/

/-- The number of markup comments that are open behind a text if `depth` are open before it. -/
def openTags : (depth : Nat) → Text → Nat
  | depth, '<' :: '!' :: '-' :: '-' :: '-' :: rest => openTags (depth + 1) rest
  | depth, '-' :: '-' :: '-' :: '>' :: rest => openTags (depth - 1) rest
  | depth, _ :: rest => openTags depth rest
  | depth, [] => depth

section Nesting

variable {depth : Nat} {c : Char} {text taken rest : Text}

@[simp] theorem openTags_nil (depth : Nat) : openTags depth [] = depth := rfl

@[simp] theorem openTags_open (depth : Nat) (rest : Text) :
    openTags depth (tagCommentOpen ++ rest) = openTags (depth + 1) rest := rfl

@[simp] theorem openTags_close (depth : Nat) (rest : Text) :
    openTags depth (tagCommentClose ++ rest) = openTags (depth - 1) rest := rfl

theorem length_open (rest : Text) : (tagCommentOpen ++ rest).length = 5 + rest.length :=
  List.length_append

theorem length_close (rest : Text) : (tagCommentClose ++ rest).length = 4 + rest.length :=
  List.length_append

/-- A character that starts no delimiter leaves the number of open comments. -/
theorem openTags_char (hopen : ¬ tagCommentOpen <+: c :: rest)
    (hclose : ¬ tagCommentClose <+: c :: rest) :
    openTags depth (c :: rest) = openTags depth rest := by
  rw [openTags]
  · rintro tail rfl rfl
    exact hopen ⟨tail, rfl⟩
  · rintro tail rfl rfl
    exact hclose ⟨tail, rfl⟩

theorem tagCommentLength_char (hopen : ¬ tagCommentOpen <+: c :: rest)
    (hclose : ¬ tagCommentClose <+: c :: rest) :
    tagCommentLength 0 depth (c :: rest) = 1 + tagCommentLength 0 depth rest := by
  rw [← List.isPrefixOf_iff_prefix] at hopen hclose
  rw [tagCommentLength, if_neg hopen, if_neg hclose]

/-- A text is read delimiter by delimiter, and character by character between them. -/
@[elab_as_elim]
theorem tagInduction {motive : Nat → Text → Prop} (nil : ∀ depth, motive depth [])
    (opening : ∀ depth rest, motive (depth + 1) rest → motive depth (tagCommentOpen ++ rest))
    (closing : ∀ depth rest, motive (depth - 1) rest → motive depth (tagCommentClose ++ rest))
    (char : ∀ depth c rest, ¬ tagCommentOpen <+: c :: rest → ¬ tagCommentClose <+: c :: rest →
      motive depth rest → motive depth (c :: rest)) (depth : Nat) (text : Text) :
    motive depth text := by
  fun_induction openTags depth text with
  | case1 depth rest ih => exact opening depth rest ih
  | case2 depth rest ih => exact closing depth rest ih
  | case3 depth c rest hopen hclose ih =>
    refine char depth c rest ?_ ?_ ih
    · rintro ⟨tail, htail⟩
      obtain ⟨rfl, rfl⟩ := List.cons.inj htail
      exact hopen tail rfl rfl
    · rintro ⟨tail, htail⟩
      obtain ⟨rfl, rfl⟩ := List.cons.inj htail
      exact hclose tail rfl rfl
  | case4 depth => exact nil depth

/-- Without a closing bracket nothing is closed. -/
theorem openTags_ne_zero (hdepth : 0 < depth) (h : '>' ∉ text) : openTags depth text ≠ 0 := by
  induction depth, text using tagInduction with
  | nil depth => exact Nat.ne_of_gt hdepth
  | opening depth rest ih =>
    rw [openTags_open]
    exact ih (Nat.succ_pos depth) fun hmem => h (List.mem_append_right _ hmem)
  | closing depth rest ih => exact absurd (List.mem_append_left rest (by decide)) h
  | char depth c rest hopen hclose ih =>
    rw [openTags_char hopen hclose]
    exact ih hdepth fun hmem => h (List.mem_cons_of_mem c hmem)

/-- A start of a text that begins with a delimiter and closes all comments ends behind the
delimiter, as a part of the delimiter without its last character closes nothing. -/
theorem exists_tail_of_delimiter (delimiter : Text) {last : Char} (hbracket : '>' ∉ delimiter)
    (hdepth : 0 < depth) (htaken : taken <+: (delimiter ++ [last]) ++ rest)
    (hclosed : openTags depth taken = 0) :
    ∃ tail, tail <+: rest ∧ taken = (delimiter ++ [last]) ++ tail := by
  rcases List.prefix_or_prefix_of_prefix htaken (List.prefix_append _ rest) with hcut | ⟨tail, rfl⟩
  · rcases List.prefix_concat_iff.mp hcut with rfl | hcut
    · exact ⟨[], List.nil_prefix, by simp⟩
    · exact absurd hclosed (openTags_ne_zero hdepth fun hmem => hbracket (hcut.subset hmem))
  · exact ⟨tail, (List.prefix_append_right_inj _).mp htaken, rfl⟩

/-- The lexer takes no more than any start of the text that closes all comments. -/
theorem tagCommentLength_le (hdepth : 0 < depth) (htaken : taken <+: text)
    (hclosed : openTags depth taken = 0) : tagCommentLength 0 depth text ≤ taken.length := by
  induction depth, text using tagInduction generalizing taken with
  | nil depth => simp [tagCommentLength]
  | opening depth rest ih =>
    obtain ⟨tail, htail, rfl⟩ := exists_tail_of_delimiter "<!--".toList (by decide) hdepth
      htaken hclosed
    have hrest := ih (Nat.succ_pos depth) htail hclosed
    have hlength := length_open tail
    rw [tagCommentLength_open]
    exact hlength ▸ Nat.add_le_add_left hrest 5
  | closing depth rest ih =>
    obtain ⟨tail, htail, rfl⟩ := exists_tail_of_delimiter "---".toList (by decide) hdepth
      htaken hclosed
    have hlength := length_close tail
    rw [tagCommentLength_close]
    split
    next => exact hlength ▸ Nat.le_add_right 4 _
    next hdeep =>
      have hrest := ih (by omega) htail hclosed
      exact hlength ▸ Nat.add_le_add_left hrest 4
  | char depth c rest hopen hclose ih =>
    rcases taken with _ | ⟨d, taken⟩
    · exact absurd hclosed (Nat.ne_of_gt hdepth)
    · obtain ⟨rfl, htail⟩ := List.cons_prefix_cons.mp htaken
      rw [openTags_char (fun h => hopen (h.trans htaken)) fun h => hclose (h.trans htaken)]
        at hclosed
      have hrest := ih hdepth htail hclosed
      rw [tagCommentLength_char hopen hclose, List.length_cons, Nat.add_comm 1]
      exact Nat.succ_le_succ hrest

/-- The lexer takes a text up to a delimiter with which all comments are closed, or all of it. -/
theorem tagCommentLength_cases (hdepth : 0 < depth) (text : Text) :
    (∃ body behind, text = (body ++ tagCommentClose) ++ behind ∧
        tagCommentLength 0 depth text = (body ++ tagCommentClose).length ∧
        openTags depth (body ++ tagCommentClose) = 0) ∨
      tagCommentLength 0 depth text = text.length := by
  induction depth, text using tagInduction with
  | nil depth => exact Or.inr rfl
  | opening depth rest ih =>
    rw [tagCommentLength_open]
    rcases ih (Nat.succ_pos depth) with ⟨body, behind, hrest, hlength, hclosed⟩ | hlength
    · refine Or.inl ⟨tagCommentOpen ++ body, behind, ?_, ?_, ?_⟩
      · simp only [hrest, List.append_assoc]
      · rw [hlength, List.append_assoc, length_open]
      · rw [List.append_assoc, openTags_open, hclosed]
    · exact Or.inr (by rw [hlength, length_open])
  | closing depth rest ih =>
    rw [tagCommentLength_close]
    split
    next hdeep =>
      exact Or.inl ⟨[], rest, rfl, rfl, Nat.sub_eq_zero_of_le hdeep⟩
    next hdeep =>
      rcases ih (by omega) with ⟨body, behind, hrest, hlength, hclosed⟩ | hlength
      · refine Or.inl ⟨tagCommentClose ++ body, behind, ?_, ?_, ?_⟩
        · simp only [hrest, List.append_assoc]
        · rw [hlength, List.append_assoc, length_close]
        · rw [List.append_assoc, openTags_close, hclosed]
      · exact Or.inr (by rw [hlength, length_close])
  | char depth c rest hopen hclose ih =>
    rw [tagCommentLength_char hopen hclose, Nat.add_comm]
    rcases ih hdepth with ⟨body, behind, hrest, hlength, hclosed⟩ | hlength
    · have htext : c :: rest = (c :: body ++ tagCommentClose) ++ behind := by
        rw [hrest]
        rfl
      have hstart : c :: (body ++ tagCommentClose) <+: c :: rest := ⟨behind, htext.symm⟩
      refine Or.inl ⟨c :: body, behind, htext, by rw [hlength]; rfl, ?_⟩
      rw [List.cons_append, openTags_char (fun h => hopen (h.trans hstart))
        fun h => hclose (h.trans hstart), hclosed]
    · exact Or.inr (by rw [hlength, List.length_cons])

end Nesting

/-! ### Block comments and line comments -/

/-- The lexer takes a text up to the first star before a slash, or all of it. -/
theorem blockCommentLength_cases (text : Text) :
    (∃ body behind, text = (body ++ ['*', '/']) ++ behind ∧
        blockCommentLength text = (body ++ ['*', '/']).length) ∨
      blockCommentLength text = text.length := by
  fun_induction blockCommentLength text with
  | case1 => exact Or.inr rfl
  | case2 => exact Or.inr rfl
  | case3 c d rest hclose =>
    obtain ⟨rfl, rfl⟩ := hclose
    exact Or.inl ⟨[], rest, rfl, rfl⟩
  | case4 c d rest hclose ih =>
    rw [Nat.add_comm]
    rcases ih with ⟨body, behind, hrest, hlength⟩ | hlength
    · exact Or.inl ⟨c :: body, behind, by rw [hrest]; rfl, by rw [hlength]; rfl⟩
    · exact Or.inr (by rw [hlength]; rfl)

/-- The lexer takes no more than any start of the text that ends with star and slash. -/
theorem blockCommentLength_le {body text : Text} (h : body ++ ['*', '/'] <+: text) :
    blockCommentLength text ≤ (body ++ ['*', '/']).length := by
  fun_induction blockCommentLength text generalizing body with
  | case1 => exact Nat.zero_le _
  | case2 => simp
  | case3 => simp
  | case4 c d rest hclose ih =>
    rcases body with _ | ⟨e, body⟩
    · obtain ⟨rfl, hd⟩ := List.cons_prefix_cons.mp h
      obtain ⟨rfl, -⟩ := List.cons_prefix_cons.mp hd
      exact absurd ⟨rfl, rfl⟩ hclose
    · have hrest := ih (List.cons_prefix_cons.mp h).2
      rw [List.cons_append, List.length_cons, Nat.add_comm 1]
      exact Nat.succ_le_succ hrest

/-- The characters before the first line feed, and what follows them. -/
theorem exists_line (text : Text) :
    ∃ line behind, text = line ++ behind ∧ text.takeWhile (· != '\n') = line ∧ '\n' ∉ line ∧
      ∀ c ∈ behind.head?, c = '\n' := by
  refine ⟨_, _, List.takeWhile_append_dropWhile.symm, rfl, ?_, ?_⟩
  · intro hmem
    simpa using List.mem_takeWhile_imp hmem
  · intro c hc
    have hfeed := List.head?_dropWhile_not (· != '\n') text
    rw [Option.mem_def.mp hc] at hfeed
    simpa using hfeed

/-- A line comment stays in its line and reaches to the end of it. -/
theorem exists_body_of_lineComment (text : Text) :
    ∃ body behind, text = body ++ behind ∧
      lineCommentLength ('/' :: '/' :: text) = ('/' :: '/' :: body).length ∧
      '\n' ∉ body ∧ ∀ c ∈ behind.head?, c = '\n' ∨ c = '\r' := by
  obtain ⟨line, behind, rfl, htake, hline, hbehind⟩ := exists_line text
  have hwhole : ('/' :: '/' :: (line ++ behind)).takeWhile (· != '\n') = '/' :: '/' :: line := by
    have hslash : ('/' != '\n') = true := rfl
    simp only [List.takeWhile_cons, hslash, if_true, htake]
  rw [lineCommentLength, hwhole]
  split
  next hreturn =>
    -- the carriage return at the end is none of the slashes
    obtain ⟨body, rfl⟩ : ∃ body, line = body ++ ['\r'] := by
      rcases List.eq_nil_or_concat' line with rfl | ⟨body, c, rfl⟩
      · simp at hreturn
      · obtain rfl : c = '\r' := by simpa [List.getLast?_cons] using hreturn
        exact ⟨body, rfl⟩
    refine ⟨body, '\r' :: behind, by simp, by simp, fun hmem => hline (by simp [hmem]), ?_⟩
    intro c hc
    exact Or.inr (Option.some_inj.mp hc).symm
  next => exact ⟨line, behind, rfl, rfl, hline, fun c hc => Or.inl (hbehind c hc)⟩

end Text

/-! ### The form of a comment -/

namespace CommentKind

/-- The delimiter that a comment starts with. -/
def opening : CommentKind → Text
  | line => "//".toList
  | block => "/*".toList
  | tag => tagCommentOpen

/-- Whether a text is a comment that ends with the delimiter which closes it. A line comment has no
such delimiter, and a markup comment is closed together with all comments that it contains. -/
def Closes : CommentKind → Text → Prop
  | line, _ => False
  | block, part => ∃ body, part = "/*".toList ++ (body ++ "*/".toList)
  | tag, part =>
    (∃ body, part = tagCommentOpen ++ (body ++ tagCommentClose)) ∧ openTags 0 part = 0

end CommentKind

/-- A comment and the text behind it, by the way in which the comment ends. -/
inductive Delimited : (kind : CommentKind) → (part behind : Text) → Prop
  /-- A line comment ends with the characters of its line. -/
  | line {body behind : Text} (hbody : '\n' ∉ body)
      (hbehind : ∀ c ∈ behind.head?, c = '\n' ∨ c = '\r') :
      Delimited .line ("//".toList ++ body) behind
  /-- A comment that is closed ends where that happens first. -/
  | closed {kind : CommentKind} {part behind : Text} (hclosed : kind.Closes part)
      (hfirst : ∀ taken, taken <+: part ++ behind → kind.Closes taken → part <+: taken) :
      Delimited kind part behind
  /-- A comment that is never closed takes the rest of the document. -/
  | unclosed {kind : CommentKind} {part : Text} (hkind : kind ≠ .line)
      (hopening : kind.opening <+: part) (hnever : ∀ taken, taken <+: part → ¬ kind.Closes taken) :
      Delimited kind part []

namespace Delimited

variable {kind : CommentKind} {part behind text : Text} {n : Nat}

/-- A comment is delimited if it is as long as the first start of the text which is a closed
comment, or as the text if there is none. -/
theorem of_length (hkind : kind ≠ .line) (hopening : kind.opening <+: text)
    (hlength : kind.Closes (text.take n) ∨ n = text.length)
    (hleast : ∀ taken, taken <+: text → kind.Closes taken → n ≤ taken.length) :
    Delimited kind (text.take n) (text.drop n) := by
  by_cases hclosed : kind.Closes (text.take n)
  · refine closed hclosed fun taken htaken htakenClosed => ?_
    rw [List.take_append_drop] at htaken
    refine List.prefix_of_prefix_length_le (List.take_prefix n text) htaken ?_
    exact (List.length_take_le n text).trans (hleast taken htaken htakenClosed)
  · obtain rfl := hlength.resolve_left hclosed
    rw [List.take_length] at hclosed
    rw [List.take_length, List.drop_length]
    refine unclosed hkind hopening fun taken htaken htakenClosed => ?_
    have hwhole := htaken.eq_of_length_le (hleast taken htaken htakenClosed)
    exact hclosed (hwhole ▸ htakenClosed)

theorem opening_prefix (h : Delimited kind part behind) : kind.opening <+: part := by
  cases h with
  | line hbody hbehind => exact List.prefix_append _ _
  | closed hclosed hfirst =>
    cases kind with
    | line => exact hclosed.elim
    | block =>
      obtain ⟨body, rfl⟩ := hclosed
      exact List.prefix_append _ _
    | tag =>
      obtain ⟨⟨body, rfl⟩, -⟩ := hclosed
      exact List.prefix_append _ _
  | unclosed hkind hopening hnever => exact hopening

end Delimited

/-! ### What the lexer finds -/

namespace LexMode

variable {mode : LexMode} {c : Char} {rest : Text} {kind : CommentKind}

theorem delimited_lineComment (text : Text) :
    let n := lineCommentLength ('/' :: '/' :: text)
    Delimited .line (('/' :: '/' :: text).take n) (('/' :: '/' :: text).drop n) := by
  obtain ⟨body, behind, rfl, hlength, hbody, hbehind⟩ := exists_body_of_lineComment text
  have htext : '/' :: '/' :: (body ++ behind) = '/' :: '/' :: body ++ behind := rfl
  simp only [hlength]
  rw [htext, List.take_left, List.drop_left]
  exact .line hbody hbehind

theorem delimited_blockComment (text : Text) :
    let n := 2 + blockCommentLength text
    Delimited .block (('/' :: '*' :: text).take n) (('/' :: '*' :: text).drop n) := by
  refine .of_length (by decide) (List.prefix_append "/*".toList text) ?_ ?_
  · rcases blockCommentLength_cases text with ⟨body, behind, rfl, hlength⟩ | hlength
    · refine Or.inl ⟨body, ?_⟩
      rw [hlength, Nat.add_comm, List.take_succ_cons, List.take_succ_cons, List.take_left]
      rfl
    · exact Or.inr (by rw [hlength, Nat.add_comm]; rfl)
  · rintro taken htaken ⟨body, rfl⟩
    have hbody : body ++ ['*', '/'] <+: text :=
      (List.prefix_append_right_inj "/*".toList).mp htaken
    have hlength : ("/*".toList ++ (body ++ ['*', '/'])).length =
        2 + (body ++ ['*', '/']).length := List.length_append
    exact hlength ▸ Nat.add_le_add_left (blockCommentLength_le hbody) 2

theorem delimited_tagComment (text : Text) :
    let n := tagCommentLength 0 0 (tagCommentOpen ++ text)
    Delimited .tag ((tagCommentOpen ++ text).take n) ((tagCommentOpen ++ text).drop n) := by
  refine .of_length (by decide) (List.prefix_append tagCommentOpen text) ?_ ?_
  · rw [tagCommentLength_open]
    rcases tagCommentLength_cases (Nat.succ_pos 0) text with
      ⟨body, behind, rfl, hlength, hclosed⟩ | hlength
    · have htext : tagCommentOpen ++ ((body ++ tagCommentClose) ++ behind) =
          (tagCommentOpen ++ (body ++ tagCommentClose)) ++ behind := by simp
      refine Or.inl ?_
      rw [hlength, ← length_open, htext, List.take_left]
      exact ⟨⟨body, rfl⟩, hclosed⟩
    · exact Or.inr (by rw [hlength, length_open])
  · rintro taken htaken ⟨⟨body, rfl⟩, hclosed⟩
    have hbody : body ++ tagCommentClose <+: text :=
      (List.prefix_append_right_inj tagCommentOpen).mp htaken
    rw [tagCommentLength_open, length_open]
    exact Nat.add_le_add_left (tagCommentLength_le (Nat.succ_pos 0) hbody hclosed) 5

theorem delimited_of_scriptStep (h : (mode.scriptStep c rest).comment = some kind) :
    Delimited kind ((c :: rest).take (mode.scriptStep c rest).length)
      ((c :: rest).drop (mode.scriptStep c rest).length) := by
  unfold scriptStep at h ⊢
  split at h
  · simp at h
  next hquote =>
    rw [if_neg hquote]
    split at h
    next hline =>
      obtain rfl : CommentKind.line = kind := Option.some_inj.mp h
      obtain ⟨text, htext⟩ := List.isPrefixOf_iff_prefix.mp hline
      rw [if_pos hline, ← htext]
      exact delimited_lineComment text
    next hline =>
      rw [if_neg hline]
      split at h
      next hblock =>
        obtain rfl : CommentKind.block = kind := Option.some_inj.mp h
        obtain ⟨text, htext⟩ := List.isPrefixOf_iff_prefix.mp hblock
        obtain ⟨rfl, rfl⟩ := List.cons.inj htext
        rw [if_pos hblock]
        exact delimited_blockComment text
      next => simp at h

/-- A step that takes a comment takes it whole. -/
theorem delimited_of_step (h : (mode.step c rest).comment = some kind) :
    Delimited kind ((c :: rest).take (mode.step c rest).length)
      ((c :: rest).drop (mode.step c rest).length) := by
  cases mode with
  | script => exact delimited_of_scriptStep h
  | markup =>
    simp only [step, markupStep] at h ⊢
    split at h
    next hopen =>
      obtain rfl : CommentKind.tag = kind := Option.some_inj.mp h
      obtain ⟨text, htext⟩ := List.isPrefixOf_iff_prefix.mp hopen
      rw [if_pos hopen, ← htext]
      exact delimited_tagComment text
    next => split at h <;> simp at h
  | block =>
    simp only [step] at h ⊢
    split at h
    · simp at h
    next hclose =>
      rw [if_neg hclose]
      exact delimited_of_scriptStep h

end LexMode

namespace Comment

/-- The comments of a text are delimited, each with what the text has behind it. -/
theorem exists_delimited_of_mem_readFrom {mode : LexMode} {offset : Nat} {text : Text}
    {comment : Comment} (h : comment ∈ readFrom mode offset text) :
    ∃ front part behind, text = front ++ (part ++ behind) ∧ comment.range =
      ⟨offset + front.byteSize, offset + byteSize (front ++ part)⟩ ∧
        Delimited comment.kind part behind := by
  induction hlength : text.length using Nat.strongRecOn generalizing mode offset text with
  | ind n ih =>
    rcases text with _ | ⟨c, rest⟩
    · simp at h
    have hpos := step_length_pos mode c rest
    have hsplit := List.take_append_drop (mode.step c rest).length (c :: rest)
    have hshorter : ((c :: rest).drop (mode.step c rest).length).length < n := by
      rw [← hlength, List.length_drop, List.length_cons]
      omega
    have hlater (h : comment ∈ readFrom (mode.step c rest).mode
        (offset + byteSize ((c :: rest).take (mode.step c rest).length))
        ((c :: rest).drop (mode.step c rest).length)) :
        ∃ front part behind : Text, c :: rest = front ++ (part ++ behind) ∧ comment.range =
          ⟨offset + front.byteSize, offset + byteSize (front ++ part)⟩ ∧
            Delimited comment.kind part behind := by
      obtain ⟨front, part, behind, htext, hrange, hdelimited⟩ := ih _ hshorter h rfl
      refine ⟨(c :: rest).take (mode.step c rest).length ++ front, part, behind, ?_, ?_, hdelimited⟩
      · rw [List.append_assoc, ← htext, hsplit]
      · simp only [hrange, byteSize_append, Nat.add_assoc]
    rcases hcomment : (mode.step c rest).comment with _ | kind
    · rw [readFrom_of_step_none hcomment] at h
      exact hlater h
    · rw [readFrom_of_step_some hcomment] at h
      rcases List.mem_cons.mp h with rfl | hmem
      · exact ⟨[], _, _, hsplit.symm, rfl, delimited_of_step hcomment⟩
      · exact hlater hmem

/-- **Comments are delimited.** Every comment that is found in a document is a part of it that
starts with its delimiter and ends as comments of its kind do. -/
theorem exists_delimited_of_mem_findAll {dialect : Dialect} {text : Text} {comment : Comment}
    (h : comment ∈ findAll dialect text) :
    ∃ front part behind, text = front ++ (part ++ behind) ∧
      comment.range = ⟨front.byteSize, byteSize (front ++ part)⟩ ∧
        Delimited comment.kind part behind := by
  obtain ⟨front, part, behind, htext, hrange, hdelimited⟩ := exists_delimited_of_mem_readFrom h
  rw [Nat.zero_add, Nat.zero_add] at hrange
  exact ⟨front, part, behind, htext, hrange, hdelimited⟩

end Comment

end CfmlNav
