import CfmlNav.Proofs.Checked.Comment
import CfmlNav.Proofs.Context.Word

/-!
# Cursors with every access checked

The context of a position is built here with checked tables and slices: the offset of the position
in the document and in the blanked document, the positions of the ends of the word, and the word
itself. The text before the word and the text behind it are cut out with checks as well. For a
document of less than 2³² bytes all of it is what it is without checks, whatever the position
(`buildChecked_eq`, `beforeChecked_eq`, `behindChecked_eq`).
-/

namespace CfmlNav.Context

open Text

/-- The context of a position in a document, with every access checked. -/
def buildChecked (file : FileId) (dialect : Dialect) (component : Option Component) (raw : Text)
    (position : Position) : Option Context := do
  let comments ← Comment.findAllChecked dialect raw
  let rawOffset ← offsetAtChecked (← raw.lineStartsChecked) raw position
  let text := Comment.blank comments raw
  let starts ← text.lineStartsChecked
  let offset ← offsetAtChecked starts text position
  let found ← text.wordRangeAtChecked offset
  let wordRange ← match found with
    | some range => spanAtChecked starts text range
    | none => some (.empty position)
  let wordBytes := found.getD ⟨offset, offset⟩
  let _ ← text.slice? wordBytes
  return { file, text, position, dialect, component, wordBytes, wordRange
           inComment := comments.any (·.contains rawOffset) }

/-- The text before the word, if it can be cut out. -/
def beforeChecked (context : Context) : Option Text :=
  context.text.slice? ⟨0, context.wordBytes.start⟩

/-- The text behind the word, if it can be cut out. -/
def behindChecked (context : Context) : Option Text :=
  context.text.slice? ⟨context.wordBytes.stop, context.text.byteSize⟩

variable {file : FileId} {dialect : Dialect} {component : Option Component} {raw : Text}
  {position : Position}

/-- The bytes of the word are a part of the blanked document. -/
theorem wordBytes_isPartOf (file : FileId) (dialect : Dialect) (component : Option Component)
    (raw : Text) (position : Position) :
    (build file dialect component raw position).wordBytes.IsPartOf (Comment.strip dialect raw) := by
  obtain ⟨front, back, htext, hoffset⟩ :=
    (Comment.strip dialect raw).exists_boundary_offsetAt position
  obtain ⟨-, hcut, -, hbytes⟩ := exists_cut_build file component htext hoffset
  have hwhole : Comment.strip dialect raw = _ := hcut.text_eq
  rw [hbytes, hwhole, ← byteSize_append]
  exact ⟨_, _, _, List.append_assoc _ _ _, rfl⟩

theorem buildChecked_eq (h : raw.byteSize < UInt32.size) :
    buildChecked file dialect component raw position =
      some (build file dialect component raw position) := by
  let text := Comment.strip dialect raw
  have htext : text.byteSize < UInt32.size := Comment.byteSize_strip_lt h dialect
  have hblank : Comment.blank (Comment.findAll dialect raw) raw = text := rfl
  have hword := wordBytes_isPartOf file dialect component raw position
  rw [build] at hword ⊢
  rw [buildChecked, Comment.findAllChecked_eq, lineStartsChecked_eq h]
  simp only [Option.bind_eq_bind, Option.bind_some, offsetAtChecked_eq h, hblank,
    lineStartsChecked_eq htext, offsetAtChecked_eq htext,
    wordRangeAtChecked_eq (text.isBoundary_offsetAt position)] at hword ⊢
  rw [hword.slice?_eq]
  cases hfound : text.wordRangeAt (text.offsetAt position) with
  | none => rfl
  | some range =>
    rw [hfound] at hword
    rw [Option.getD_some] at hword
    simp only [spanAtChecked_eq htext hword]
    rfl

theorem beforeChecked_eq {context : Context} (hword : context.wordBytes.IsPartOf context.text) :
    context.beforeChecked = some context.before :=
  ((isBoundary_zero _).isPartOf hword.isBoundary.1 (Nat.zero_le _)).slice?_eq

theorem behindChecked_eq {context : Context} (hword : context.wordBytes.IsPartOf context.text) :
    context.behindChecked = some context.behind :=
  (hword.isBoundary.2.isPartOf (isBoundary_byteSize _) hword.isBoundary.2.le_byteSize).slice?_eq

end CfmlNav.Context
