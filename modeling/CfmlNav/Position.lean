/-!
# Positions, spans and locations

A position is a line and a column, both counted from zero, the column in characters. Positions
are ordered by line first and column second. A span is given by its two ends and contains
both.
-/

namespace CfmlNav

/-- A place in a document: a line and a column in characters, both from zero. -/
structure Position where
  line : Nat
  column : Nat
  deriving DecidableEq, Repr

namespace Position

/-- The order of positions: by line, then by column. -/
instance : LE Position :=
  ⟨fun p q => p.line < q.line ∨ p.line = q.line ∧ p.column ≤ q.column⟩

instance : LT Position :=
  ⟨fun p q => p.line < q.line ∨ p.line = q.line ∧ p.column < q.column⟩

theorem le_def {p q : Position} :
    p ≤ q ↔ p.line < q.line ∨ p.line = q.line ∧ p.column ≤ q.column := Iff.rfl

theorem lt_def {p q : Position} :
    p < q ↔ p.line < q.line ∨ p.line = q.line ∧ p.column < q.column := Iff.rfl

instance (p q : Position) : Decidable (p ≤ q) := decidable_of_iff _ le_def.symm

instance (p q : Position) : Decidable (p < q) := decidable_of_iff _ lt_def.symm

/-- The start of a document. -/
def origin : Position := ⟨0, 0⟩

/-- The position behind a character that stands at `p`: a line feed starts the next line. -/
def after (p : Position) (c : Char) : Position :=
  if c = '\n' then ⟨p.line + 1, 0⟩ else ⟨p.line, p.column + 1⟩

variable {α : Type}

/-- Puts `x` before the first entry of a list that has no earlier place. -/
def insertBy (place : α → Position) (x : α) : List α → List α
  | [] => [x]
  | y :: rest => if place x ≤ place y then x :: y :: rest else y :: insertBy place x rest

/-- A list in the order of the places of its entries; entries of one place stay in the order
they have. -/
def sortBy (place : α → Position) : List α → List α
  | [] => []
  | x :: rest => insertBy place x (sortBy place rest)

end Position

/-- A part of a document between two positions. -/
structure Span where
  start : Position
  stop : Position
  deriving DecidableEq, Repr

namespace Span

/-- The span of no width at a position. -/
def empty (position : Position) : Span := ⟨position, position⟩

/-- Whether a position lies in the span, both ends included. -/
def contains (span : Span) (position : Position) : Bool :=
  decide (span.start ≤ position ∧ position ≤ span.stop)

/-- Whether the two ends coincide. -/
def isEmpty (span : Span) : Bool :=
  span.start == span.stop

end Span

/-- The number of a file in the order in which files became known. -/
structure FileId where
  index : Nat
  deriving DecidableEq, Repr

namespace FileId

/-- A file number as it is shown to people. -/
def label (file : FileId) : String :=
  "file#" ++ toString file.index

end FileId

/-- A span of one file. -/
structure Location where
  file : FileId
  range : Span
  deriving DecidableEq, Repr

end CfmlNav
