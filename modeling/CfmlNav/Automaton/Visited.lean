import CfmlNav.Text.Basic

/-!
# Visited states

A search takes note of the states that it enters, and of the places of the text where it enters
them. There can be many of both, so each takes one bit.
-/

namespace CfmlNav

/-- The states that were entered, for every byte offset of a text: a row of bits, one for each
state, which is empty as long as nothing was entered there. -/
structure Visited where
  rows : Array ByteArray

namespace Visited

/-- Nothing was entered in a text yet. -/
def empty (text : Text) : Visited := ⟨Array.replicate (text.byteSize + 1) ByteArray.empty⟩

/-- The bit of a state in its byte. -/
def mask (state : Nat) : UInt8 := 1 <<< (state % 8).toUInt8

/-- Whether a row holds a state. -/
def rowContains (row : ByteArray) (state : Nat) : Bool :=
  if h : state / 8 < row.size then row[state / 8] &&& mask state != 0 else false

/-- The row with one more state, of `count`. -/
def rowInsert (row : ByteArray) (count state : Nat) : ByteArray :=
  let row := if row.isEmpty then ⟨Array.replicate (count / 8 + 1) 0⟩ else row
  if h : state / 8 < row.size then row.set (state / 8) (row[state / 8] ||| mask state) h else row

/-- Whether a state was entered at a byte offset. -/
def contains (visited : Visited) (state offset : Nat) : Bool :=
  rowContains (visited.rows.getD offset ByteArray.empty) state

/-- Takes note of a state, of `count`, that is entered at a byte offset. -/
def insert (visited : Visited) (count state offset : Nat) : Visited :=
  ⟨visited.rows.modify offset fun row => rowInsert row count state⟩

/-- Forgets what was entered at a byte offset. -/
def forget (visited : Visited) (offset : Nat) : Visited :=
  ⟨visited.rows.setIfInBounds offset ByteArray.empty⟩

end Visited

end CfmlNav
