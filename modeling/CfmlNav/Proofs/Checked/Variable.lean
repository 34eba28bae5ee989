import CfmlNav.Proofs.Checked.Context
import CfmlNav.Proofs.Match
import CfmlNav.Proofs.Variable.Collection

/-!
# Variables with every access checked

What a form captures is cut out of the scanned part, and its ends are looked up in the table of the
whole document, behind the offset at which the part stands. Captures stay in the part, and the part
is one of the document, so all of it succeeds (`collectChecked_eq`). The body of a function is a
part of the document whatever its span: positions are moved into the document, and a span that ends
before it starts is taken to be empty (`localsInChecked_eq`).
-/

namespace CfmlNav

open Text

/-- A part of a part of a text is one of the text. -/
theorem ByteRange.IsPartOf.behind {range : ByteRange} {text front part back : Text}
    (h : range.IsPartOf part) (htext : text = front ++ (part ++ back)) :
    ByteRange.IsPartOf ⟨front.byteSize + range.start, front.byteSize + range.stop⟩ text := by
  obtain ⟨lead, taken, rest, rfl, rfl⟩ := h
  refine ⟨front ++ lead, taken, rest ++ back, by simp [htext], ?_⟩
  simp only [byteSize_append, Nat.add_assoc]

namespace Variable

/-- The variable that a match in a part of a text names, with a table of the lines of the text. -/
def ofMatchChecked (file : FileId) (starts : List Nat) (text : Text) (base : Nat) (part : Text)
    (scope : Scope) (found : Match) : Option (Option Variable) :=
  match found.capture? nameGroup with
  | none => some none
  | some name => do
    let scope ← match found.capture? scopeGroup with
      | none => some scope
      | some keyword => (part.slice? keyword).map .parse
    let range ← spanAtChecked starts text ⟨base + name.start, base + name.stop⟩
    let identifier ← part.slice? name
    return some { identifier, scope, declaration := ⟨file, range⟩ }

/-- The variables that a form finds in a part of a text, with a table of the lines of the text. -/
def collectChecked (file : FileId) (starts : List Nat) (text : Text) (base : Nat) (part : Text)
    (form : Pattern) (scope : Scope) : Option (List Variable) :=
  filterMapChecked (ofMatchChecked file starts text base part scope) (form.findAll part)

/-- The variables with a scope that a document assigns. -/
def assignedInChecked (file : FileId) (dialect : Dialect) (raw : Text) :
    Option (List Variable) := do
  let text := Comment.blank (← Comment.findAllChecked dialect raw) raw
  let found := collectChecked file (← text.lineStartsChecked) text 0 text
  let members ← found scopedAssignment .unknown
  let entries ← found bracketAssignment .unknown
  let params ← if dialect.isScript then some [] else found paramTag .vars
  return sort (members ++ entries ++ params)

/-- The local variables that are declared in the body of a function. -/
def localsInChecked (context : Context) (body : Option Span) : Option (List Variable) :=
  match body with
  | none => some []
  | some body => do
    let starts := context.text.lineStarts
    let start ← offsetAtChecked starts context.text body.start
    let stop ← offsetAtChecked starts context.text body.stop
    let part ← context.text.slice? ⟨start, max stop start⟩
    let found := collectChecked context.file starts context.text start part
    let declared ← found varDeclaration .locals
    let assigned ← found localAssignment .locals
    return sort (declared ++ assigned)

variable {text front part back : Text}

theorem collectChecked_eq (file : FileId) (h : text.byteSize < UInt32.size)
    (htext : text = front ++ (part ++ back)) (form : Pattern) (scope : Scope) :
    collectChecked file text.lineStarts text front.byteSize part form scope =
      some (collect file text front.byteSize part form scope) := by
  refine filterMapChecked_eq fun found hfound => ?_
  have hstays := Pattern.staysIn_of_mem_findAll hfound
  rw [ofMatchChecked]
  cases hname : found.capture? nameGroup with
  | none => rfl
  | some name =>
    have hpart := (hstays.of_capture? hname).1
    have hspan := spanAtChecked_eq h (hpart.behind htext)
    cases hscope : found.capture? scopeGroup with
    | none =>
      dsimp only
      rw [hspan, hpart.slice?_eq]
      rfl
    | some keyword =>
      dsimp only
      rw [hspan, hpart.slice?_eq, (hstays.of_capture? hscope).1.slice?_eq]
      rfl

theorem assignedInChecked_eq {raw : Text} (h : raw.byteSize < UInt32.size) (file : FileId)
    (dialect : Dialect) :
    assignedInChecked file dialect raw = some (assignedIn file dialect raw) := by
  let text := Comment.strip dialect raw
  have htext : text.byteSize < UInt32.size := Comment.byteSize_strip_lt h dialect
  have hblank : Comment.blank (Comment.findAll dialect raw) raw = text := rfl
  have hwhole : text = [] ++ (text ++ []) := text.append_nil.symm
  have hfound (form : Pattern) (scope : Scope) :
      collectChecked file text.lineStarts text 0 text form scope =
        some (collect file text 0 text form scope) := collectChecked_eq file htext hwhole form scope
  rw [assignedInChecked, Comment.findAllChecked_eq]
  simp only [Option.bind_eq_bind, Option.bind_some, hblank, lineStartsChecked_eq htext, hfound]
  cases hscript : dialect.isScript <;> simp [assignedIn, hscript, text]

/-- The body of a function is a part of the text, also if its span ends before it starts. -/
theorem bodyBytes_isPartOf (text : Text) (body : Span) : (bodyBytes text body).IsPartOf text := by
  have hstart := text.isBoundary_offsetAt body.start
  refine hstart.isPartOf ?_ (Nat.le_max_right _ _)
  rw [Nat.max_def]
  split
  next => exact hstart
  next => exact text.isBoundary_offsetAt body.stop

theorem localsInChecked_eq {context : Context} (h : context.text.byteSize < UInt32.size)
    (body : Option Span) : localsInChecked context body = some (localsIn context body) := by
  cases body with
  | none => rfl
  | some body =>
    obtain ⟨front, back, htext, hstart⟩ := exists_parts_of_body context.text body
    have hslice := (bodyBytes_isPartOf context.text body).slice?_eq
    have hfound := collectChecked_eq context.file h htext
    rw [← hstart] at hfound
    rw [localsInChecked, offsetAtChecked_eq h, offsetAtChecked_eq h]
    rw [bodyBytes] at hslice hfound
    simp only [Option.bind_eq_bind, Option.bind_some, hslice, hfound]
    rfl

end Variable

end CfmlNav
