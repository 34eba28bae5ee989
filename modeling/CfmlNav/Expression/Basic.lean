import CfmlNav.Cursor
import CfmlNav.Character.Set

/-!
# Expressions

An expression is the meaning of a pattern that a user wrote. The functions that build one
bring it into a simple form at once: sequences and choices are flat lists that lean to the
right, neighbouring characters make one literal, a choice between single characters or between
sets is one set of characters, what all alternatives start with is taken out of them, and a
repetition of something that takes no character is made at most once.
-/

namespace CfmlNav

/-- How often something is repeated: at least so often, and at most so often if there is a
limit. -/
structure Count where
  low : Nat
  high : Option Nat
  deriving DecidableEq, Repr

/-- What a written pattern describes. -/
inductive Expression where
  /-- Nothing. -/
  | empty
  /-- Some characters one after the other. -/
  | literal (text : Text)
  /-- One character of a set, which was written within ASCII or not. -/
  | oneOf (set : CharacterSet) (asciiOnly : Bool)
  /-- A condition on the place. -/
  | anchor (anchor : Anchor)
  /-- A group, by its number in the written form; one with a name reports what it took. -/
  | group (index : Nat) (name : Option Text) (body : Expression)
  /-- Some rounds; a greedy repetition prefers more of them, any other fewer. -/
  | repeated (count : Count) (greedy : Bool) (body : Expression)
  /-- One expression, then the other. -/
  | seq (first second : Expression)
  /-- One expression, or failing that the other. -/
  | alt (first second : Expression)
  deriving DecidableEq, Repr

namespace Expression

/-! ### Measures -/

/-- The least number of characters that an expression takes; none if some part of it can take
nothing at all, not even the empty text. -/
def minLength : Expression → Option Nat
  | empty | anchor _ => some 0
  | literal text => some text.length
  | oneOf set _ => if set.ranges.isEmpty then none else some 1
  | group _ _ body => body.minLength
  | repeated count _ body => body.minLength.map (· * count.low)
  | seq p q => do return (← p.minLength) + (← q.minLength)
  | alt p q => do return min (← p.minLength) (← q.minLength)

/-- Whether an expression never takes a character. -/
def takesNothing : Expression → Bool
  | empty | anchor _ => true
  | literal text => text.isEmpty
  | oneOf _ _ => false
  | group _ _ body => body.takesNothing
  | repeated count _ body => body.takesNothing && count.high.isSome
  | seq p q | alt p q => p.takesNothing && q.takesNothing

/-- The names under which an expression reports parts. -/
def groupNames : Expression → List Text
  | empty | literal _ | oneOf _ _ | anchor _ => []
  | group _ name body => name.toList ++ body.groupNames
  | repeated _ _ body => body.groupNames
  | seq p q | alt p q => p.groupNames ++ q.groupNames

/-! ### Characters and repetitions -/

/-- What no text fits. -/
def nothing : Expression := oneOf .empty false

/-- One character of a set; the only one of a set is a literal. -/
def ofSet (set : CharacterSet) (asciiOnly : Bool) : Expression :=
  match set.ranges with
  | [] => nothing
  | [(low, high)] => if low = high then literal [Char.ofNat low] else oneOf set asciiOnly
  | _ => oneOf set asciiOnly

/-- Some rounds of an expression. What takes no character need not be repeated. -/
def repetition (count : Count) (greedy : Bool) (body : Expression) : Expression :=
  let count := if body.takesNothing then ⟨min count.low 1, some (min (count.high.getD 1) 1)⟩
    else count
  if count = ⟨0, some 0⟩ then empty
  else if count = ⟨1, some 1⟩ then body
  else repeated count greedy body

/-! ### Sequences -/

/-- The parts of a sequence; any other expression is its own only part. -/
def items : Expression → List Expression
  | empty => []
  | seq p q => p.items ++ q.items
  | e => [e]

/-- Makes one literal of neighbouring ones. -/
def joinLiterals : List Expression → List Expression
  | [] => []
  | literal s :: rest =>
    match joinLiterals rest with
    | literal t :: joined => literal (s ++ t) :: joined
    | joined => literal s :: joined
  | e :: rest => e :: joinLiterals rest

/-- The sequence of some parts as they are. -/
def ofItems : List Expression → Expression
  | [] => empty
  | [e] => e
  | e :: rest => seq e (ofItems rest)

/-- Some expressions one after the other. -/
def sequence (es : List Expression) : Expression :=
  ofItems (joinLiterals (es.flatMap items))

/-! ### Choices -/

/-- The alternatives of a choice; any other expression is its own only alternative. -/
def alternatives : Expression → List Expression
  | alt p q => p.alternatives ++ q.alternatives
  | e => [e]

/-- The choice between some alternatives as they are. -/
def ofAlternatives : List Expression → Expression
  | [] => nothing
  | [e] => e
  | e :: rest => alt e (ofAlternatives rest)

/-- The set of an expression that is one character. -/
def singleCharacter? : Expression → Option CharacterSet
  | literal [c] => some (.singleton c)
  | _ => none

/-- The set of an expression that is a set of characters. -/
def characters? : Expression → Option CharacterSet
  | oneOf set _ => some set
  | _ => none

/-- A choice between alternatives that need not start differently. Several single characters
make a set, and so do several sets, within ASCII or not; the two kinds side by side do not. -/
def plainChoice (es : List Expression) : Expression :=
  match es.flatMap alternatives with
  | [e] => e
  | branches =>
    match branches.mapM singleCharacter? <|> branches.mapM characters? with
    | some sets => ofSet (.ofRanges (sets.flatMap CharacterSet.ranges)) false
    | none => ofAlternatives branches

/-- What two lists start with. -/
def sharedStart : List Expression → List Expression → List Expression
  | p :: ps, q :: qs => if p = q then p :: sharedStart ps qs else []
  | _, _ => []

/-- The parts that some alternatives all start with; they are looked for in sequences only. -/
def sharedItems : List Expression → List Expression
  | [] => []
  | e :: rest =>
    if (e :: rest).all fun branch => branch.items.length ≥ 2 then
      rest.foldl (fun shared branch => sharedStart shared branch.items) e.items
    else []

/-- The first of some expressions that fits. What all of them start with comes first, and the
choice is made behind it. -/
def choice (es : List Expression) : Expression :=
  let branches := es.flatMap alternatives
  let shared := sharedItems branches
  if shared.isEmpty then plainChoice branches
  else sequence (shared ++
    [plainChoice (branches.map fun branch => sequence (branch.items.drop shared.length))])

end Expression

end CfmlNav
