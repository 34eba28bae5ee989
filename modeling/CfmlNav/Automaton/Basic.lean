import CfmlNav.Expression.Basic

/-!
# Automata

An expression is run as an automaton: numbered states, each of which takes characters, asks
for a condition, opens or closes a group, or leaves two ways open of which one is preferred.
The automaton of an expression is built from its end to its start, each part in front of the
state that follows it.

An automaton also knows to which of its states several ways lead. Any other state is entered
twice at the same place of a text only if the one state that leads to it is, so a search has to
look out for these states alone.
-/

namespace CfmlNav

/-- A state of an automaton, with the states that follow it. -/
inductive AutomatonState where
  /-- The end. -/
  | accept
  /-- Takes one character of each of some sets, in their order. -/
  | take (sets : List CharacterSet) (next : Nat)
  /-- Asks for a condition on the place. -/
  | check (anchor : Anchor) (next : Nat)
  /-- Leaves two ways open. -/
  | fork (preferred other : Nat)
  /-- Opens a group with a name. -/
  | enter (name : Text) (next : Nat)
  /-- Closes the group that was opened last. -/
  | leave (next : Nat)
  deriving DecidableEq, Repr

/-- The states that follow a state. -/
def AutomatonState.successors : AutomatonState → List Nat
  | accept => []
  | take _ next | check _ next | enter _ next | leave next => [next]
  | fork preferred other => [preferred, other]

/-- Numbered states and the one to start with, for each state whether several ways lead to it,
and a number of characters that every match takes at least. -/
structure Automaton where
  states : Array AutomatonState
  start : Nat
  joins : Array Bool
  least : Nat
  deriving Repr

namespace Automaton

/-- A step of the construction: it adds states and gives the number of the one to enter by. -/
abbrev Build := StateM (Array AutomatonState) Nat

/-- Adds one state. -/
def add (state : AutomatonState) : Build :=
  modifyGet fun states => (states.size, states.push state)

/-- The state that leads into a round of a repetition or past it. -/
def roundFork (greedy : Bool) (round past : Nat) : AutomatonState :=
  if greedy then .fork round past else .fork past round

/-- Adds `n` copies of something in front of the state `next`. -/
def copies (build : Nat → Build) : (n next : Nat) → Build
  | 0, next => pure next
  | n + 1, next => do copies build n (← build next)

/-- Adds `n` copies of something in front of the state `entry`, each of which may be passed by
with all that follow it, to the state `past`. -/
def optionalCopies (build : Nat → Build) (greedy : Bool) (past : Nat) : (n entry : Nat) → Build
  | 0, entry => pure entry
  | n + 1, entry => do
    let round ← build entry
    optionalCopies build greedy past n (← add (roundFork greedy round past))

/-- Adds a loop of at least one round in front of the state `past`. The answer is the state
that a round starts with and the fork behind a round, which leads to the next one. -/
def loop (build : Nat → Build) (greedy : Bool) (past : Nat) :
    StateM (Array AutomatonState) (Nat × Nat) := do
  let behind ← add .accept
  let round ← build behind
  modify fun states => states.setIfInBounds behind (roundFork greedy round past)
  return (round, behind)

/-- The sets of the single characters that an expression takes one after the other, if it is
nothing more than that. -/
def characters? : Expression → Option (List CharacterSet)
  | .literal text => some (text.map CharacterSet.singleton)
  | .oneOf set _ => some [set]
  | _ => none

/-- Adds `n` rounds of an expression in front of the state `next`. Rounds that only take
characters are one state. -/
def rounds (body : Expression) (build : Nat → Build) (n next : Nat) : Build :=
  match characters? body with
  | none => copies build n next
  | some sets => if n = 0 then pure next else add (.take (List.replicate n sets).flatten next)

/-- Adds an expression in front of the state `next`.

A loop whose rounds all take a character is entered by the fork behind a round. Where a round
may take nothing, it is entered by a fork of its own, so that a first round which takes nothing
still counts as a round. -/
def addExpression : Expression → (next : Nat) → Build
  | .empty, next => pure next
  | .literal text, next => add (.take (text.map CharacterSet.singleton) next)
  | .oneOf set _, next => add (.take [set] next)
  | .anchor a, next => add (.check a next)
  | .group _ none body, next => addExpression body next
  | .group _ (some name) body, next => do
    let body ← addExpression body (← add (.leave next))
    add (.enter name body)
  | .seq p q, next => do addExpression p (← addExpression q next)
  | .alt p q, next => do
    let second ← addExpression q next
    let first ← addExpression p next
    add (.fork first second)
  | .repeated count greedy body, next =>
    let build := fun next => addExpression body next
    match count.low, count.high with
    | low, some high => do
      rounds body build low (← optionalCopies build greedy next (high - low) next)
    | 0, none => do
      let (round, behind) ← loop build greedy next
      if body.minLength.any (· > 0) then return behind
      else add (roundFork greedy round next)
    | low + 1, none => do
      let (round, _) ← loop build greedy next
      rounds body build low round

/-- How many ways lead to each state, with the one from outside to the state `start`. -/
def entryCounts (states : Array AutomatonState) (start : Nat) : Array Nat :=
  states.foldl (fun counts state => state.successors.foldl (fun counts next =>
    counts.modify next (· + 1)) counts) ((Array.replicate states.size 0).modify start (· + 1))

/-- The automaton of an expression. Its first state is the end. -/
def ofExpression (e : Expression) : Automaton :=
  let (start, states) := (addExpression e 0).run #[.accept]
  { states, start
    joins := (entryCounts states start).map (· > 1)
    least := e.minLength.getD 0 }

/-- Whether several ways lead to a state. -/
def isJoin (automaton : Automaton) (state : Nat) : Bool :=
  automaton.joins.getD state true

end Automaton

end CfmlNav
