import SecurityKey.Pattern.Basic

/-!
# Automata

An automaton does what a pattern describes, step by step.  A node takes one character, asks
for a look, or forks in two directions, the first of which is preferred; one node says that
the pattern is done.

The nodes of a pattern lead on to a node that is given, so that the automaton of a sequence
is that of its second part and then that of its first (`Automaton.place`).  What is repeated
leads back to the fork that stands before or behind it.
-/

set_option autoImplicit false

namespace SecurityKey

/-- A step of an automaton, and the places of the nodes that come next. -/
inductive Node where
  | one (set : CharSet) (next : Nat)
  | look (condition : Look) (next : Nat)
  | fork (first second : Nat)
  | done
  deriving DecidableEq, Repr

/-- Nodes, and the place of the one that comes first. -/
structure Automaton where
  nodes : Array Node
  start : Nat
  deriving DecidableEq, Repr

namespace Automaton

/-- An automaton with one more node, which comes first. -/
def push (node : Node) (automaton : Automaton) : Automaton :=
  ⟨automaton.nodes.push node, automaton.nodes.size⟩

/-- A fork between two places, of which the first is preferred if it is greedy. -/
def forkOf (greedy : Bool) (again further : Nat) : Node :=
  if greedy then .fork again further else .fork further again

/-- Puts a pattern in front of an automaton. -/
def place : Pattern → Automaton → Automaton
  | .empty, automaton => automaton
  | .one set, automaton => automaton.push (.one set automaton.start)
  | .look condition, automaton => automaton.push (.look condition automaton.start)
  | .sequence first second, automaton => place first (place second automaton)
  | .either first second, automaton =>
      let other := place second automaton
      let this := place first ⟨other.nodes, automaton.start⟩
      this.push (.fork this.start other.start)
  | .repeated item .atMostOne greedy, automaton =>
      let body := place item automaton
      body.push (forkOf greedy body.start automaton.start)
  | .repeated item count greedy, automaton =>
      let fork := automaton.nodes.size
      let body := place item (automaton.push .done)
      let loop : Automaton :=
        ⟨body.nodes.setIfInBounds fork (forkOf greedy body.start automaton.start), body.start⟩
      if count = .atLeastOne then
        loop
      else if item.canBeEmpty then
        loop.push (forkOf greedy body.start automaton.start)
      else
        ⟨loop.nodes, fork⟩

/-- The automaton of a pattern. -/
def ofPattern (pattern : Pattern) : Automaton := place pattern ⟨#[.done], 0⟩

end Automaton

end SecurityKey
