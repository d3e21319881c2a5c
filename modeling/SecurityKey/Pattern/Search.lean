import SecurityKey.Pattern.Automaton

/-!
# Looking for a pattern

A pattern is looked for from the start of a text on, and the first place where it occurs
counts.  Of the ways in which it occurs there, the one counts that the pattern prefers.  A
text fits a pattern if what counts goes up to the end of the text (`Pattern.fits`).

All ways are followed at once, as threads in the order in which they count.  Once one of
them is done, those behind it are given up, and so are the occurrences that would start
later.  A character of several bytes has places inside, at which an occurrence may start
as well; only one that takes no character can.
-/

set_option autoImplicit false

namespace SecurityKey

namespace Automaton

/-! ## Threads -/

/-- Whether a place is kept in a thread: a fork is not. -/
def isKept (automaton : Automaton) (place : Nat) : Bool :=
  match automaton.nodes[place]? with
  | some (.fork _ _) | none => false
  | some _ => true

/-- The places that come next without a character, if the looks that hold are known. -/
def ahead (automaton : Automaton) (holds : Look → Bool) (place : Nat) : List Nat :=
  match automaton.nodes[place]? with
  | some (.fork first second) => [first, second]
  | some (.look condition next) => if holds condition then [next] else []
  | _ => []

/-- The places that are reached from some without a character, in the order in which they
count.  Each place is reached once; `left` are those that have not been reached. -/
def reach (automaton : Automaton) (holds : Look → Bool) (left : List Nat) :
    List Nat → List Nat
  | [] => []
  | place :: others =>
      if member : place ∈ left then
        have : (left.erase place).length < left.length := by
          rw [List.length_erase_of_mem member]
          exact Nat.sub_lt (List.length_pos_of_mem member) Nat.one_pos
        let rest := automaton.reach holds (left.erase place)
          (automaton.ahead holds place ++ others)
        if automaton.isKept place then place :: rest else rest
      else
        automaton.reach holds left others
  termination_by places => (left.length, places.length)

/-- The threads that begin at some places. -/
def threads (automaton : Automaton) (holds : Look → Bool) (places : List Nat) : List Nat :=
  automaton.reach holds (List.range automaton.nodes.size) places

/-- Whether a place asks for a look that holds, and not because it is settled. -/
def isOpened (automaton : Automaton) (before after : Option Char) (place : Nat) : Bool :=
  match automaton.nodes[place]? with
  | some (.look condition _) => condition.holds before after && !condition.isSettled before
  | _ => false

/-- The threads at a place in a text.  What the text before it settles is known at once;
if what comes next opens a look, the threads go on from where they are. -/
def threadsAt (automaton : Automaton) (before after : Option Char) (places : List Nat) :
    List Nat :=
  let threads := automaton.threads (Look.isSettled before) places
  if threads.any (automaton.isOpened before after) then
    automaton.threads (Look.holds before after) threads
  else
    threads

/-- Whether a place is where the pattern is done. -/
def isDone (automaton : Automaton) (place : Nat) : Bool :=
  automaton.nodes[place]? == some .done

/-- Where a thread goes with a character. -/
def after? (automaton : Automaton) (char : Char) (place : Nat) : Option Nat :=
  match automaton.nodes[place]? with
  | some (.one set next) => if set.contains char then some next else none
  | _ => none

/-! ## Texts -/

/-- Whether an occurrence that starts inside a character is done there.  A character counts
as its own neighbour inside. -/
def isDoneInside (automaton : Automaton) (char : Char) : Bool :=
  char.utf8Size > 1 &&
    (automaton.threadsAt (some char) (some char) [automaton.start]).any automaton.isDone

/-- Whether what counts goes up to the end of a text.  `places` are where its threads are,
and `mayStart` says whether an occurrence may still start. -/
def endsWith (automaton : Automaton) (before : Option Char) (places : List Nat)
    (mayStart : Bool) : List Char → Bool
  | [] => (automaton.threadsAt before none places).any automaton.isDone
  | char :: rest =>
      let threads := automaton.threadsAt before (some char) places
      let mayStart := mayStart && !threads.any automaton.isDone && !automaton.isDoneInside char
      let alive := threads.takeWhile fun place => !automaton.isDone place
      let next := alive.filterMap (automaton.after? char)
      automaton.endsWith (some char)
        (if mayStart then next ++ [automaton.start] else next) mayStart rest

end Automaton

/-- Whether a pattern, looked for in a text, is found up to its end. -/
def Pattern.fits (pattern : Pattern) (text : String) : Bool :=
  let automaton := Automaton.ofPattern pattern
  automaton.endsWith none [automaton.start] true text.toList

end SecurityKey
