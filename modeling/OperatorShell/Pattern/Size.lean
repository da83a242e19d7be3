import OperatorShell.Pattern.Basic

/-!
# How large patterns are

A pattern is compiled to an automaton over bytes, whose size is limited. Repetitions are written
out, so that counts inside each other multiply.

* `Pattern.bytes`: the size of the automaton of a pattern.
-/

namespace OperatorShell.Pattern

/-- The bytes of a state. -/
def stateBytes : Nat := 32

/-- The bytes of a transition on a range of bytes. -/
def transitionBytes : Nat := 8

/-- The bytes of a transition on nothing. -/
def branchBytes : Nat := 4

/-- The states that a set beyond ASCII needs for the later bytes of its characters. -/
def laterStates : Nat := 7

/-- The transitions that such a set needs for the first bytes. -/
def firstTransitions : Nat := 8

/-- The bytes of a set of characters. -/
def CharSet.bytes (s : CharSet) : Nat :=
  if s.isEmpty then stateBytes
  else if s.isAscii then 2 * stateBytes + transitionBytes * s.ranges.length
  else
    2 * stateBytes + laterStates * (stateBytes + transitionBytes) +
      transitionBytes * (s.ranges.length + firstTransitions)

/-- The bytes of a repetition of a pattern of so many bytes. -/
def repetitionBytes (least : Nat) (most : Option Nat) (sub : Nat) : Nat :=
  match most with
  | none => max least 1 * sub + stateBytes + 2 * branchBytes
  | some most =>
    least * sub + (most - least) * (sub + stateBytes + 2 * branchBytes) + stateBytes

mutual

/-- The bytes of the automaton of a pattern. -/
def bytes : Pattern → Nat
  | empty | look _ => stateBytes
  | char c => stateBytes * c.utf8Size
  | set s => s.bytes
  | repetition least most sub => repetitionBytes least most sub.bytes
  | group sub => 2 * stateBytes + sub.bytes
  | concat subs => totalBytes subs
  | alternation subs => 2 * stateBytes + branchBytes * subs.length + totalBytes subs

/-- The bytes of the automata of patterns. -/
def totalBytes : List Pattern → Nat
  | [] => 0
  | p :: ps => p.bytes + totalBytes ps

end

/-- The bytes of what every automaton has. -/
def frameBytes : Nat := 200

/-- The most bytes of an automaton. -/
def maxBytes : Nat := 0xA00000

/-- Whether the automaton of a pattern is too large. -/
def isTooLarge (p : Pattern) : Bool := maxBytes < p.bytes + frameBytes

end OperatorShell.Pattern
