import OperatorShell.Pattern.Basic

/-!
# Matching

A match of a pattern begins and ends between characters of a text. From the places where it may
begin follow the places where it may end; sets of places are lists in increasing order.

* `Pattern.ends`: where matches end that begin at some places.
* `Pattern.occursIn`: whether some part of a text matches.
-/

namespace OperatorShell.Pattern

/-- Whether a character belongs to a word of ASCII. -/
def isWordChar (c : Char) : Bool := c.isAlphanum || c = '_'

namespace WordEdge

/-- Whether an edge is between two characters, of which it is known whether they belong to words. -/
def isBetween (before after : Bool) : WordEdge → Bool
  | edge => before != after
  | noEdge => before == after
  | start => !before && after
  | stop => before && !after
  | startHalf => !before
  | stopHalf => !after

end WordEdge

/-- Whether a place of a text is one that is looked for. -/
def Look.holds (text : Array Char) (i : Nat) (l : Look) : Bool :=
  let before := if i = 0 then none else text[i - 1]?
  let after := text[i]?
  match l with
  | textStart => before.isNone
  | textEnd => after.isNone
  | lineStart false => before.all (· = '\n')
  | lineEnd false => after.all (· = '\n')
  | lineStart true =>
    before.all fun c => c = '\n' || (c = '\r' && after ≠ some '\n')
  | lineEnd true =>
    after.all fun c => c = '\r' || (c = '\n' && before ≠ some '\r')
  | word e _ => e.isBetween (before.any isWordChar) (after.any isWordChar)

/-- The places of either list. -/
def joinPlaces (s t : List Nat) : List Nat := (s.merge t).eraseReps

/-- The places after a character that satisfies a condition. -/
def passChar (text : Array Char) (p : Char → Bool) (s : List Nat) : List Nat :=
  (s.filter fun i => text[i]?.any p).map (· + 1)

/-- A step so many times. Once it changes nothing, neither does any further one. -/
def times (step : List Nat → List Nat) : Nat → List Nat → List Nat
  | 0, s => s
  | n + 1, s =>
    let t := step s
    if t = s then s else times step n t

/-- All places that up to so many steps lead to; only those that the last step has added are gone
on from. -/
def reach (step : List Nat → List Nat) : Nat → List Nat → List Nat → List Nat
  | 0, seen, _ => seen
  | n + 1, seen, last =>
    let added := (step last).filter fun i => !seen.contains i
    if added.isEmpty then seen else reach step n (joinPlaces seen added) added

mutual

/-- Where matches of a pattern end that begin at some places of a text. -/
def ends (text : Array Char) : Pattern → List Nat → List Nat
  | empty, s => s
  | char c, s => passChar text (· = c) s
  | set k, s => passChar text k.contains s
  | look l, s => s.filter fun i => l.holds text i
  | repetition least most sub, s =>
    let s := times (ends text sub) least s
    let further := match most with
      | some most => most - least
      | none => text.size + 1
    reach (ends text sub) further s s
  | group sub, s => ends text sub s
  | concat subs, s => endsOfAll text subs s
  | alternation subs, s => endsOfAny text subs s

/-- Where matches of patterns one after the other end. -/
def endsOfAll (text : Array Char) : List Pattern → List Nat → List Nat
  | [], s => s
  | p :: ps, s => endsOfAll text ps (ends text p s)

/-- Where matches of any of these patterns end. -/
def endsOfAny (text : Array Char) : List Pattern → List Nat → List Nat
  | [], _ => []
  | p :: ps, s => joinPlaces (ends text p s) (endsOfAny text ps s)

end

/-- Whether some part of a text matches. -/
def occursIn (p : Pattern) (t : Text) : Bool :=
  let text := t.toArray
  ends text p (List.range (text.size + 1)) ≠ []

end OperatorShell.Pattern
