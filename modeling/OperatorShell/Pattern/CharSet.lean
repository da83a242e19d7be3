import OperatorShell.Pattern.Form
import OperatorShell.Text.Printable

/-!
# Sets of characters

A set is a list of ranges that are in order and apart from each other. Characters are counted
without the gap that the surrogates leave, so that two ranges at its ends are one.

* `CharSet.contains`: membership.
* `CharSet.union`, `CharSet.inter`, `CharSet.diff`, `CharSet.complement`: the operations of sets.
-/

namespace OperatorShell.Pattern

/-- The place of a character among all characters. -/
def charRank (c : Char) : Nat := if c.toNat < 0xD800 then c.toNat else c.toNat - 0x800

/-- The place of the last character. -/
def maxRank : Nat := 0x10FFFF - 0x800

/-- Adds a range to ranges that are in order and apart, and joins it with those it touches. -/
def addRange (first last : Nat) : List (Nat × Nat) → List (Nat × Nat)
  | [] => [(first, last)]
  | (a, b) :: rest =>
    if last + 1 < a then (first, last) :: (a, b) :: rest
    else if b + 1 < first then (a, b) :: addRange first last rest
    else addRange (min first a) (max last b) rest

/-- The ranges between others, from a place on. -/
def gapsFrom (first : Nat) : List (Nat × Nat) → List (Nat × Nat)
  | [] => if first ≤ maxRank then [(first, maxRank)] else []
  | (a, b) :: rest => (if first < a then [(first, a - 1)] else []) ++ gapsFrom (b + 1) rest

/-- A set of characters. It is settled when no change of letter case can add to it, as far as can be
known without a table of cases: then no character was put into it by name. -/
structure CharSet where
  ranges : List (Nat × Nat) := []
  settled : Bool := true
  deriving DecidableEq, Repr

namespace CharSet

/-- The set without characters. -/
def empty : CharSet := {}

/-- The characters between two. -/
def ofRange (first last : Char) : CharSet := ⟨[(charRank first, charRank last)], false⟩

/-- The characters of some ranges. -/
def ofRanges (rs : List (Char × Char)) : CharSet where
  ranges := rs.foldl (fun s r => addRange (charRank r.1) (charRank r.2) s) []
  settled := rs.isEmpty

/-- Whether a set holds a character. -/
def contains (s : CharSet) (c : Char) : Bool := Text.inRanges s.ranges (charRank c)

/-- Whether a set holds no character. -/
def isEmpty (s : CharSet) : Bool := s.ranges.isEmpty

/-- Whether a set holds only characters of ASCII. -/
def isAscii (s : CharSet) : Bool := s.ranges.all fun r => r.2 < 0x80

/-- The characters of either set. -/
def union (s t : CharSet) : CharSet where
  ranges := t.ranges.foldl (fun rs r => addRange r.1 r.2 rs) s.ranges
  settled := s.settled && t.settled

/-- The characters that a set does not hold. -/
def complement (s : CharSet) : CharSet where
  ranges := gapsFrom 0 s.ranges
  settled := s.isEmpty || s.settled

/-- The characters of both sets. -/
def inter (s t : CharSet) : CharSet := (s.complement.union t.complement).complement

/-- The characters of one set that another does not hold. -/
def diff (s t : CharSet) : CharSet := s.inter t.complement

/-- The characters of exactly one of two sets. -/
def symmDiff (s t : CharSet) : CharSet := (s.union t).diff (s.inter t)

/-- The set with the letters of ASCII in both cases. -/
def withBothCases (s : CharSet) : CharSet :=
  let upper := (s.inter (ofRange 'A' 'Z')).ranges.map fun r => (r.1 + 0x20, r.2 + 0x20)
  let lower := (s.inter (ofRange 'a' 'z')).ranges.map fun r => (r.1 - 0x20, r.2 - 0x20)
  (s.union ⟨upper, true⟩).union ⟨lower, true⟩

/-- Two sets combined by an operator. -/
def combine : ClassOp → CharSet → CharSet → CharSet
  | .intersection => inter
  | .difference => diff
  | .symmetricDifference => symmDiff

end CharSet

/-- The ranges of a class of ASCII. -/
def AsciiClass.ranges : AsciiClass → List (Char × Char)
  | alnum => [('0', '9'), ('A', 'Z'), ('a', 'z')]
  | alpha => [('A', 'Z'), ('a', 'z')]
  | ascii => [('\x00', '\x7f')]
  | blank => [('\t', '\t'), (' ', ' ')]
  | cntrl => [('\x00', '\x1f'), ('\x7f', '\x7f')]
  | digit => [('0', '9')]
  | graph => [('!', '~')]
  | lower => [('a', 'z')]
  | print => [(' ', '~')]
  | punct => [('!', '/'), (':', '@'), ('[', '\x60'), ('\x7b', '~')]
  | space => [('\t', '\r'), (' ', ' ')]
  | upper => [('A', 'Z')]
  | word => [('0', '9'), ('A', 'Z'), ('_', '_'), ('a', 'z')]
  | xdigit => [('0', '9'), ('A', 'F'), ('a', 'f')]

/-- The characters of a class of ASCII. -/
def AsciiClass.charSet (k : AsciiClass) : CharSet := .ofRanges k.ranges

end OperatorShell.Pattern
