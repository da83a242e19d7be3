import OperatorShell.Pattern.CharSet

/-!
# Patterns

A pattern says which parts of a text it matches, once all modes are settled.

* `Pattern`: patterns.
* `Pattern.repeated`: a repetition in its simplest form.
-/

namespace OperatorShell

namespace Pattern

/-- A place between characters that is looked for. Where carriage returns count, they end a line
too. -/
inductive Look where
  | textStart
  | textEnd
  | lineStart (returns : Bool)
  | lineEnd (returns : Bool)
  | word (e : WordEdge) (unicode : Bool)
  deriving DecidableEq, Repr

end Pattern

open Pattern in
/-- A pattern. -/
inductive Pattern where
  | empty
  | char (c : Char)
  | set (s : CharSet)
  | look (l : Look)
  | repetition (least : Nat) (most : Option Nat) (sub : Pattern)
  | group (sub : Pattern)
  | concat (subs : List Pattern)
  | alternation (subs : List Pattern)

namespace Pattern

mutual

/-- Whether a pattern can match nothing but the empty text. -/
def isEmptyOnly : Pattern → Bool
  | empty | look _ => true
  | char _ | set _ => false
  | repetition _ _ sub | group sub => sub.isEmptyOnly
  | concat subs | alternation subs => areEmptyOnly subs

/-- Whether each of these patterns can match nothing but the empty text. -/
def areEmptyOnly : List Pattern → Bool
  | [] => true
  | p :: ps => p.isEmptyOnly && areEmptyOnly ps

end

/-- A pattern so many times. What matches only the empty text is looked at once at most, and what is
never looked at is the empty pattern. -/
def repeated (least : Nat) (most : Option Nat) (sub : Pattern) : Pattern :=
  let (least, most) :=
    if sub.isEmptyOnly then (min least 1, some (min (most.getD 1) 1)) else (least, most)
  if most = some 0 then empty
  else if least = 1 ∧ most = some 1 then sub
  else repetition least most sub

mutual

/-- Whether a condition holds for a place that a pattern looks for. -/
def anyLook (p : Look → Bool) : Pattern → Bool
  | empty | char _ | set _ => false
  | look l => p l
  | repetition _ _ sub | group sub => sub.anyLook p
  | concat subs | alternation subs => anyLooks p subs

/-- Whether a condition holds for a place that one of these patterns looks for. -/
def anyLooks (p : Look → Bool) : List Pattern → Bool
  | [] => false
  | q :: qs => q.anyLook p || anyLooks p qs

end

/-- Whether a pattern looks for edges of words in all of Unicode. -/
def needsUnicodeWords : Pattern → Bool :=
  anyLook fun
    | .word _ unicode => unicode
    | _ => false

end Pattern

end OperatorShell
