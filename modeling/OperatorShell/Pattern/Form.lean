import OperatorShell.Pattern.Fault

/-!
# Written forms

A pattern as it is written, before it is known what it means: every part keeps its place, so that a
fault can be pointed out later.

* `Form`: a pattern. `ClassSet`, `ClassItem`: what stands between brackets.
* `Form.checkNesting`: refuses a pattern that is nested too deeply.
-/

namespace OperatorShell.Pattern

/-- A mode that a pattern can switch on and off. -/
inductive Flag where
  | caseless
  | multiLine
  | dotAll
  | swapGreed
  | unicode
  | carriageReturn
  | freeBlanks
  deriving DecidableEq, Repr

/-- A letter between `(?` and a colon or parenthesis; what follows a minus is switched off. -/
structure FlagItem where
  span : Span
  /-- The mode, or nothing for the minus. -/
  flag : Option Flag
  deriving DecidableEq, Repr

/-- The value that flags give to a mode, if they mention it. -/
def flagValue? (flags : List FlagItem) (flag : Flag) : Option Bool :=
  go true flags
where
  go (on : Bool) : List FlagItem → Option Bool
    | [] => none
    | ⟨_, none⟩ :: rest => go false rest
    | ⟨_, some f⟩ :: rest => if f = flag then some on else go on rest

/-- A character, and whether it is given as a byte. -/
structure Literal where
  span : Span
  char : Char
  isByte : Bool := false
  deriving DecidableEq, Repr

/-- The classes of ASCII that have names. -/
inductive AsciiClass where
  | alnum
  | alpha
  | ascii
  | blank
  | cntrl
  | digit
  | graph
  | lower
  | print
  | punct
  | space
  | upper
  | word
  | xdigit
  deriving DecidableEq, Repr

namespace AsciiClass

/-- The classes with their names. -/
def named : List (Text × AsciiClass) := [
  ("alnum".toList, alnum), ("alpha".toList, alpha), ("ascii".toList, ascii),
  ("blank".toList, blank), ("cntrl".toList, cntrl), ("digit".toList, digit),
  ("graph".toList, graph), ("lower".toList, lower), ("print".toList, print),
  ("punct".toList, punct), ("space".toList, space), ("upper".toList, upper),
  ("word".toList, word), ("xdigit".toList, xdigit)]

/-- The class of a name. -/
def ofName? (name : Text) : Option AsciiClass := (named.find? fun n => n.1 = name).map (·.2)

end AsciiClass

/-- What is looked for at the edge of a word: an edge, no edge, or one side of an edge. A half looks
only at the side that is no word. -/
inductive WordEdge where
  | edge
  | noEdge
  | start
  | stop
  | startHalf
  | stopHalf
  deriving DecidableEq, Repr

/-- A place between characters that is looked for, rather than a character. -/
inductive Assertion where
  | startLine
  | endLine
  | startText
  | endText
  | word (e : WordEdge)
  deriving DecidableEq, Repr

/-- How two sets between brackets are combined. -/
inductive ClassOp where
  | intersection
  | difference
  | symmetricDifference
  deriving DecidableEq, Repr

mutual

/-- What stands between brackets. -/
inductive ClassSet where
  | item (i : ClassItem)
  | op (span : Span) (kind : ClassOp) (left right : ClassSet)

/-- An item between brackets. -/
inductive ClassItem where
  | empty (span : Span)
  | literal (l : Literal)
  | range (span : Span) (first last : Literal)
  | ascii (span : Span) (kind : AsciiClass) (negated : Bool)
  | property (span : Span) (name : Text)
  /-- A digit, a blank or a word character. -/
  | perl (span : Span) (kind : AsciiClass) (negated : Bool)
  | bracketed (span : Span) (negated : Bool) (set : ClassSet)
  | union (span : Span) (items : List ClassItem)

end

/-- The place of an item. -/
def ClassItem.span : ClassItem → Span
  | .literal l => l.span
  | .empty s | .range s .. | .ascii s .. | .property s .. | .perl s .. | .bracketed s ..
  | .union s .. => s

/-- The place of a set. -/
def ClassSet.span : ClassSet → Span
  | .item i => i.span
  | .op s .. => s

/-- A pattern as it is written. -/
inductive Form where
  | empty (span : Span)
  | flags (span : Span) (items : List FlagItem)
  | literal (l : Literal)
  | dot (span : Span)
  | assertion (span : Span) (kind : Assertion)
  | property (span : Span) (name : Text)
  | perl (span : Span) (kind : AsciiClass) (negated : Bool)
  | bracketed (span : Span) (negated : Bool) (set : ClassSet)
  | repetition (span : Span) (least : Nat) (most : Option Nat) (sub : Form)
  | group (span : Span) (flags : Option (List FlagItem)) (sub : Form)
  | alternation (span : Span) (subs : List Form)
  | concat (span : Span) (subs : List Form)

namespace Form

/-- The place of a form. -/
def span : Form → Span
  | literal l => l.span
  | empty s | flags s .. | dot s | assertion s .. | property s .. | perl s .. | bracketed s ..
  | repetition s .. | group s .. | alternation s .. | concat s .. => s

/-- Forms one after the other; a single one is itself. -/
def sequence (span : Span) : List Form → Form
  | [] => empty span
  | [f] => f
  | fs => concat span fs

end Form

/-! ## Nesting -/

/-- Refuses a part at a depth that is too deep. -/
def checkDepth (depth : Nat) (span : Span) : Except Refusal Unit :=
  if maxNesting < depth then .error ⟨.nesting maxNesting, span, none⟩ else .ok ()

mutual

/-- Refuses a set that is nested too deeply, inside so many parts. -/
def ClassSet.checkNesting (depth : Nat) : ClassSet → Except Refusal Unit
  | .item i => i.checkNesting depth
  | .op span _ left right => do
    checkDepth (depth + 1) span
    left.checkNesting (depth + 1)
    right.checkNesting (depth + 1)

/-- Refuses an item that is nested too deeply, inside so many parts. -/
def ClassItem.checkNesting (depth : Nat) : ClassItem → Except Refusal Unit
  | .bracketed span _ set => do
    checkDepth (depth + 1) span
    set.checkNesting (depth + 1)
  | .union span items => do
    checkDepth (depth + 1) span
    checkItems (depth + 1) items
  | _ => .ok ()

/-- Refuses items of which one is nested too deeply. -/
def checkItems (depth : Nat) : List ClassItem → Except Refusal Unit
  | [] => .ok ()
  | i :: rest => do
    i.checkNesting depth
    checkItems depth rest

end

mutual

/-- Refuses a form that is nested too deeply, inside so many parts. -/
def Form.checkNesting (depth : Nat) : Form → Except Refusal Unit
  | .bracketed span _ set => do
    checkDepth (depth + 1) span
    set.checkNesting (depth + 1)
  | .repetition span _ _ sub | .group span _ sub => do
    checkDepth (depth + 1) span
    sub.checkNesting (depth + 1)
  | .alternation span subs | .concat span subs => do
    checkDepth (depth + 1) span
    checkForms (depth + 1) subs
  | _ => .ok ()

/-- Refuses forms of which one is nested too deeply. -/
def checkForms (depth : Nat) : List Form → Except Refusal Unit
  | [] => .ok ()
  | f :: rest => do
    f.checkNesting depth
    checkForms depth rest

end

end OperatorShell.Pattern
