import OperatorShell.Pattern.Bracket
import OperatorShell.Pattern.Group

/-!
# Reading patterns

A pattern is read from left to right; groups that are open are kept on a stack. The first fault
counts, and only a pattern without one is looked at for its depth.

* `readForm`: the written form of a pattern.
-/

namespace OperatorShell.Pattern

/-- The innermost open group so far: the branches before the last bar, and the forms after it. -/
structure Level where
  start : Mark := {}
  /-- The last branch first. -/
  branches : List Form := []
  branchStart : Mark := {}
  /-- The last form first. -/
  forms : List Form := []

namespace Level

/-- A group from a place on. -/
def startingAt (m : Mark) : Level := { start := m, branchStart := m }

/-- Adds a form. -/
def push (l : Level) (f : Form) : Level := { l with forms := f :: l.forms }

/-- The branch that ends at a place. -/
def branch (l : Level) (stop : Mark) : Form :=
  .sequence ⟨l.branchStart, stop⟩ l.forms.reverse

/-- Ends a branch with the bar here. -/
def endBranch (l : Level) (c : Cursor) : Level :=
  { l with
    branches := l.branch c.mark :: l.branches
    branchStart := c.next.mark
    forms := [] }

/-- The form of a group that ends at a place. -/
def close (l : Level) (stop : Mark) : Form :=
  if l.branches.isEmpty then l.branch stop
  else .alternation ⟨l.start, stop⟩ (l.branch stop :: l.branches).reverse

end Level

/-- A group that is open: its parenthesis, its modes, and what is around it. -/
structure OpenGroup where
  span : Span
  flags : Option (List FlagItem)
  freeBlanks : Bool
  outer : Level

/-! ## Repetitions -/

/-- The last form, which a repetition here repeats, and the forms before it. -/
def takeRepeated (l : Level) (c : Cursor) : Except Refusal (Form × Level) :=
  match l.forms with
  | [] | .empty _ :: _ | .flags .. :: _ => refuse .nothingRepeated c.here
  | f :: forms => .ok (f, { l with forms })

/-- Past a question mark, which makes a repetition reluctant. -/
def skipReluctance (c : Cursor) : Cursor := if c.char? = some '?' then c.next else c

/-- The largest count of a repetition. -/
def maxCount : Nat := 0xFFFFFFFF

/-- A count, and the cursor after it and the blanks around it. -/
def readCount (c : Cursor) : Except Refusal Nat × Cursor :=
  let (_, c) := c.takeWhile Cursor.next Text.isBlank
  let start := c.mark
  let (digits, c) := c.takeWhile Cursor.advance fun d => (Text.decimalValue? d).isSome
  let span := c.since start
  let (_, c) := c.takeWhile Cursor.advance Text.isBlank
  let n := digits.foldl (fun n d => 10 * n + (Text.decimalValue? d).getD 0) 0
  if digits = [] then (refuse .countEmpty span, c)
  else if maxCount < n then (refuse .decimalInvalid span, c)
  else (.ok n, c)

/-- The counts in braces, from the brace on, and the cursor before the closing brace. -/
def readCounts (c : Cursor) : Except Refusal ((Nat × Option Nat) × Cursor) := do
  let start := c.mark
  let c := c.advance
  if c.atEnd then refuse .countUnclosed (c.since start)
  let (least, c) := readCount c
  if c.atEnd then refuse .countUnclosed (c.since start)
  if c.char? ≠ some ',' then
    let n ← least
    return ((n, some n), c)
  let c := c.advance
  if c.atEnd then refuse .countUnclosed (c.since start)
  if c.char? = some '\x7d' then return ((← least, none), c)
  let n ← least
  let (most, c) := readCount c
  return ((n, some (← most)), c)

/-- A repetition with counts. -/
def readCounted (l : Level) (c : Cursor) : Except Refusal (Level × Cursor) := do
  let start := c.mark
  let (sub, l) ← takeRepeated l c
  let ((least, most), c) ← readCounts c
  if c.char? ≠ some '\x7d' then refuse .countUnclosed (c.since start)
  let c := skipReluctance c.advance
  if most.any (· < least) then refuse .countRange (c.since start)
  return (l.push (.repetition (c.since sub.span.start) least most sub), c)

/-- A repetition without counts. -/
def readUncounted (l : Level) (c : Cursor) (least : Nat) (most : Option Nat) :
    Except Refusal (Level × Cursor) := do
  let (sub, l) ← takeRepeated l c
  let c := skipReluctance c.next
  return (l.push (.repetition (c.since sub.span.start) least most sub), c)

/-! ## All forms -/

/-- A form that begins with a character of no other meaning. -/
def readPrimitive (x : Char) (c : Cursor) : Except Refusal (Form × Cursor) :=
  match x with
  | '\\' => readEscape c
  | '[' => readBracketed c
  | '.' => .ok (.dot c.charSpan, c.next)
  | '^' => .ok (.assertion c.charSpan .startLine, c.next)
  | '$' => .ok (.assertion c.charSpan .endLine, c.next)
  | _ => .ok (.literal ⟨c.charSpan, x, false⟩, c.next)

/-- The state of the reader between two forms. -/
structure ReaderState where
  cursor : Cursor
  level : Level := {}
  /-- The innermost group first. -/
  groups : List OpenGroup := []
  names : GroupNames := []

/-- Reads what an opening parenthesis begins. -/
def ReaderState.openGroup (s : ReaderState) : Except Refusal ReaderState := do
  let (start, c) ← readGroupStart s.names s.cursor
  match start with
  | .flags span items =>
    let freeBlanks := (flagValue? items .freeBlanks).getD c.freeBlanks
    return { s with cursor := { c with freeBlanks }, level := s.level.push (.flags span items) }
  | .opened span flags names =>
    let group : OpenGroup := ⟨span, flags, c.freeBlanks, s.level⟩
    let freeBlanks := (flags.bind (flagValue? · .freeBlanks)).getD c.freeBlanks
    return ⟨{ c with freeBlanks }, .startingAt c.mark, group :: s.groups, names⟩

/-- Closes the innermost group. -/
def ReaderState.closeGroup (s : ReaderState) : Except Refusal ReaderState :=
  match s.groups with
  | [] => refuse .groupUnopened s.cursor.charSpan
  | g :: groups =>
    let c := { s.cursor.next with freeBlanks := g.freeBlanks }
    let form : Form := .group (c.since g.span.start) g.flags (s.level.close s.cursor.mark)
    .ok { s with cursor := c, level := g.outer.push form, groups }

/-- Reads one form that begins with a character. -/
def ReaderState.step (s : ReaderState) (x : Char) : Except Refusal ReaderState := do
  let update (result : Level × Cursor) : ReaderState :=
    { s with level := result.1, cursor := result.2 }
  let c := s.cursor
  if x = '(' then s.openGroup
  else if x = ')' then s.closeGroup
  else if x = '|' then return { s with level := s.level.endBranch c, cursor := c.next }
  else if x = '?' then return update (← readUncounted s.level c 0 (some 1))
  else if x = '*' then return update (← readUncounted s.level c 0 none)
  else if x = '+' then return update (← readUncounted s.level c 1 none)
  else if x = '\x7b' then return update (← readCounted s.level c)
  else
    let (f, c) ← readPrimitive x c
    return update (s.level.push f, c)

/-- Reads forms to the end of the pattern. The number bounds how many there are. -/
def readForms : Nat → ReaderState → Except Refusal Form
  | 0, s => refuse .groupUnclosed s.cursor.here
  | n + 1, s =>
    let s := { s with cursor := s.cursor.skipBlanks }
    match s.cursor.rest with
    | [] =>
      match s.groups with
      | [] => .ok (s.level.close s.cursor.mark)
      | g :: _ => refuse .groupUnclosed g.span
    | x :: _ => do readForms n (← s.step x)

/-- The written form of a pattern. -/
def readForm (pattern : Text) : Except Refusal Form := do
  let form ← readForms (pattern.length + 1) { cursor := { rest := pattern } }
  form.checkNesting 0
  return form

end OperatorShell.Pattern
