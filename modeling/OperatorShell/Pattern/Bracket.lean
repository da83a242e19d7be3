import OperatorShell.Pattern.Escape

/-!
# Brackets

A class in brackets is a set of characters: characters, ranges, escapes, named classes and further
brackets, joined to unions and combined by operators of two characters each, from left to right.

* `readBracketed`: the form of a class.
-/

namespace OperatorShell.Pattern

/-- A bracket that is open: the set before its last operator, and the items after that. -/
structure OpenBracket where
  /-- From the bracket to the first item. -/
  span : Span
  negated : Bool
  left : Option (ClassOp × ClassSet) := none
  itemSpan : Span
  /-- The last item first. -/
  items : List ClassItem := []

namespace OpenBracket

/-- Adds an item. -/
def push (o : OpenBracket) (i : ClassItem) : OpenBracket :=
  { o with
    itemSpan := if o.items.isEmpty then i.span else o.itemSpan.join i.span
    items := i :: o.items }

/-- The set so far. -/
def set (o : OpenBracket) : ClassSet :=
  let right : ClassSet := .item <|
    match o.items with
    | [] => .empty o.itemSpan
    | [i] => i
    | is => .union o.itemSpan is.reverse
  match o.left with
  | none => right
  | some (kind, left) => .op (left.span.join right.span) kind left right

/-- Begins the right side of an operator. -/
def pushOp (o : OpenBracket) (kind : ClassOp) (c : Cursor) : OpenBracket :=
  { o with left := some (kind, o.set), itemSpan := c.here, items := [] }

end OpenBracket

/-- Minuses at the start of a bracket, which stand for themselves. -/
def readMinuses (start : Mark) :
    Nat → Cursor → OpenBracket → Except Refusal (OpenBracket × Cursor)
  | 0, c, o => .ok (o, c)
  | n + 1, c, o =>
    if c.char? = some '-' then
      let o := o.push (.literal ⟨c.charSpan, '-', false⟩)
      if c.advance.atEnd then refuse .classUnclosed ⟨start, start⟩
      else readMinuses start n c.advance o
    else .ok (o, c)

/-- The start of a bracket: whether it is negated, and items that could not stand further in. -/
def openBracket (c : Cursor) : Except Refusal (OpenBracket × Cursor) := do
  let start := c.mark
  let c := c.advance
  if c.atEnd then refuse .classUnclosed (c.since start)
  let negated := c.char? = some '^'
  let c := if negated then c.advance else c
  if c.atEnd then refuse .classUnclosed (c.since start)
  let empty : OpenBracket := { span := c.since start, negated, itemSpan := c.here }
  let (o, c) ← readMinuses start c.rest.length c empty
  if o.items.isEmpty ∧ c.char? = some ']' then
    let o := o.push (.literal ⟨c.charSpan, ']', false⟩)
    let c := c.advance
    if c.atEnd then refuse .classUnclosed (c.since start)
    return ({ o with span := c.since start }, c)
  return ({ o with span := c.since start }, c)

/-- A named class of ASCII, if there is one here. -/
def readAsciiClass? (c : Cursor) : Option (ClassItem × Cursor) := do
  let start := c.mark
  let c ← c.pass? "[:".toList
  let negated := c.char? = some '^'
  let c := if negated then c.next else c
  let (name, c) := c.takeWhile Cursor.next (· ≠ ':')
  let c ← c.pass? ":]".toList
  let kind ← AsciiClass.ofName? name
  return (.ascii (c.since start) kind negated, c)

/-- One end of a range, or an item that is no range. -/
def readUnit (c : Cursor) : Except Refusal (Form × Cursor) :=
  match c.rest with
  | '\\' :: _ => readEscape c
  | x :: _ => .ok (.literal ⟨c.charSpan, x, false⟩, c.next)
  | [] => refuse .escapeEnd c.here

/-- A form as an item. -/
def itemOfForm : Form → Except Refusal ClassItem
  | .literal l => .ok (.literal l)
  | .perl span kind negated => .ok (.perl span kind negated)
  | .property span name => .ok (.property span name)
  | f => refuse .classEscape f.span

/-- A form as the end of a range. -/
def literalOfForm : Form → Except Refusal Literal
  | .literal l => .ok l
  | f => refuse .classRangeEnd f.span

/-- An item or a range in a bracket of which the start is `bracket`. A minus before another minus or
before the closing bracket makes no range. -/
def readRange (bracket : Span) (c : Cursor) : Except Refusal (ClassItem × Cursor) := do
  let (first, c) ← readUnit c
  let c := c.skipBlanks
  if c.atEnd then refuse .classUnclosed bracket
  let second := c.secondBlankless?
  if c.char? ≠ some '-' ∨ second = some ']' ∨ second = some '-' then
    return (← itemOfForm first, c)
  let c := c.advance
  if c.atEnd then refuse .classUnclosed bracket
  let (last, c) ← readUnit c
  let span := first.span.join last.span
  let a ← literalOfForm first
  let b ← literalOfForm last
  if b.char < a.char then refuse .classRange span
  return (.range span a b, c)

/-- The operator of two characters. -/
def classOp? : Char → Option ClassOp
  | '&' => some .intersection
  | '-' => some .difference
  | '~' => some .symmetricDifference
  | _ => none

/-- The operator that comes next. -/
def nextOp? (c : Cursor) : Option ClassOp := do
  let x ← c.char?
  if c.second? = some x then classOp? x else none

/-- Reads on in open brackets, of which `o` is the innermost, until the outermost is closed. -/
def readBrackets :
    Nat → Cursor → OpenBracket → List OpenBracket → Except Refusal (Form × Cursor)
  | 0, _, o, _ => refuse .classUnclosed o.span
  | n + 1, c, o, outer =>
    let c := c.skipBlanks
    match c.rest with
    | [] => refuse .classUnclosed o.span
    | '[' :: _ =>
      match readAsciiClass? c with
      | some (i, c) => readBrackets n c (o.push i) outer
      | none => do
        let (inner, c) ← openBracket c
        readBrackets n c inner (o :: outer)
    | ']' :: _ =>
      let span := c.next.since o.span.start
      match outer with
      | [] => .ok (.bracketed span o.negated o.set, c.next)
      | parent :: outer =>
        readBrackets n c.next (parent.push (.bracketed span o.negated o.set)) outer
    | _ =>
      match nextOp? c with
      | some kind =>
        let c := c.next.next
        readBrackets n c (o.pushOp kind c) outer
      | none => do
        let (i, c) ← readRange o.span c
        readBrackets n c (o.push i) outer

/-- The form of a class, from its bracket on. -/
def readBracketed (c : Cursor) : Except Refusal (Form × Cursor) := do
  let (o, after) ← openBracket c
  readBrackets (c.rest.length + 1) after o []

end OperatorShell.Pattern
