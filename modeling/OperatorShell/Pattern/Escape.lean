import OperatorShell.Pattern.Cursor

/-!
# Escapes

A backslash takes the meaning from a character that has one, and gives a meaning to some letters.

* `readEscape`: the form of an escape.
-/

namespace OperatorShell.Pattern

/-- Characters that mean something in patterns. -/
def hasMeaning (c : Char) : Bool := "\\.+*?()|[]\x7b\x7d^$#&-~".toList.contains c

/-- Characters that stand for themselves after a backslash. -/
def isPlainEscape (c : Char) : Bool :=
  hasMeaning c || (c.toNat < 0x80 && !c.isAlphanum && c ≠ '<' && c ≠ '>')

/-- The control character of a letter after a backslash. -/
def controlEscape? : Char → Option Char
  | 'a' => some '\x07'
  | 'f' => some '\x0c'
  | 't' => some '\t'
  | 'n' => some '\n'
  | 'r' => some '\r'
  | 'v' => some '\x0b'
  | _ => none

/-- The assertion of a character after a backslash. -/
def assertionEscape? : Char → Option Assertion
  | 'A' => some .startText
  | 'z' => some .endText
  | 'b' => some (.word .edge)
  | 'B' => some (.word .noEdge)
  | '<' => some (.word .start)
  | '>' => some (.word .stop)
  | _ => none

/-- The class of a letter after a backslash, and whether it is negated. -/
def perlEscape? : Char → Option (AsciiClass × Bool)
  | 'd' => some (.digit, false)
  | 's' => some (.space, false)
  | 'w' => some (.word, false)
  | 'D' => some (.digit, true)
  | 'S' => some (.space, true)
  | 'W' => some (.word, true)
  | _ => none

/-! ## Hexadecimal escapes -/

/-- Whether a character is a hexadecimal digit. -/
def isHexDigit (c : Char) : Bool := (Text.hexValue? c).isSome

/-- The character whose code point is written in hexadecimal digits. -/
def hexChar? (digits : Text) : Option Char :=
  let n := digits.foldl (fun n d => 16 * n + (Text.hexValue? d).getD 0) 0
  if h : n.isValidChar then some (Char.ofNatAux n h) else none

/-- So many hexadecimal digits. -/
def readHexDigits : Nat → Cursor → Except Refusal (Text × Cursor)
  | 0, c => .ok ([], c)
  | n + 1, c =>
    match c.rest with
    | [] => refuse .escapeEnd c.here
    | d :: _ =>
      if isHexDigit d then do
        let (ds, c) ← readHexDigits n c.advance
        return (d :: ds, c)
      else refuse .hexDigit c.charSpan

/-- Hexadecimal digits up to a brace; the cursor stands before the character in front of them. -/
def readBracedDigits (brace : Mark) : Nat → Cursor → Except Refusal (Text × Cursor)
  | 0, c => refuse .escapeEnd (c.since brace)
  | n + 1, c =>
    let c := c.advance
    match c.rest with
    | [] => refuse .escapeEnd (c.since brace)
    | d :: _ =>
      if d = '\x7d' then .ok ([], c)
      else if isHexDigit d then do
        let (ds, c) ← readBracedDigits brace n c
        return (d :: ds, c)
      else refuse .hexDigit c.charSpan

/-- A character in hexadecimal, from its letter on; `start` is before the backslash. -/
def readHex (start : Mark) (letter : Char) (c : Cursor) : Except Refusal (Form × Cursor) :=
  let c := c.advance
  match c.rest with
  | [] => refuse .escapeEnd c.here
  | d :: _ =>
    if d = '\x7b' then do
      let brace := c.mark
      let first := c.next.mark
      let (digits, c) ← readBracedDigits brace (c.rest.length + 1) c
      let after := c.advance
      if digits = [] then refuse .hexEmpty (after.since brace)
      else
        match hexChar? digits with
        | none => refuse .hexInvalid (c.since first)
        | some x => return (.literal ⟨after.since start, x, false⟩, after)
    else do
      let first := c.mark
      let count := if letter = 'x' then 2 else if letter = 'u' then 4 else 8
      let (digits, c) ← readHexDigits count c
      match hexChar? digits with
      | none => refuse .hexInvalid (c.since first)
      | some x => return (.literal ⟨c.since start, x, letter = 'x'⟩, c)

/-! ## Properties -/

/-- A property of characters, from its letter on; `start` is before the backslash. -/
def readProperty (start : Mark) (c : Cursor) : Except Refusal (Form × Cursor) :=
  let c := c.advance
  match c.rest with
  | [] => refuse .escapeEnd c.here
  | '\\' :: _ => refuse .propertyInvalid c.charSpan
  | d :: _ =>
    if d = '\x7b' then
      let (name, c) := c.advance.takeWhile Cursor.advance (· ≠ '\x7d')
      if c.atEnd then refuse .escapeEnd c.here
      else .ok (.property (c.next.since start) name, c.next)
    else .ok (.property (c.advance.since start) [d], c.advance)

/-! ## Edges of words -/

/-- The edge of a name in braces after `\b`. -/
def edgeOfName? (name : Text) : Option WordEdge :=
  if name = "start".toList then some .start
  else if name = "end".toList then some .stop
  else if name = "start-half".toList then some .startHalf
  else if name = "end-half".toList then some .stopHalf
  else none

/-- Characters in the names of edges. -/
def isEdgeChar (c : Char) : Bool := c.isAlpha || c = '-'

/-- A name in braces after `\b`, if it is one and not a count; `start` is before the backslash. -/
def readEdge? (start : Mark) (c : Cursor) : Except Refusal (Option (WordEdge × Cursor)) :=
  let inside := c.advance
  match inside.rest with
  | [] => refuse .edgeEnd (inside.since start)
  | d :: _ =>
    if isEdgeChar d then
      let (name, after) := inside.takeWhile Cursor.advance isEdgeChar
      if after.char? = some '\x7d' then
        match edgeOfName? name with
        | some e => .ok (some (e, after.next))
        | none => refuse .edgeUnknown (after.since inside.mark)
      else refuse .edgeUnclosed (after.since c.mark)
    else .ok none

/-! ## All escapes -/

/-- The form of an assertion after a backslash. The edge of a word may have a name after it. -/
def readAssertion (start : Mark) (a : Assertion) (c : Cursor) :
    Except Refusal (Form × Cursor) := do
  if a = .word .edge ∧ c.char? = some '\x7b' then
    match ← readEdge? start c with
    | some (e, c) => return (.assertion (c.since start) (.word e), c)
    | none => return (.assertion (c.since start) a, c)
  else return (.assertion (c.since start) a, c)

/-- The form of an escape, from its backslash on. -/
def readEscape (c : Cursor) : Except Refusal (Form × Cursor) :=
  let start := c.mark
  let c := c.next
  match c.rest with
  | [] => refuse .escapeEnd (c.since start)
  | x :: _ =>
    let after := c.next
    let span := after.since start
    if x.isDigit then refuse .backreference span
    else if x = 'x' || x = 'u' || x = 'U' then readHex start x c
    else if x = 'p' || x = 'P' then readProperty start c
    else
      match perlEscape? x, controlEscape? x, assertionEscape? x with
      | some (kind, negated), _, _ => .ok (.perl span kind negated, after)
      | _, some control, _ => .ok (.literal ⟨span, control, false⟩, after)
      | _, _, some a => readAssertion start a after
      | none, none, none =>
        if isPlainEscape x then .ok (.literal ⟨span, x, false⟩, after)
        else refuse .escapeUnknown span

end OperatorShell.Pattern
