import OperatorShell.Pattern.Cursor
import OperatorShell.Text.Letter

/-!
# Groups

A parenthesis begins a group, which may have a name or modes of its own, or sets modes for the rest
of the group around it.

* `readGroupStart`: what a parenthesis begins.
-/

namespace OperatorShell.Pattern

/-- The names of groups so far, with their places. -/
abbrev GroupNames := List (Text × Span)

/-- What a parenthesis begins. -/
inductive GroupStart where
  /-- A group, with its modes if it has any of its own. -/
  | opened (span : Span) (flags : Option (List FlagItem)) (names : GroupNames)
  /-- Modes for what follows. -/
  | flags (span : Span) (items : List FlagItem)

/-! ## Modes -/

/-- The mode of a letter. -/
def flagOfChar? : Char → Option Flag
  | 'i' => some .caseless
  | 'm' => some .multiLine
  | 's' => some .dotAll
  | 'U' => some .swapGreed
  | 'u' => some .unicode
  | 'R' => some .carriageReturn
  | 'x' => some .freeBlanks
  | _ => none

/-- Modes up to a colon or parenthesis; `items` are those so far, the last first. -/
def readFlagItems (items : List FlagItem) :
    Nat → Cursor → Except Refusal (List FlagItem × Cursor)
  | 0, c => refuse .flagEnd c.here
  | n + 1, c =>
    match c.rest with
    | [] => refuse .flagEnd c.here
    | x :: _ =>
      if x = ':' || x = ')' then
        match items with
        | ⟨span, none⟩ :: _ => refuse .flagDangling span
        | _ => .ok (items.reverse, c)
      else
        let flag := flagOfChar? x
        if x ≠ '-' ∧ flag = none then refuse .flagUnknown c.charSpan
        else
          match items.find? fun i => i.flag = flag with
          | some earlier =>
            refuse (if flag = none then .flagNegatedTwice else .flagDuplicate) c.charSpan
              earlier.span
          | none => readFlagItems (⟨c.charSpan, flag⟩ :: items) n c.next

/-! ## Names -/

/-- Characters in the name of a group. -/
def isNameChar (isFirst : Bool) (c : Char) : Bool :=
  c = '_' || Text.isLetter c ||
    (!isFirst && (Text.isNumber c || c = '.' || c = '[' || c = ']'))

/-- The characters of a name up to an angle bracket. -/
def readNameChars (isFirst : Bool) : Nat → Cursor → Except Refusal (Text × Cursor)
  | 0, c => refuse .nameEnd c.here
  | n + 1, c =>
    match c.rest with
    | [] => refuse .nameEnd c.here
    | x :: _ =>
      if x = '>' then .ok ([], c)
      else if isNameChar isFirst x then do
        let (t, c) ← readNameChars false n c.next
        return (x :: t, c)
      else refuse .nameInvalid c.charSpan

/-- The name of a group, which no group before it has. -/
def readName (names : GroupNames) (c : Cursor) : Except Refusal (GroupNames × Cursor) := do
  let start := c.mark
  let (name, c) ← readNameChars true (c.rest.length + 1) c
  if name = [] then refuse .nameEmpty ⟨start, start⟩
  let span := c.since start
  match names.find? fun n => n.1 = name with
  | some earlier => refuse .nameDuplicate span earlier.2
  | none => return ((name, span) :: names, c.next)

/-! ## Starts -/

/-- The starts of groups that look at what is around them. -/
def lookArounds : List Text := ["?=".toList, "?!".toList, "?<=".toList, "?<!".toList]

/-- The starts of groups that have a name. -/
def nameStarts : List Text := ["?P<".toList, "?<".toList]

/-- What the parenthesis here begins. -/
def readGroupStart (names : GroupNames) (c : Cursor) : Except Refusal (GroupStart × Cursor) := do
  let opening := c.charSpan
  let c := c.advance
  match lookArounds.findSome? c.pass? with
  | some c => refuse .lookAround (c.since opening.start)
  | none =>
    match nameStarts.findSome? c.pass? with
    | some c =>
      let (names, c) ← readName names c
      return (.opened opening none names, c)
    | none =>
      if c.char? ≠ some '?' then return (.opened opening none names, c)
      let inside := c.next
      if inside.atEnd then refuse .groupUnclosed opening
      let (items, after) ← readFlagItems [] (inside.rest.length + 1) inside
      if after.char? = some ':' then return (.opened opening (some items) names, after.next)
      if items.isEmpty then refuse .nothingRepeated c.here
      return (.flags (after.next.since opening.start) items, after.next)

end OperatorShell.Pattern
