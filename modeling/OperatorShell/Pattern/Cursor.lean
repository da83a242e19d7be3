import OperatorShell.Pattern.Form
import OperatorShell.Text.Blank

/-!
# Cursors

A cursor stands somewhere in a pattern. In the mode of free blanks it passes over blanks, and over
comments that go from a number sign to the end of the line.

* `Cursor.next`: past one character.
* `Cursor.advance`: past one character and what may be passed over after it.
-/

namespace OperatorShell.Pattern

/-- The rest of a pattern, its place, and whether blanks in it are free. -/
structure Cursor where
  rest : Text
  mark : Mark := {}
  freeBlanks : Bool := false

/-- Refuses a pattern for a fault. -/
def refuse {α : Type} (fault : Fault) (span : Span) (earlier : Option Span := none) :
    Except Refusal α := .error ⟨fault, span, earlier⟩

/-- Passes over blanks and comments. -/
def passBlanks (inComment : Bool) (m : Mark) : Text → Text × Mark
  | [] => ([], m)
  | c :: t =>
    if inComment then passBlanks (c ≠ '\n') (m.after c) t
    else if Text.isBlank c then passBlanks false (m.after c) t
    else if c = '#' then passBlanks true (m.after c) t
    else (c :: t, m)

namespace Cursor

/-- Past one character. -/
def next (c : Cursor) : Cursor :=
  match c.rest with
  | [] => c
  | x :: rest => { c with rest, mark := c.mark.after x }

/-- Past free blanks. -/
def skipBlanks (c : Cursor) : Cursor :=
  if c.freeBlanks then
    let (rest, mark) := passBlanks false c.mark c.rest
    { c with rest, mark }
  else c

/-- Past one character, and past free blanks after it. -/
def advance (c : Cursor) : Cursor := c.next.skipBlanks

/-- Whether the pattern ends here. -/
def atEnd (c : Cursor) : Bool := c.rest.isEmpty

/-- The next character. -/
def char? (c : Cursor) : Option Char := c.rest.head?

/-- The character after the next. -/
def second? (c : Cursor) : Option Char := c.rest.tail.head?

/-- The character after the next that is not passed over. A comment hides no more than its number
sign here. -/
def secondBlankless? (c : Cursor) : Option Char :=
  if c.freeBlanks then
    match Text.trimStart c.rest.tail with
    | [] => c.second?
    | '#' :: t =>
      match Text.trimStart t with
      | [] => c.second?
      | x :: _ => some x
    | x :: _ => some x
  else c.second?

/-- The empty part here. -/
def here (c : Cursor) : Span := ⟨c.mark, c.mark⟩

/-- The part of the next character. -/
def charSpan (c : Cursor) : Span := ⟨c.mark, c.next.mark⟩

/-- The part from a place to here. -/
def since (c : Cursor) (start : Mark) : Span := ⟨start, c.mark⟩

/-- Past a text, if it comes next. -/
def pass? (c : Cursor) : Text → Option Cursor
  | [] => some c
  | x :: t => if c.char? = some x then c.next.pass? t else none

/-- The characters from here on that satisfy a condition; `go` leads past each of them. The number
bounds how many there are. -/
def takeUpTo (go : Cursor → Cursor) (p : Char → Bool) : Nat → Cursor → Text × Cursor
  | 0, c => ([], c)
  | n + 1, c =>
    match c.rest with
    | [] => ([], c)
    | x :: _ =>
      if p x then
        let (t, c) := takeUpTo go p n (go c)
        (x :: t, c)
      else ([], c)

/-- The characters from here on that satisfy a condition; `go` leads past each of them. -/
def takeWhile (go : Cursor → Cursor) (p : Char → Bool) (c : Cursor) : Text × Cursor :=
  takeUpTo go p c.rest.length c

end Cursor

end OperatorShell.Pattern
