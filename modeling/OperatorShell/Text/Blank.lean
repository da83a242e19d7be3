import OperatorShell.Text.Basic

/-!
# Blanks and words

A character is blank when it has the Unicode property White_Space. Words are maximal runs of
characters that are not blank.

* `trimStart`, `trimEnd`, `trim`: a text without the blanks at its ends.
* `firstWord?`: the first word of a text, absent when all of it is blank.
-/

namespace OperatorShell.Text

/-- The Unicode property White_Space. -/
def isBlank (c : Char) : Bool :=
  let n := c.toNat
  (0x09 ≤ n && n ≤ 0x0D) || n == 0x20 || n == 0x85 || n == 0xA0 || n == 0x1680 ||
    (0x2000 ≤ n && n ≤ 0x200A) || n == 0x2028 || n == 0x2029 || n == 0x202F || n == 0x205F ||
    n == 0x3000

/-- A text of which every character is blank. -/
def isAllBlank (t : Text) : Bool := t.all isBlank

/-- The text from its first character that is not blank. -/
def trimStart (t : Text) : Text := t.dropWhile isBlank

/-- The text up to its last character that is not blank. -/
def trimEnd (t : Text) : Text := (t.reverse.dropWhile isBlank).reverse

/-- The text without the blanks at either end. -/
def trim (t : Text) : Text := trimEnd (trimStart t)

/-- The longest start of the text without a blank. -/
def leadingWord (t : Text) : Text := t.takeWhile fun c => !isBlank c

/-- The first word of the text. -/
def firstWord? (t : Text) : Option Text :=
  match trimStart t with
  | [] => none
  | c :: rest => some (leadingWord (c :: rest))

end OperatorShell.Text
