import OperatorShell.Text.Numeral
import OperatorShell.Text.Utf8

/-!
# Blanks, comments and ends of lines

* `skipSpaces`, `skipBlankLines`: what may stand between the parts of a line, and between the values
  of an array.
* `readLineEnd`: what may stand after a line's last part.
-/

namespace OperatorShell.Document

/-- A space or a tab. -/
def isSpace (c : Char) : Bool := c = ' ' || c = '\t'

/-- Characters of a comment: everything but the controls, of which the tab is allowed. -/
def isCommentChar (c : Char) : Bool :=
  c = '\t' || (0x20 ≤ c.toNat && c.toNat ≠ 0x7F)

/-- The text after spaces and tabs. -/
def skipSpaces (t : Text) : Text := t.dropWhile isSpace

/-- The text after a newline, which may have a carriage return before it. -/
def newline? : Text → Option Text
  | '\n' :: rest => some rest
  | '\r' :: '\n' :: rest => some rest
  | _ => none

/-- The text after a comment, if there is one. -/
def skipComment : Text → Text
  | '#' :: rest => rest.dropWhile isCommentChar
  | t => t

/-- The text after the end of a line: a newline, or the end of all text. -/
def lineEnd? : Text → Option Text
  | [] => some []
  | t => newline? t

/-- The text after the rest of a line that holds no more than a comment. -/
def readLineEnd (t : Text) : Option Text := lineEnd? (skipComment (skipSpaces t))

/-- The text after spaces, newlines and comments; `comment` tells whether a comment is open. -/
def skipBlankLines (comment : Bool) : Text → Text
  | [] => []
  | '\r' :: '\n' :: rest => skipBlankLines false rest
  | c :: rest =>
    if c = '\n' then skipBlankLines false rest
    else if comment && isCommentChar c then skipBlankLines true rest
    else if isSpace c then skipBlankLines false rest
    else if c = '#' then skipBlankLines true rest
    else c :: rest

end OperatorShell.Document
