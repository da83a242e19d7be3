import OperatorShell.Document.Value

/-!
# Lines

A document is read line by line: headers of tables, entries, and lines with nothing to say.

* `readLine`: one line with its end.
* `readLines`: all lines.
-/

namespace OperatorShell.Document

/-- What a line says. -/
inductive Line where
  | nothing
  /-- A table begins. -/
  | header (names : List Text)
  /-- One more table of a list of tables begins. -/
  | element (names : List Text)
  | entry (names : List Text) (node : Node)

/-- One line with its end, from its first character that is no space. A line has at least one
character. -/
def readLine : Text → Option (Line × Text)
  | '[' :: '[' :: t => do
    let (names, t) ← readKey t
    let t ← readLineEnd (← expect ']' (← expect ']' t))
    return (.element names, t)
  | '[' :: t => do
    let (names, t) ← readKey t
    let t ← readLineEnd (← expect ']' t)
    return (.header names, t)
  | t => do
    if t.head? = some '#' then return (.nothing, ← readLineEnd t)
    match newline? t with
    | some t => return (.nothing, t)
    | none =>
      let (names, t) ← readKey t
      let (node, t) ← readValue (skipSpaces (← expect '=' t))
      return (.entry names node, ← readLineEnd t)

/-- All lines of a text, at most so many. -/
def readLinesWithin : Nat → Text → Option (List Line)
  | 0, _ => none
  | steps + 1, t =>
    match skipSpaces t with
    | [] => some []
    | t => do
      let (line, t) ← readLine t
      return line :: (← readLinesWithin steps t)

/-- The mark that may begin a text. -/
def byteOrderMark : Char := '\ufeff'

/-- All lines of a text. -/
def readLines (t : Text) : Option (List Line) :=
  let t := if t.head? = some byteOrderMark then t.tail else t
  readLinesWithin (t.length + 1) t

end OperatorShell.Document
