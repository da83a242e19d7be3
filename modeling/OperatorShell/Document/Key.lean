import OperatorShell.Document.Literal

/-!
# Keys

A key is a name or several joined by dots. A name that has other characters than letters, digits,
underscores and hyphens stands between quotes.

* `readKey`: the names of a key, spaces around them included.
-/

namespace OperatorShell.Document

/-- Characters of a name without quotes. -/
def isBareChar (c : Char) : Bool := c.isAlphanum || c = '_' || c = '-'

/-- One name. -/
def readName : Text → Option (Text × Text)
  | '"' :: t => readQuoted t
  | '\'' :: t => readVerbatim t
  | t =>
    let name := t.takeWhile isBareChar
    if name = [] then none else some (name, t.dropWhile isBareChar)

/-- The most names that a key can have, and the most arrays and tables around a value. -/
def depthLimit : Nat := 79

/-- The names of a key, at most so many. -/
def readNames : Nat → Text → Option (List Text × Text)
  | 0, _ => none
  | left + 1, t => do
    let (name, t) ← readName (skipSpaces t)
    match skipSpaces t with
    | '.' :: t =>
      let (names, t) ← readNames left t
      return (name :: names, t)
    | t => return ([name], t)

/-- The names of a key. -/
def readKey (t : Text) : Option (List Text × Text) := readNames depthLimit t

end OperatorShell.Document
