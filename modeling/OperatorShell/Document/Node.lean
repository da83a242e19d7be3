import OperatorShell.Number.Binary64

/-!
# Documents as trees

A settings document is a table: keys with values in the order of the text. Tables remember how they
were written, because that decides what a later line may add to them.

* `Entries.get?`, `Entries.set`, `Entries.erase`: the operations on a table's entries.
-/

namespace OperatorShell.Document

/-- A number with a fraction or an exponent. -/
inductive Real where
  | finite (negative : Bool) (magnitude : Binary64)
  | infinite (negative : Bool)
  | notANumber
  deriving DecidableEq, Repr

/-- A number as text; without an exponent, and with a fraction even if it is zero. -/
def Real.text : Real → Text
  | .finite negative magnitude => (if negative then ['-'] else []) ++ magnitude.positional
  | .infinite negative => (if negative then ['-'] else []) ++ "inf".toList
  | .notANumber => "NaN".toList

/-- How a table was written. -/
inductive TableKind where
  /-- Under a header of its own, or as the document itself. -/
  | headed
  /-- Only as a part of the header of another table. -/
  | implied
  /-- By keys with dots. -/
  | dotted
  /-- Between braces. -/
  | inline
  deriving DecidableEq, Repr

/-- A value. -/
inductive Node where
  | text (t : Text)
  | integer (n : Int)
  | real (r : Real)
  | boolean (b : Bool)
  /-- A date, a time or both; nothing asks for its parts. -/
  | moment
  /-- Values between brackets. -/
  | array (items : List Node)
  | table (kind : TableKind) (entries : List (Text × Node))
  /-- Tables under repeated headers. -/
  | tables (items : List (List (Text × Node)))

/-- The entries of a table, in order. -/
abbrev Entries := List (Text × Node)

namespace Entries

/-- The value of a key. -/
def get? (es : Entries) (key : Text) : Option Node := (es.find? fun e => e.1 = key).map (·.2)

/-- Puts a value in the place of a key's value, or at the end. -/
def set : Entries → Text → Node → Entries
  | [], key, node => [(key, node)]
  | (k, n) :: rest, key, node =>
    if k = key then (key, node) :: rest else (k, n) :: set rest key node

/-- The entries without a key. -/
def erase (es : Entries) (key : Text) : Entries := es.filter fun e => e.1 ≠ key

end Entries

end OperatorShell.Document
