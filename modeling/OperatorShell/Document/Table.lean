import OperatorShell.Document.Node

/-!
# Adding to tables

Tables grow entry by entry. A key with dots leads through tables that it may have to make, but never
into one that was completed elsewhere.

* `descend`: changes the table at the end of a path.
* `insert`: adds one entry.
-/

namespace OperatorShell.Document

/-- A change to the entries of a table of a kind, with a result. -/
abbrev Change (α : Type) := TableKind → Entries → Option (Entries × α)

/-- Changes the table at the end of a path. Tables that are missing on the way are made. A path of
dots stays out of tables that were written otherwise, and no path leads through a plain value or
into braces. -/
def descend {α : Type} (dots : Bool) (change : Change α) : List Text → Change α
  | [], kind, es => change kind es
  | key :: path, _, es =>
    match es.get? key with
    | none =>
      let kind := if dots then .dotted else .implied
      (descend dots change path kind []).map fun (sub, a) => (es.set key (.table kind sub), a)
    | some (.table kind sub) =>
      if kind = .inline || (dots && kind = .headed) then none
      else (descend dots change path kind sub).map fun (sub, a) => (es.set key (.table kind sub), a)
    | some (.tables elements) =>
      match elements.getLast? with
      | none => none
      | some last =>
        (descend dots change path .headed last).map fun (last, a) =>
          (es.set key (.tables (elements.dropLast ++ [last])), a)
    | some _ => none

/-- Adds an entry with a new key to a table. One that is reached by a path of dots has to be written
by such paths altogether. -/
def addEntry (byDots : Bool) (key : Text) (node : Node) : Change Unit := fun kind es =>
  if decide (kind = .dotted) != byDots then none
  else if (es.get? key).isSome then none
  else some (es.set key node, ())

/-- The names of a key before its last, and its last. -/
def splitLast : List Text → Option (List Text × Text)
  | [] => none
  | names => names.getLast?.map (names.dropLast, ·)

/-- Adds the entry of a key to a table of a kind. -/
def insert (kind : TableKind) (es : Entries) (names : List Text) (node : Node) :
    Option Entries := do
  let (path, key) ← splitLast names
  let (es, _) ← descend true (addEntry (!path.isEmpty) key node) path kind es
  return es

end OperatorShell.Document
