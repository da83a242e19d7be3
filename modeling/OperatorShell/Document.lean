import OperatorShell.Document.Line

/-!
# Documents

A text is read as lines first; the lines are then put together into one table. The table under a
header is completed before it takes its place, which is after all entries that are there by then.

* `Document.parse`: the table of a text, absent when the text is malformed.
-/

namespace OperatorShell.Document

/-- Where the table that is being filled will stand. -/
inductive Target where
  | root
  | table (path : List Text) (key : Text)
  | element (path : List Text) (key : Text)

/-- A document that is being put together: what is complete, and the table that is being filled. -/
structure Draft where
  root : Entries := []
  current : Entries := []
  target : Target := .root

/-- Takes out the table of a key to go on with it. Only a table that is merely implied can be gone
on with. -/
def takeImplied (key : Text) : Change Entries := fun _ es =>
  match es.get? key with
  | none => some (es, [])
  | some (.table .implied sub) => some (es.erase key, sub)
  | some _ => none

/-- Makes sure that a key has a list of tables. -/
def ensureTables (key : Text) : Change Unit := fun _ es =>
  match es.get? key with
  | none => some (es.set key (.tables []), ())
  | some (.tables _) => some (es, ())
  | some _ => none

/-- Puts a completed table at a key. -/
def placeTable (key : Text) (table : Entries) : Change Unit := fun _ es =>
  some (es.set key (.table .headed table), ())

/-- Puts a completed table at the end of a key's list of tables. -/
def placeElement (key : Text) (table : Entries) : Change Unit := fun _ es =>
  match es.get? key with
  | some (.tables elements) => some (es.set key (.tables (elements ++ [table])), ())
  | _ => none

namespace Draft

/-- Puts the table that is being filled in its place. -/
def finish (d : Draft) : Option Entries :=
  match d.target with
  | .root => some d.current
  | .table path key => (descend false (placeTable key d.current) path .headed d.root).map (·.1)
  | .element path key => (descend false (placeElement key d.current) path .headed d.root).map (·.1)

/-- Takes one line. -/
def take (d : Draft) : Line → Option Draft
  | .nothing => some d
  | .entry names node => do
    let current ← insert .headed d.current names node
    return { d with current }
  | .header names => do
    let (path, key) ← splitLast names
    let root ← d.finish
    let (root, current) ← descend false (takeImplied key) path .headed root
    return ⟨root, current, .table path key⟩
  | .element names => do
    let (path, key) ← splitLast names
    let root ← d.finish
    let (root, _) ← descend false (ensureTables key) path .headed root
    return ⟨root, [], .element path key⟩

end Draft

/-- The table of a text. -/
def parse (t : Text) : Option Entries := do
  let lines ← readLines t
  let draft ← lines.foldlM Draft.take {}
  draft.finish

end OperatorShell.Document
