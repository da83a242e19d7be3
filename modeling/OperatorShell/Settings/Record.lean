import OperatorShell.Document
import OperatorShell.Text.Printable

/-!
# Records in a document

A record is read from a table, key by key in the order of the text, or from an array, value by value
in the order of its fields. Keys that a record does not know are passed over.

* `readText`, `readNatural`, `readFlag`, `readList`: plain values.
* `readRecord`: a record with its fields.
-/

namespace OperatorShell.Settings

open Document (Node Entries)

/-- Why a value is not what was asked for. -/
inductive ShapeError where
  | wrongKind (found wanted : Text)
  | negative (n : Int)
  | missing (field : Text)
  | tooShort (found : Nat) (wanted : Text)
  | unknownChoice (name : Text) (choices : List Text)
  /-- A choice that is not made by a name. -/
  | notChosen
  deriving DecidableEq, Repr

/-- A word between backticks. -/
def ticked (t : Text) : Text := '\x60' :: (t ++ ['\x60'])

/-- The wording of a shape's fault. -/
def ShapeError.message : ShapeError → Text
  | .wrongKind found wanted =>
    "invalid type: ".toList ++ found ++ ", expected ".toList ++ wanted
  | .negative n =>
    "invalid value: integer ".toList ++ ticked (Text.signedDecimal n) ++ ", expected u64".toList
  | .missing field => "missing field ".toList ++ ticked field
  | .tooShort found wanted =>
    "invalid length ".toList ++ Text.decimal found ++ ", expected ".toList ++ wanted
  | .unknownChoice name choices =>
    "unknown variant ".toList ++ ticked name ++ ", expected ".toList ++
      Text.intersperse " or ".toList (choices.map ticked)
  | .notChosen => "wanted string or table".toList

/-- What a value is, in a fault. -/
def describe : Node → Text
  | .text t => "string ".toList ++ Text.quoted t
  | .integer n => "integer ".toList ++ ticked (Text.signedDecimal n)
  | .real r => "floating point ".toList ++ ticked r.text
  | .boolean b => "boolean ".toList ++ ticked (if b then "true".toList else "false".toList)
  | .array _ | .tables _ => "sequence".toList
  | .moment | .table .. => "map".toList

/-- The fault of a value that is of another kind. -/
def wrongKind {α : Type} (node : Node) (wanted : String) : Except ShapeError α :=
  .error (.wrongKind (describe node) wanted.toList)

/-- A text. -/
def readText : Node → Except ShapeError Text
  | .text t => .ok t
  | node => wrongKind node "a string"

/-- An integer that is not negative. -/
def readNatural : Node → Except ShapeError Nat
  | .integer (.ofNat n) => .ok n
  | .integer n => .error (.negative n)
  | node => wrongKind node "u64"

/-- Yes or no. -/
def readFlag : Node → Except ShapeError Bool
  | .boolean b => .ok b
  | node => wrongKind node "a boolean"

/-- The values of a sequence. -/
def itemsOf? : Node → Option (List Node)
  | .array items => some items
  | .tables elements => some (elements.map (.table .headed))
  | _ => none

/-- A list of values of one kind. -/
def readList {α : Type} (read : Node → Except ShapeError α) (node : Node) :
    Except ShapeError (List α) :=
  match itemsOf? node with
  | some items => items.mapM read
  | none => wrongKind node "a sequence"

/-- One field of a record: its name, and how its value changes the record. -/
structure Field (ρ : Type) where
  name : Text
  read : Node → ρ → Except ShapeError ρ

/-- A field of a record, by the reader of its values and the change that a value makes. -/
def Field.of {ρ α : Type} (name : String) (read : Node → Except ShapeError α)
    (set : α → ρ → ρ) : Field ρ where
  name := name.toList
  read node r := (read node).map fun a => set a r

/-- Takes the value of one key. -/
def readKeyed {ρ : Type} (fields : List (Field ρ)) (r : ρ) (entry : Text × Node) :
    Except ShapeError ρ :=
  match fields.find? fun f => f.name = entry.1 with
  | some f => f.read entry.2 r
  | none => .ok r

/-- Takes values in the order of the fields. -/
def readInOrder {ρ : Type} : List (Field ρ) → ρ → List Node → Except ShapeError ρ
  | f :: fields, r, node :: nodes => do readInOrder fields (← f.read node r) nodes
  | _, r, _ => .ok r

/-- A record, from the one that has none of the values yet. -/
def readRecord {ρ : Type} (wanted : String) (fields : List (Field ρ)) (start : ρ) (node : Node) :
    Except ShapeError ρ :=
  match node with
  | .table _ es => es.foldlM (readKeyed fields) start
  | .moment => .ok start
  | node =>
    match itemsOf? node with
    | some items => readInOrder fields start items
    | none => wrongKind node wanted

end OperatorShell.Settings
