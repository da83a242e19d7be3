import OperatorShell.Document.Key
import OperatorShell.Document.Moment
import OperatorShell.Document.Numeral
import OperatorShell.Document.Table

/-!
# Values

* `readValue`: any value. Arrays may run over several lines; tables in braces may not.
-/

namespace OperatorShell.Document

/-- A word that stands for a value. -/
def readWord (word : Text) (node : Node) (t : Text) : Option (Node × Text) :=
  if word.isPrefixOf t then some (node, t.drop word.length) else none

/-- A number, a date or a time. -/
def readPlain (t : Text) : Option (Node × Text) :=
  if beginsMoment t then (readMoment t).map fun t => (.moment, t) else readNumber t

mutual

/-- A value. The first number bounds the steps, the second the brackets and braces still allowed. -/
def readValueWithin : Nat → Nat → Text → Option (Node × Text)
  | 0, _, _ => none
  | _, _, [] => none
  | steps + 1, depth, c :: t =>
    if c = '"' ∨ c = '\'' then (readText (c :: t)).map fun (text, t) => (.text text, t)
    else if c = '[' then
      if depth = 0 then none
      else (readItems steps (depth - 1) t).map fun (items, t) => (.array items, t)
    else if c = '\x7b' then
      if depth = 0 then none
      else
        match skipSpaces t with
        | '\x7d' :: t => some (.table .inline [], t)
        | t => (readFields steps (depth - 1) [] t).map fun (es, t) => (.table .inline es, t)
    else if c = 't' then readWord "true".toList (.boolean true) (c :: t)
    else if c = 'f' then readWord "false".toList (.boolean false) (c :: t)
    else readPlain (c :: t)

/-- The values of an array after its opening bracket or after a comma. -/
def readItems : Nat → Nat → Text → Option (List Node × Text)
  | 0, _, _ => none
  | steps + 1, depth, t =>
    match skipBlankLines false t with
    | ']' :: t => some ([], t)
    | t => do
      let (item, t) ← readValueWithin steps depth t
      match skipBlankLines false t with
      | ']' :: t => return ([item], t)
      | ',' :: t =>
        let (items, t) ← readItems steps depth t
        return (item :: items, t)
      | _ => none

/-- The entries of a table in braces after its opening brace or after a comma. -/
def readFields : Nat → Nat → Entries → Text → Option (Entries × Text)
  | 0, _, _, _ => none
  | steps + 1, depth, es, t => do
    let (names, t) ← readKey t
    let t ← expect '=' t
    let (node, t) ← readValueWithin steps depth (skipSpaces t)
    let es ← insert .inline es names node
    match skipSpaces t with
    | '\x7d' :: t => return (es, t)
    | ',' :: t => readFields steps depth es t
    | _ => none

end

/-- A value. Of any two steps one reads a character, so the bound is never met. -/
def readValue (t : Text) : Option (Node × Text) := readValueWithin (2 * t.length + 1) depthLimit t

end OperatorShell.Document
