import OperatorShell.Text.Numeral

/-!
# Hosts

A host is a numeric address, of four bytes or of eight groups of two bytes.

* `Host.ofText?`: the host of a numeric address in any notation.
* `Host.fromDots?`: four bytes between dots; the last of fewer numbers stands for the bytes left.
* `Host.fromColons?`: eight groups between colons; two colons stand for a run of zeros.
* `Host.isName`: whether a text could be the name of a host.
-/

namespace OperatorShell

/-- A host: a number of four bytes, or eight groups with the interface they hold for. -/
inductive Host where
  | short (address : Nat)
  | long (groups : List Nat) (scope : Nat)
  deriving DecidableEq, Repr

namespace Host

/-! ## Four bytes -/

/-- The value of digits in a base. -/
def readDigits? (base : Nat) (t : Text) : Option Nat :=
  t.foldlM (fun n c => do
    let d ← Text.hexValue? c
    if d < base then some (base * n + d) else none) 0

/-- A number in base 16 after `0x`, in base 8 after another zero, and in base 10 otherwise. -/
def readNumber? : Text → Option Nat
  | [] => none
  | '0' :: x :: t =>
    if (x = 'x' ∨ x = 'X') ∧ t ≠ [] then readDigits? 16 t else readDigits? 8 (x :: t)
  | t => readDigits? 10 t

/-- Numbers put together to an address, of which `room` bytes are left. Every number but the last
fills one byte. -/
def fill? (room value : Nat) : List Nat → Option Nat
  | [] => none
  | [n] =>
    let size := Nat.pow 256 room
    if n < size then some (size * value + n) else none
  | n :: rest => if 1 < room ∧ n < 256 then fill? (room - 1) (256 * value + n) rest else none

/-- The host of numbers between dots. -/
def fromDots? (t : Text) : Option Host := do
  let numbers ← (Text.splitOn '.' t).mapM readNumber?
  let address ← fill? 4 0 numbers
  return .short address

/-! ## Eight groups -/

/-- A byte in base 10, without padding. -/
def readByte? (t : Text) : Option Nat := do
  let n ← readDigits? 10 t
  if n < 256 ∧ t = Text.decimal n then some n else none

/-- A group of up to four digits in base 16. -/
def readGroup? (t : Text) : Option Nat :=
  if t = [] ∨ 4 < t.length then none else readDigits? 16 t

/-- What ends an address: a group, or four bytes between dots, which make two. -/
def readEnd? (t : Text) : Option (List Nat) :=
  match (Text.splitOn '.' t).mapM readByte? with
  | some [a, b, c, d] => some [256 * a + b, 256 * c + d]
  | _ => (readGroup? t).map ([·])

/-- The groups between colons, of which only those that end an address may be bytes. -/
def readGroups? (atEnd : Bool) : List Text → Option (List Nat)
  | [] => some []
  | [t] => if atEnd then readEnd? t else (readGroup? t).map ([·])
  | t :: rest => do
    let group ← readGroup? t
    let groups ← readGroups? atEnd rest
    return group :: groups

/-- A text cut at the first two colons in a row; `seen` is what was passed, last first. -/
def cutAtGap? (seen : Text) : Text → Option (Text × Text)
  | [] => none
  | ':' :: ':' :: t => some (seen.reverse, t)
  | c :: t => cutAtGap? (c :: seen) t

/-- The texts between colons. An empty text has none. -/
def betweenColons (t : Text) : List Text := if t = [] then [] else Text.splitOn ':' t

/-- The eight groups of an address. -/
def groups? (t : Text) : Option (List Nat) :=
  match cutAtGap? [] t with
  | none => do
    let groups ← readGroups? true (betweenColons t)
    if groups.length = 8 then some groups else none
  | some (before, after) => do
    let first ← readGroups? false (betweenColons before)
    let last ← readGroups? true (betweenColons after)
    let missing := 8 - (first.length + last.length)
    if 0 < missing then some (first ++ List.replicate missing 0 ++ last) else none

/-- The largest number of an interface. -/
def maxScope : Nat := 0xFFFFFFFF

/-- The host of groups between colons, with the number of an interface after a percent sign. -/
def fromColons? (t : Text) : Option Host := do
  let groups ← groups? (t.takeWhile (· ≠ '%'))
  match t.dropWhile (· ≠ '%') with
  | [] => return .long groups 0
  | _ :: scope =>
    let n ← readDigits? 10 scope
    if scope ≠ [] ∧ n ≤ maxScope then some (.long groups n) else none

/-- The host of a numeric address. -/
def ofText? (t : Text) : Option Host := fromDots? t <|> fromColons? t

/-! ## Names -/

/-- The most characters between two dots of a name. -/
def maxLabel : Nat := 63

/-- The most characters of a name. -/
def maxName : Nat := 253

/-- Characters of a name between its dots. -/
def isLabelChar (c : Char) : Bool := c.isAlphanum || c = '-' || c = '_'

/-- Whether a text can stand between the dots of a name. -/
def isLabel (t : Text) : Bool := t ≠ [] && t.length ≤ maxLabel && t.all isLabelChar

/-- A name without the dot at its end. -/
def dropEndDot (t : Text) : Text := if t.getLast? = some '.' then t.dropLast else t

/-- Whether a text could be the name of a host. The dot alone is one. -/
def isName (t : Text) : Bool :=
  t = ['.'] ||
    (let t := dropEndDot t
     t.length ≤ maxName && t.head? ≠ some '-' && (Text.splitOn '.' t).all isLabel)

end Host

end OperatorShell
