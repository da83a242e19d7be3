import OperatorShell.Document.Literal
import OperatorShell.Document.Node

/-!
# Numbers in a document

Integers in four bases, and numbers with a fraction or an exponent. An underscore may stand between
two digits. Integers have 64 bits with their sign.

* `readNumber`: a number.
-/

namespace OperatorShell.Document

/-- Whether a character is a decimal digit. -/
def isDecimal (c : Char) : Bool := (Text.decimalValue? c).isSome

/-- Digits after a digit. -/
def moreDigits (isDigit : Char → Bool) : Text → Option (Text × Text)
  | [] => some ([], [])
  | ['_'] => none
  | '_' :: d :: t => if isDigit d then consChar d (moreDigits isDigit t) else none
  | c :: t => if isDigit c then consChar c (moreDigits isDigit t) else some ([], c :: t)

/-- At least one digit. -/
def readDigits (isDigit : Char → Bool) : Text → Option (Text × Text)
  | c :: t => if isDigit c then consChar c (moreDigits isDigit t) else none
  | [] => none

/-- The digits of an integer without needless zeros in front. -/
def readWhole : Text → Option (Text × Text)
  | '0' :: t => some (['0'], t)
  | t => readDigits isDecimal t

/-- The value of digits. -/
def valueOf (base : Nat) (digits : Text) : Nat :=
  digits.foldl (fun n d => base * n + (Text.hexValue? d).getD 0) 0

/-- The largest integer. -/
def maxInteger : Nat := 0x7FFFFFFFFFFFFFFF

/-- An integer of a sign and a magnitude, if it fits. -/
def integer? (negative : Bool) (magnitude : Nat) : Option Node :=
  if negative then
    if magnitude ≤ maxInteger + 1 then some (.integer (-(magnitude : Int))) else none
  else
    if magnitude ≤ maxInteger then some (.integer magnitude) else none

/-- An integer in a base other than ten, after the mark of the base. -/
def readBased (base : Nat) (t : Text) : Option (Node × Text) := do
  let isDigit c := (Text.hexValue? c).any (· < base)
  let (digits, t) ← readDigits isDigit t
  return (← integer? false (valueOf base digits), t)

/-- A sign, if there is one; whether it is negative. -/
def readSign : Text → Bool × Text
  | '-' :: t => (true, t)
  | '+' :: t => (false, t)
  | t => (false, t)

/-- An exponent after its letter. -/
def readExponent (t : Text) : Option (Int × Text) := do
  let (negative, t) := readSign t
  let (digits, t) ← readDigits isDecimal t
  let n : Int := valueOf 10 digits
  return (if negative then -n else n, t)

/-- The number of a sign, digits and an exponent. Too large a number is refused, unless it is
negative. -/
def real? (negative : Bool) (digits : Text) (exponent : Int) : Option Node :=
  match Binary64.ofDecimal? (valueOf 10 digits) exponent with
  | some magnitude => some (.real (.finite negative magnitude))
  | none => if negative then some (.real (.infinite true)) else none

/-- What follows the whole part of a decimal number. -/
def readAfterWhole (negative : Bool) (whole : Text) : Text → Option (Node × Text)
  | '.' :: t => do
    let (fraction, t) ← readDigits isDecimal t
    let (exponent, t) ←
      match t with
      | 'e' :: t => readExponent t
      | 'E' :: t => readExponent t
      | t => some (0, t)
    return (← real? negative (whole ++ fraction) (exponent - fraction.length), t)
  | 'e' :: t => do
    let (exponent, t) ← readExponent t
    return (← real? negative whole exponent, t)
  | 'E' :: t => do
    let (exponent, t) ← readExponent t
    return (← real? negative whole exponent, t)
  | t => do return (← integer? negative (valueOf 10 whole), t)

/-- A number. -/
def readNumber : Text → Option (Node × Text)
  | '0' :: 'x' :: t => readBased 16 t
  | '0' :: 'o' :: t => readBased 8 t
  | '0' :: 'b' :: t => readBased 2 t
  | t =>
    match readSign t with
    | (negative, 'i' :: 'n' :: 'f' :: t) => some (.real (.infinite negative), t)
    | (_, 'n' :: 'a' :: 'n' :: t) => some (.real .notANumber, t)
    | (negative, t) => do
      let (whole, t) ← readWhole t
      readAfterWhole negative whole t

end OperatorShell.Document
