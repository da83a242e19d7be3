import OperatorShell.Text.Basic

/-!
# Numerals

* `decimal`, `hexadecimal`: the digits of a natural number, without padding.
* `readBounded`: a decimal numeral read from the left against an upper bound. Which of two faults is
  reported is decided by the first digit at which one shows.
-/

namespace OperatorShell.Text

/-- The digit of a value below 16, with letters in lower case. -/
def digit (n : Nat) : Char :=
  if n < 10 then Char.ofNat (0x30 + n) else Char.ofNat (0x61 + (n - 10))

/-- The digits of a number in a base of at least two, most significant first. -/
def digits (base : Nat) (n : Nat) : Text :=
  if _h : 2 ≤ base ∧ base ≤ n then digits base (n / base) ++ [digit (n % base)] else [digit n]
termination_by n
decreasing_by exact Nat.div_lt_self (by omega) (by omega)

/-- The decimal numeral of a number. -/
def decimal (n : Nat) : Text := digits 10 n

/-- The hexadecimal numeral of a number, in lower case. -/
def hexadecimal (n : Nat) : Text := digits 16 n

/-- The decimal numeral of an integer. -/
def signedDecimal : Int → Text
  | .ofNat n => decimal n
  | .negSucc n => '-' :: decimal (n + 1)

/-- The value of a decimal digit. -/
def decimalValue? (c : Char) : Option Nat :=
  if '0' ≤ c ∧ c ≤ '9' then some (c.toNat - 0x30) else none

/-- The value of a hexadecimal digit in either case. -/
def hexValue? (c : Char) : Option Nat :=
  if '0' ≤ c ∧ c ≤ '9' then some (c.toNat - 0x30)
  else if 'a' ≤ c ∧ c ≤ 'f' then some (c.toNat - 0x61 + 10)
  else if 'A' ≤ c ∧ c ≤ 'F' then some (c.toNat - 0x41 + 10)
  else none

/-- Why a text is not a bounded decimal numeral. -/
inductive NumeralError where
  | noDigits
  | badDigit
  | tooLarge
  deriving DecidableEq, Repr

/-- The wording of a numeral's fault. -/
def NumeralError.message : NumeralError → Text
  | .noDigits => "cannot parse integer from empty string".toList
  | .badDigit => "invalid digit found in string".toList
  | .tooLarge => "number too large to fit in target type".toList

/-- Reads digits onto `value`, never above `limit`. -/
def readDigits (limit : Nat) : Nat → Text → Except NumeralError Nat
  | value, [] => .ok value
  | value, c :: t =>
    match decimalValue? c with
    | none => .error .badDigit
    | some d =>
      if 10 * value + d ≤ limit then readDigits limit (10 * value + d) t else .error .tooLarge

/-- Reads a decimal numeral of at most `limit`. One leading plus sign is allowed. -/
def readBounded (limit : Nat) : Text → Except NumeralError Nat
  | [] => .error .noDigits
  | ['+'] => .error .badDigit
  | '+' :: t => readDigits limit 0 t
  | t => readDigits limit 0 t

/-- The largest unsigned 64-bit value. -/
def maxWord64 : Nat := 0xFFFFFFFFFFFFFFFF

end OperatorShell.Text
