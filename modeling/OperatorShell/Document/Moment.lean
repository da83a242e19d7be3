import OperatorShell.Document.Blank

/-!
# Dates and times in a document

A date, a time, or a date with a time and perhaps an offset. Only whether one is well-formed
matters: months, days and hours are checked against the calendar.

* `readMoment`: the text after a date or a time.
-/

namespace OperatorShell.Document

/-- A number of exactly so many digits, put after the digits of `value`. -/
def readFixed (value : Nat) : Nat → Text → Option (Nat × Text)
  | 0, t => some (value, t)
  | n + 1, c :: t => do readFixed (10 * value + (← Text.decimalValue? c)) n t
  | _ + 1, [] => none

/-- A number of exactly so many digits within bounds. -/
def readWithin (digits low high : Nat) (t : Text) : Option (Nat × Text) :=
  (readFixed 0 digits t).filter fun r => low ≤ r.1 && r.1 ≤ high

/-- The text after a character. -/
def expect (c : Char) : Text → Option Text
  | d :: t => if d = c then some t else none
  | [] => none

/-- Whether a year has a 29th of February. -/
def isLeap (year : Nat) : Bool := year % 4 = 0 && (year % 100 ≠ 0 || year % 400 = 0)

/-- How many days a month has. -/
def daysIn (year month : Nat) : Nat :=
  if month = 2 then if isLeap year then 29 else 28
  else if month = 4 ∨ month = 6 ∨ month = 9 ∨ month = 11 then 30
  else 31

/-- The text after a date. -/
def readDate (t : Text) : Option Text := do
  let (year, t) ← readFixed 0 4 t
  let (month, t) ← readWithin 2 1 12 (← expect '-' t)
  let (_, t) ← readWithin 2 1 (daysIn year month) (← expect '-' t)
  return t

/-- The text after a fraction of a second, if there is one. -/
def skipFraction : Text → Text
  | '.' :: d :: t =>
    if (Text.decimalValue? d).isSome then t.dropWhile fun c => (Text.decimalValue? c).isSome
    else '.' :: d :: t
  | t => t

/-- The text after a time. The last second of a minute may be a leap second. -/
def readTime (t : Text) : Option Text := do
  let (_, t) ← readWithin 2 0 23 t
  let (_, t) ← readWithin 2 0 59 (← expect ':' t)
  let (_, t) ← readWithin 2 0 60 (← expect ':' t)
  return skipFraction t

/-- The text after an offset from universal time, if there is one. -/
def skipOffset (t : Text) : Text :=
  match t with
  | [] => []
  | c :: rest =>
    if c = 'Z' ∨ c = 'z' then rest
    else if c = '+' ∨ c = '-' then
      let after := do
        let (_, u) ← readWithin 2 0 23 rest
        let (_, u) ← readWithin 2 0 59 (← expect ':' u)
        return u
      after.getD t
    else t

/-- The text after the time of a date, if there is one. -/
def skipTimeOfDate : Text → Text
  | c :: t =>
    if c = 'T' ∨ c = 't' ∨ c = ' ' then ((readTime t).map skipOffset).getD (c :: t) else c :: t
  | [] => []

/-- Whether a text begins with so many digits and then a character. -/
def beginsWithDigits (n : Nat) (c : Char) (t : Text) : Bool :=
  ((readFixed 0 n t).bind fun r => expect c r.2).isSome

/-- Whether a text begins as a date or a time does. -/
def beginsMoment (t : Text) : Bool := beginsWithDigits 4 '-' t || beginsWithDigits 2 ':' t

/-- The text after a date or a time. -/
def readMoment (t : Text) : Option Text :=
  if beginsWithDigits 4 '-' t then (readDate t).map skipTimeOfDate else readTime t

end OperatorShell.Document
