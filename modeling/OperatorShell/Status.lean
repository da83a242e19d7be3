import OperatorShell.Text.Numeral

/-!
# Statuses

An agent that does not reply with a text answers with a status: one of seventeen codes and a
message.

* `StatusCode.number`, `StatusCode.ofNumber`, `StatusCode.ofNumeral`: the codes as numbers; what is
  no code reads as `unknown`.
-/

namespace OperatorShell

/-- The status codes, in the order of their numbers. -/
inductive StatusCode where
  | ok
  | cancelled
  | unknown
  | invalidArgument
  | deadlineExceeded
  | notFound
  | alreadyExists
  | permissionDenied
  | resourceExhausted
  | failedPrecondition
  | aborted
  | outOfRange
  | unimplemented
  | internal
  | unavailable
  | dataLoss
  | unauthenticated
  deriving DecidableEq, Repr

namespace StatusCode

/-- All codes; the place of a code is its number. -/
def all : List StatusCode := [
  ok, cancelled, unknown, invalidArgument, deadlineExceeded, notFound, alreadyExists,
  permissionDenied, resourceExhausted, failedPrecondition, aborted, outOfRange, unimplemented,
  internal, unavailable, dataLoss, unauthenticated]

/-- The number of a code. -/
def number (c : StatusCode) : Nat := all.idxOf c

/-- The code of a number. -/
def ofNumber (n : Nat) : StatusCode := (all[n]?).getD unknown

/-- The code of a numeral, which has no sign and no zeros in front. -/
def ofNumeral (t : Text) : StatusCode :=
  (all.find? fun c => Text.decimal c.number = t).getD unknown

theorem ofNumber_number (c : StatusCode) : ofNumber c.number = c := by cases c <;> rfl

end StatusCode

/-- A status: a code and a message, which may be empty. -/
structure Status where
  code : StatusCode
  message : Text
  deriving DecidableEq, Repr

end OperatorShell
