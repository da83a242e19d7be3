import OperatorShell.Text.Numeral

/-!
# Flat JSON objects

The compact form of an object whose values are null, numbers or texts. A text is written with every
control character below the space escaped, so no newline is left inside, and every other character
beyond the quote and the backslash as it is.
-/

namespace OperatorShell.Json

/-- A value inside an object. -/
inductive Scalar where
  | null
  | number (n : Nat)
  | text (t : Text)
  deriving DecidableEq, Repr

/-- One character of a text. -/
def escapeChar (c : Char) : Text :=
  if c = '"' then ['\\', '"']
  else if c = '\\' then ['\\', '\\']
  else if c = '\x08' then ['\\', 'b']
  else if c = '\x0c' then ['\\', 'f']
  else if c = '\n' then ['\\', 'n']
  else if c = '\r' then ['\\', 'r']
  else if c = '\t' then ['\\', 't']
  else if c.toNat < 0x20 then
    ['\\', 'u', '0', '0', Text.digit (c.toNat / 16), Text.digit (c.toNat % 16)]
  else [c]

/-- A text between quotes. -/
def renderText (t : Text) : Text := '"' :: (t.flatMap escapeChar ++ ['"'])

/-- A value. -/
def Scalar.render : Scalar → Text
  | .null => "null".toList
  | .number n => Text.decimal n
  | .text t => renderText t

/-- A name with its value. -/
def renderField (field : Text × Scalar) : Text :=
  renderText field.1 ++ ':' :: field.2.render

/-- An object with these fields, in this order. -/
def renderObject (fields : List (Text × Scalar)) : Text :=
  '\x7b' :: (Text.intersperse [','] (fields.map renderField) ++ ['\x7d'])

end OperatorShell.Json
