import OperatorShell.Text.Utf8

/-!
# Status messages in headers

A status travels in headers, which hold printable ASCII only. Every other byte of its message, and
a few more, is written as a percent sign and two digits. A percent sign itself is written as it is,
so a message that already looks coded is changed by the journey.

* `StatusText.encode`, `StatusText.decode`: writer and reader.
-/

namespace OperatorShell.Wire.StatusText

/-- Whether a byte is written with a percent sign. -/
def isCoded (b : UInt8) : Bool :=
  b.toNat < 0x21 || 0x7F ≤ b.toNat ||
    "\"#<>`?\x7b\x7d".toList.any fun c => c.toNat == b.toNat

/-- The digit of a value below 16, with letters in upper case. -/
def upperDigit (n : Nat) : Char := (Text.digit n).toUpper

/-- One byte of a message. -/
def encodeByte (b : UInt8) : Text :=
  if isCoded b then ['%', upperDigit (b.toNat / 16), upperDigit (b.toNat % 16)]
  else [Char.ofNat b.toNat]

/-- A message in a header. -/
def encode (message : Text) : Text := (Text.encodeUtf8 message).flatMap encodeByte

/-- The bytes of a header, each coded byte read back. A percent sign without two digits after it
stands for itself. -/
def decodeBytes : Text → Bytes
  | '%' :: a :: b :: rest =>
    match Text.hexValue? a, Text.hexValue? b with
    | some x, some y => UInt8.ofNat (16 * x + y) :: decodeBytes rest
    | _, _ => 0x25 :: decodeBytes (a :: b :: rest)
  | c :: rest => Text.encodeChar c ++ decodeBytes rest
  | [] => []

/-- The message of a header, or where its bytes stop being a text. -/
def decode (header : Text) : Except Text.Utf8Fault Text :=
  match Text.decodeUtf8? (decodeBytes header) with
  | some message => .ok message
  | none => .error (Text.utf8Fault (decodeBytes header))

end OperatorShell.Wire.StatusText
