import OperatorShell.Text.Utf8
import OperatorShell.Wire.Field

/-!
# Request and reply messages

Both messages carry one text, in their first field. An empty text is left out.

* `MessageKind.encode`, `MessageKind.encodedSize`, `MessageKind.decode`: writer, size and reader.
  The reader passes over unknown fields, and the last text of several counts.
-/

namespace OperatorShell.Wire

/-- The two messages. -/
inductive MessageKind where
  | request
  | reply
  deriving DecidableEq, Repr

/-- Why a byte string is no message of a kind, and whether the fault lies in its text. -/
structure DecodeError where
  cause : WireError
  insideText : Bool
  deriving DecidableEq, Repr

namespace MessageKind

/-- The name of the text of a message. -/
def textName : MessageKind → Text
  | request => "CmdRequest.cmdstr".toList
  | reply => "CmdReply.cmdout".toList

/-- The key of the text of a message. -/
def textKey : MessageKind → Key
  | request => ⟨1, .lengthDelimited⟩
  | reply => ⟨1, .lengthDelimited⟩

/-- The message with a text. -/
def encode (k : MessageKind) (text : Text) : Bytes :=
  if text = [] then []
  else
    k.textKey.encode ++ Varint.encode (Text.byteLength text) ++ Text.encodeUtf8 text

/-- How many bytes the message with a text takes. -/
def encodedSize (k : MessageKind) (text : Text) : Nat :=
  let n := Text.byteLength text
  if n = 0 then 0 else k.textKey.size + Varint.size n + n

/-- The text after its key, and the bytes after it. -/
def decodeText (w : WireType) (bs : Bytes) : Except WireError (Text × Bytes) :=
  if w ≠ .lengthDelimited then .error (.mismatch w .lengthDelimited)
  else
    match takeDelimited bs with
    | .error e => .error e
    | .ok (taken, rest) =>
      match Text.decodeUtf8? taken with
      | none => .error .notUtf8
      | some text => .ok (text, rest)

theorem length_le_of_decodeText {w : WireType} {bs rest : Bytes} {text : Text}
    (h : decodeText w bs = .ok (text, rest)) : rest.length ≤ bs.length := by
  unfold decodeText at h
  split at h
  · simp at h
  · split at h
    · simp at h
    · next taken r ht =>
      split at h
      · simp at h
      · simp only [Except.ok.injEq, Prod.mk.injEq] at h
        obtain ⟨-, rfl⟩ := h
        exact length_le_of_takeDelimited ht

/-- Reads fields; `text` is the text so far. -/
def decodeFields (k : MessageKind) (text : Text) (bs : Bytes) : Except DecodeError Text :=
  if bs = [] then .ok text
  else
    match _h : Key.decode bs with
    | .error e => .error ⟨e, false⟩
    | .ok (key, rest) =>
      if key.field = k.textKey.field then
        match _h' : decodeText key.wireType rest with
        | .error e => .error ⟨e, true⟩
        | .ok (text, rest) => decodeFields k text rest
      else
        match _h' : skipValue key rest with
        | .error e => .error ⟨e, false⟩
        | .ok rest => decodeFields k text rest
termination_by bs.length
decreasing_by
  · exact Nat.lt_of_le_of_lt (length_le_of_decodeText _h') (Key.length_lt_of_decode _h)
  · exact Nat.lt_of_le_of_lt (length_le_of_skipValue _h') (Key.length_lt_of_decode _h)

/-- The text of a message. -/
def decode (k : MessageKind) (bs : Bytes) : Except DecodeError Text := decodeFields k [] bs

/-- The wording of a message's fault. -/
def describe (k : MessageKind) (e : DecodeError) : Text :=
  "failed to decode Protobuf message: ".toList ++
    (if e.insideText then k.textName ++ ": ".toList else []) ++ e.cause.message

end MessageKind

end OperatorShell.Wire
