import OperatorShell.Status

/-!
# Frames

A message travels in a frame: a flag, the length of the message in four bytes, and the message. The
flag says whether the message is compressed, which it never may be here.

* `Frame.encode`, `Frame.decode`: writer, and reader of the frame at the front of a byte string.
-/

namespace OperatorShell.Wire.Frame

/-- The most bytes of a message. -/
def maxMessage : Nat := 4194304

/-- Why a byte string has no frame at its front. -/
inductive FrameError where
  | cutShort
  | compressed
  | badFlag (flag : Nat)
  | tooLarge (found : Nat)
  deriving DecidableEq, Repr

/-- Which way a message travels. -/
inductive Direction where
  /-- To the service. -/
  | request
  /-- Back from the service. -/
  | response
  deriving DecidableEq, Repr

/-- What was under way when a flag was found to be bad. -/
def Direction.underWay : Direction → Text
  | .request => ", while sending request".toList
  | .response => " while receiving response with status: 200 OK".toList

/-- The status that a frame's fault amounts to. -/
def FrameError.status (way : Direction) : FrameError → Status
  | .cutShort => ⟨.internal, "Unexpected EOF decoding stream.".toList⟩
  | .compressed =>
    ⟨.internal, ("protocol error: received message with compressed-flag but no grpc-encoding " ++
      "was specified").toList⟩
  | .badFlag flag =>
    ⟨.internal, "protocol error: received message with invalid compression flag: ".toList ++
      Text.decimal flag ++ " (valid flags are 0 and 1)".toList ++ way.underWay⟩
  | .tooLarge found =>
    ⟨.outOfRange, "Error, decoded message length too large: found ".toList ++ Text.decimal found ++
      " bytes, the limit is: ".toList ++ Text.decimal maxMessage ++ " bytes".toList⟩

/-- A number below 2^32 in four bytes, high byte first. -/
def lengthBytes (n : Nat) : Bytes :=
  [UInt8.ofNat (n / 0x1000000), UInt8.ofNat (n / 0x10000), UInt8.ofNat (n / 0x100), UInt8.ofNat n]

/-- The frame of a message. -/
def encode (message : Bytes) : Bytes := 0 :: (lengthBytes message.length ++ message)

/-- The message of the frame at the front of a byte string, and the bytes after the frame. There is
no frame when nothing is left, nor when nothing follows the length of a message. -/
def decode : Bytes → Except FrameError (Option (Bytes × Bytes))
  | [] => .ok none
  | flag :: a :: b :: c :: d :: rest =>
    let length := ((a.toNat * 0x100 + b.toNat) * 0x100 + c.toNat) * 0x100 + d.toNat
    if flag = 1 then .error .compressed
    else if flag ≠ 0 then .error (.badFlag flag.toNat)
    else if maxMessage < length then .error (.tooLarge length)
    else if length ≤ rest.length then .ok (some (rest.take length, rest.drop length))
    else if rest = [] then .ok none
    else .error .cutShort
  | _ => .error .cutShort

theorem length_lt_of_decode {bs message rest : Bytes} (h : decode bs = .ok (some (message, rest))) :
    rest.length < bs.length := by
  unfold decode at h
  split at h
  · simp at h
  · dsimp only at h
    repeat' split at h
    all_goals simp only [Except.ok.injEq, Option.some.injEq, Prod.mk.injEq, reduceCtorEq] at h
    obtain ⟨-, rfl⟩ := h
    simp; omega
  · simp at h

end OperatorShell.Wire.Frame
