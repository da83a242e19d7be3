import OperatorShell.Text.Numeral

/-!
# UTF-8

* `encodeUtf8`: the bytes of a text, one to four for each character.
* `decodeUtf8?`: the text of a byte string. Overlong forms, surrogates, code points past U+10FFFF
  and cut or stray bytes are refused.
* `utf8Fault`: where bytes stop being a text.
-/

namespace OperatorShell.Text

/-- The digit of a code point in base 64 that counts units of `unit`, as a continuation byte. -/
def continuation (n unit : Nat) : UInt8 := UInt8.ofNat (0x80 + n / unit % 0x40)

/-- The bytes of one character. -/
def encodeChar (c : Char) : Bytes :=
  let n := c.toNat
  if n < 0x80 then [UInt8.ofNat n]
  else if n < 0x800 then [UInt8.ofNat (0xC0 + n / 0x40), continuation n 1]
  else if n < 0x10000 then
    [UInt8.ofNat (0xE0 + n / 0x1000), continuation n 0x40, continuation n 1]
  else
    [UInt8.ofNat (0xF0 + n / 0x40000), continuation n 0x1000, continuation n 0x40, continuation n 1]

/-- The bytes of a text. -/
def encodeUtf8 (t : Text) : Bytes := t.flatMap encodeChar

/-- The six bits that a continuation byte carries. -/
def continuationValue? (b : UInt8) : Option Nat :=
  if 0x80 ≤ b.toNat ∧ b.toNat < 0xC0 then some (b.toNat - 0x80) else none

/-- The character of a code point that needs at least `least`, so that no shorter form exists. -/
def charOf? (least n : Nat) : Option Char :=
  if h : n.isValidChar then if least ≤ n then some (Char.ofNatAux n h) else none else none

/-- The character at the front of a byte string, and the bytes after it. -/
def decodeChar? : Bytes → Option (Char × Bytes)
  | [] => none
  | a :: rest =>
    let n := a.toNat
    if n < 0x80 then (charOf? 0 n).map (·, rest)
    else if 0xC0 ≤ n ∧ n < 0xE0 then
      match rest with
      | b :: rest => do
        let x ← continuationValue? b
        (charOf? 0x80 ((n - 0xC0) * 0x40 + x)).map (·, rest)
      | _ => none
    else if 0xE0 ≤ n ∧ n < 0xF0 then
      match rest with
      | b :: c :: rest => do
        let x ← continuationValue? b
        let y ← continuationValue? c
        (charOf? 0x800 ((n - 0xE0) * 0x1000 + x * 0x40 + y)).map (·, rest)
      | _ => none
    else if 0xF0 ≤ n ∧ n < 0xF8 then
      match rest with
      | b :: c :: d :: rest => do
        let x ← continuationValue? b
        let y ← continuationValue? c
        let z ← continuationValue? d
        (charOf? 0x10000 ((n - 0xF0) * 0x40000 + x * 0x1000 + y * 0x40 + z)).map (·, rest)
      | _ => none
    else none

theorem length_lt_of_decodeChar? {bs rest : Bytes} {c : Char}
    (h : decodeChar? bs = some (c, rest)) : rest.length < bs.length := by
  unfold decodeChar? at h
  split at h
  · simp at h
  · dsimp only at h
    split at h
    · simp only [Option.map_eq_some_iff, Prod.mk.injEq] at h
      obtain ⟨_, _, _, rfl⟩ := h
      simp
    split at h
    · split at h
      · simp [Option.bind_eq_some_iff] at h
        obtain ⟨_, _, _, _, _, rfl⟩ := h
        simp only [List.length_cons]; omega
      · simp at h
    split at h
    · split at h
      · simp [Option.bind_eq_some_iff] at h
        obtain ⟨_, _, _, _, _, _, _, rfl⟩ := h
        simp only [List.length_cons]; omega
      · simp at h
    split at h
    · split at h
      · simp [Option.bind_eq_some_iff] at h
        obtain ⟨_, _, _, _, _, _, _, _, _, rfl⟩ := h
        simp only [List.length_cons]; omega
      · simp at h
    · simp at h

/-- The text of a byte string, absent when the bytes are no UTF-8. -/
def decodeUtf8? : Bytes → Option Text
  | [] => some []
  | b :: rest =>
    match _h : decodeChar? (b :: rest) with
    | none => none
    | some (c, after) => (decodeUtf8? after).map (c :: ·)
termination_by bs => bs.length
decreasing_by exact length_lt_of_decodeChar? _h

/-! ## Faults -/

/-- Where bytes stop being a text: how many come before, and how many are wrong there. Bytes that end
inside a character are not wrong, but too few. -/
structure Utf8Fault where
  index : Nat
  wrong : Option Nat
  deriving DecidableEq, Repr

/-- The wording of a fault. -/
def Utf8Fault.message (f : Utf8Fault) : Text :=
  match f.wrong with
  | some n =>
    "invalid utf-8 sequence of ".toList ++ decimal n ++ " bytes from index ".toList ++
      decimal f.index
  | none => "incomplete utf-8 byte sequence from index ".toList ++ decimal f.index

/-- How many bytes follow the first byte of a character, if this can be one. -/
def followers? (first : Nat) : Option Nat :=
  if first < 0x80 then some 0
  else if 0xC2 ≤ first ∧ first < 0xE0 then some 1
  else if 0xE0 ≤ first ∧ first < 0xF0 then some 2
  else if 0xF0 ≤ first ∧ first < 0xF5 then some 3
  else none

/-- Whether a byte can be the second of a character. The bounds keep out overlong forms, surrogates
and code points past U+10FFFF. -/
def isSecond (first second : Nat) : Bool :=
  (if first = 0xE0 then 0xA0 else if first = 0xF0 then 0x90 else 0x80) ≤ second &&
    second < (if first = 0xED then 0xA0 else if first = 0xF4 then 0x90 else 0xC0)

/-- How many bytes after the first byte of a character can belong to it. -/
def belonging (first : Nat) : Bytes → Nat
  | [] => 0
  | second :: rest =>
    if isSecond first second.toNat then
      1 + (rest.takeWhile fun b => (continuationValue? b).isSome).length
    else 0

/-- How many bytes are wrong at the front of a byte string that has no character there. -/
def wrongBytes? : Bytes → Option Nat
  | [] => none
  | first :: rest =>
    match followers? first.toNat with
    | none => some 1
    | some n =>
      let followers := rest.take n
      let good := belonging first.toNat followers
      if good < followers.length then some (1 + good) else none

/-- The fault of bytes that come after `index` others. -/
def utf8FaultFrom (index : Nat) (bs : Bytes) : Utf8Fault :=
  match _h : decodeChar? bs with
  | none => ⟨index, wrongBytes? bs⟩
  | some (c, after) => utf8FaultFrom (index + c.utf8Size) after
termination_by bs.length
decreasing_by exact length_lt_of_decodeChar? _h

/-- The fault of bytes that are no text. -/
def utf8Fault (bs : Bytes) : Utf8Fault := utf8FaultFrom 0 bs

end OperatorShell.Text
