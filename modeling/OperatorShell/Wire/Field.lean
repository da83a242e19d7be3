import OperatorShell.Text.Numeral
import OperatorShell.Wire.Varint

/-!
# Message fields

A message is a sequence of fields. A field begins with a key, a number that holds the field's number
and the shape of its value; a value of an unknown field is passed over by its shape alone.

* `Key.decode`: the key at the front of a byte string.
* `skipValue`: passes over a value, groups with everything nested in them included.
-/

namespace OperatorShell.Wire

/-- The shapes of values. -/
inductive WireType where
  | varint
  | fixed64
  | lengthDelimited
  | startGroup
  | endGroup
  | fixed32
  deriving DecidableEq, Repr

namespace WireType

/-- The number of a shape inside a key. -/
def number : WireType → Nat
  | varint => 0
  | fixed64 => 1
  | lengthDelimited => 2
  | startGroup => 3
  | endGroup => 4
  | fixed32 => 5

/-- The shape of a number below eight. -/
def ofNumber? : Nat → Option WireType
  | 0 => some varint
  | 1 => some fixed64
  | 2 => some lengthDelimited
  | 3 => some startGroup
  | 4 => some endGroup
  | 5 => some fixed32
  | _ => none

/-- The name of a shape in a fault. -/
def name : WireType → Text
  | varint => "Varint".toList
  | fixed64 => "SixtyFourBit".toList
  | lengthDelimited => "LengthDelimited".toList
  | startGroup => "StartGroup".toList
  | endGroup => "EndGroup".toList
  | fixed32 => "ThirtyTwoBit".toList

end WireType

/-- Why a byte string is no message. -/
inductive WireError where
  | badVarint
  | underflow
  | badKey (key : Nat)
  | badWireType (number : Nat)
  | zeroField
  | mismatch (found expected : WireType)
  | badGroupEnd
  | tooDeep
  | notUtf8
  deriving DecidableEq, Repr

/-- The wording of a message's fault. -/
def WireError.message : WireError → Text
  | .badVarint => "invalid varint".toList
  | .underflow => "buffer underflow".toList
  | .badKey key => "invalid key value: ".toList ++ Text.decimal key
  | .badWireType number => "invalid wire type value: ".toList ++ Text.decimal number
  | .zeroField => "invalid tag value: 0".toList
  | .mismatch found expected =>
    "invalid wire type: ".toList ++ found.name ++ " (expected ".toList ++ expected.name ++ [')']
  | .badGroupEnd => "unexpected end group tag".toList
  | .tooDeep => "recursion limit reached".toList
  | .notUtf8 => "invalid string value: data is not UTF-8 encoded".toList

/-- A field's number and the shape of its value. -/
structure Key where
  field : Nat
  wireType : WireType
  deriving DecidableEq, Repr

namespace Key

/-- The bytes of a key. -/
def encode (k : Key) : Bytes := Varint.encode (8 * k.field + k.wireType.number)

/-- How many bytes a key takes. -/
def size (k : Key) : Nat := Varint.size (8 * k.field + k.wireType.number)

/-- The largest number that a key can be. -/
def limit : Nat := 0xFFFFFFFF

/-- The key that a number stands for. -/
def ofNumber (n : Nat) : Except WireError Key :=
  if limit < n then .error (.badKey n)
  else
    match WireType.ofNumber? (n % 8) with
    | none => .error (.badWireType (n % 8))
    | some w => if n / 8 = 0 then .error .zeroField else .ok ⟨n / 8, w⟩

/-- The key at the front of a byte string, and the bytes after it. -/
def decode (bs : Bytes) : Except WireError (Key × Bytes) :=
  match Varint.decode? bs with
  | none => .error .badVarint
  | some (n, rest) => (ofNumber n).map (·, rest)

theorem length_lt_of_decode {bs rest : Bytes} {k : Key} (h : decode bs = .ok (k, rest)) :
    rest.length < bs.length := by
  unfold decode at h
  split at h
  · simp at h
  · next n r hr =>
    cases hk : ofNumber n with
    | error e => simp [hk, Except.map] at h
    | ok k' =>
      simp only [hk, Except.map, Except.ok.injEq, Prod.mk.injEq] at h
      obtain ⟨-, rfl⟩ := h
      exact Varint.length_lt_of_decode? hr

end Key

/-- The byte string without its first `n` bytes. -/
def dropBytes (n : Nat) (bs : Bytes) : Except WireError Bytes :=
  if n ≤ bs.length then .ok (bs.drop n) else .error .underflow

/-- The first bytes of a byte string, as many as the number at its front says, and the bytes after
them. -/
def takeDelimited (bs : Bytes) : Except WireError (Bytes × Bytes) :=
  match Varint.decode? bs with
  | none => .error .badVarint
  | some (n, rest) => if n ≤ rest.length then .ok (rest.take n, rest.drop n) else .error .underflow

/-- Passes over a value that is not a group. -/
def skipPlain (w : WireType) (bs : Bytes) : Except WireError Bytes :=
  match w with
  | .varint =>
    match Varint.decode? bs with
    | none => .error .badVarint
    | some (_, rest) => .ok rest
  | .fixed64 => dropBytes 8 bs
  | .fixed32 => dropBytes 4 bs
  | .lengthDelimited => (takeDelimited bs).map (·.2)
  | .startGroup => .ok bs
  | .endGroup => .error .badGroupEnd

theorem length_le_of_dropBytes {n : Nat} {bs rest : Bytes} (h : dropBytes n bs = .ok rest) :
    rest.length ≤ bs.length := by
  unfold dropBytes at h
  split at h
  · cases h; simp
  · simp at h

theorem length_le_of_takeDelimited {bs taken rest : Bytes}
    (h : takeDelimited bs = .ok (taken, rest)) : rest.length ≤ bs.length := by
  unfold takeDelimited at h
  split at h
  · simp at h
  · next n r hr =>
    split at h
    · simp only [Except.ok.injEq, Prod.mk.injEq] at h
      obtain ⟨-, rfl⟩ := h
      have := Varint.length_lt_of_decode? hr
      simp; omega
    · simp at h

theorem length_le_of_skipPlain {w : WireType} {bs rest : Bytes} (h : skipPlain w bs = .ok rest) :
    rest.length ≤ bs.length := by
  unfold skipPlain at h
  split at h
  · split at h
    · simp at h
    · next n r hr =>
      cases h
      exact Nat.le_of_lt (Varint.length_lt_of_decode? hr)
  · exact length_le_of_dropBytes h
  · exact length_le_of_dropBytes h
  · cases ht : takeDelimited bs with
    | error e => simp [ht, Except.map] at h
    | ok p =>
      simp only [ht, Except.map, Except.ok.injEq] at h
      subst h
      exact length_le_of_takeDelimited ht
  · cases h; exact Nat.le_refl _
  · simp at h

/-- How many groups can be open around a field. -/
def depthLimit : Nat := 100

/-- Passes over fields until all open groups, innermost first, are closed. -/
def skipGroups : List Nat → Bytes → Except WireError Bytes
  | [], bs => .ok bs
  | group :: outer, bs =>
    match _h : Key.decode bs with
    | .error e => .error e
    | .ok (key, rest) =>
      if key.wireType = .endGroup then
        if key.field = group then skipGroups outer rest else .error .badGroupEnd
      else if depthLimit ≤ (group :: outer).length then .error .tooDeep
      else if key.wireType = .startGroup then skipGroups (key.field :: group :: outer) rest
      else
        match _h' : skipPlain key.wireType rest with
        | .error e => .error e
        | .ok rest => skipGroups (group :: outer) rest
termination_by _ bs => bs.length
decreasing_by
  · exact Key.length_lt_of_decode _h
  · exact Key.length_lt_of_decode _h
  · exact Nat.lt_of_le_of_lt (length_le_of_skipPlain _h') (Key.length_lt_of_decode _h)

/-- Passes over the value of a field that is in no group. -/
def skipValue (key : Key) (bs : Bytes) : Except WireError Bytes :=
  if key.wireType = .startGroup then skipGroups [key.field] bs else skipPlain key.wireType bs

theorem length_le_of_skipGroups {groups : List Nat} {bs rest : Bytes}
    (h : skipGroups groups bs = .ok rest) : rest.length ≤ bs.length := by
  fun_induction skipGroups groups bs with
  | case1 bs => cases h; exact Nat.le_refl _
  | case2 => simp at h
  | case3 outer bs key r hk _ ih =>
    exact Nat.le_trans (ih h) (Nat.le_of_lt (Key.length_lt_of_decode hk))
  | case4 => simp at h
  | case5 => simp at h
  | case6 group outer bs key r hk _ _ _ ih =>
    exact Nat.le_trans (ih h) (Nat.le_of_lt (Key.length_lt_of_decode hk))
  | case7 => simp at h
  | case8 group outer bs key r hk _ _ _ r' hr ih =>
    exact Nat.le_trans (ih h) (Nat.le_trans (length_le_of_skipPlain hr)
      (Nat.le_of_lt (Key.length_lt_of_decode hk)))

theorem length_le_of_skipValue {key : Key} {bs rest : Bytes} (h : skipValue key bs = .ok rest) :
    rest.length ≤ bs.length := by
  unfold skipValue at h
  split at h
  · exact length_le_of_skipGroups h
  · exact length_le_of_skipPlain h

end OperatorShell.Wire
