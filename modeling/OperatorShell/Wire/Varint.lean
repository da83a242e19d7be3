import OperatorShell.Text.Basic

/-!
# Variable-length integers

A number below 2^64 in bytes of seven bits each, low bits first. Every byte but the last has its
highest bit set.

* `Varint.encode`, `Varint.decode?`: writer and reader. The reader takes at most ten bytes, and the
  tenth may carry a single bit; longer forms than necessary are accepted.
-/

namespace OperatorShell.Wire.Varint

/-- The bytes of a number. -/
def encode (n : Nat) : Bytes :=
  if _h : n < 128 then [UInt8.ofNat n] else UInt8.ofNat (128 + n % 128) :: encode (n / 128)
termination_by n

/-- How many bytes a number takes. -/
def size (n : Nat) : Nat := if _h : n < 128 then 1 else 1 + size (n / 128)
termination_by n

/-- Reads a number that has at most `left` bytes, the last of which carries one bit. -/
def decodeWithin? : Nat → Bytes → Option (Nat × Bytes)
  | 0, _ => none
  | _, [] => none
  | left + 1, b :: rest =>
    if b.toNat < 128 then
      if left = 0 ∧ 2 ≤ b.toNat then none else some (b.toNat, rest)
    else
      (decodeWithin? left rest).map fun (high, rest) => (b.toNat - 128 + 128 * high, rest)

/-- The most bytes that a number can have. -/
def maxSize : Nat := 10

/-- The number at the front of a byte string, and the bytes after it. -/
def decode? (bs : Bytes) : Option (Nat × Bytes) := decodeWithin? maxSize bs

theorem length_lt_of_decodeWithin? {left n : Nat} {bs rest : Bytes}
    (h : decodeWithin? left bs = some (n, rest)) : rest.length < bs.length := by
  fun_induction decodeWithin? left bs generalizing n rest with
  | case1 => simp at h
  | case2 => simp at h
  | case3 => simp at h
  | case4 left b bs hb hl =>
    obtain ⟨-, rfl⟩ := Prod.mk.inj (Option.some.inj h)
    simp
  | case5 left b bs hb ih =>
    obtain ⟨⟨high, r⟩, hr, he⟩ := Option.map_eq_some_iff.1 h
    obtain ⟨-, rfl⟩ := Prod.mk.inj he
    have := ih hr
    simp; omega

theorem length_lt_of_decode? {n : Nat} {bs rest : Bytes} (h : decode? bs = some (n, rest)) :
    rest.length < bs.length := length_lt_of_decodeWithin? h

end OperatorShell.Wire.Varint
