import OperatorShell.Wire.Varint

/-!
# Written forms of numbers

A number is written in bytes of seven bits, and any number of them can be zeros at its end, so it
has several forms. The reader takes all of them that keep to ten bytes and 64 bits.

* `Varint.Digits`, `Varint.Form`: the forms of a number, without a limit and within it.
* `decode?_eq_some_iff`: the reader finds a number exactly where one of its forms is in front.
* `form_encode`: the writer gives such a form for every number of 64 bits.
* `Digits.append_inj`: no form is the start of another.
-/

namespace OperatorShell.Wire.Varint

/-! ## Forms -/

/-- Bytes of which all but the last have the highest bit set, and the number that their other bits
make, low bits first. -/
inductive Digits : Bytes → Nat → Prop where
  | last {b : UInt8} (h : b.toNat < 128) : Digits [b] b.toNat
  | more {b : UInt8} {bs : Bytes} {n : Nat} (h : 128 ≤ b.toNat) (rest : Digits bs n) :
    Digits (b :: bs) (b.toNat - 128 + 128 * n)

/-- Numbers of 64 bits are below this. -/
def bound : Nat := 0x10000000000000000

/-- A form of a number that has at most ten bytes, where the number has at most 64 bits. -/
structure Form (bs : Bytes) (n : Nat) : Prop where
  digits : Digits bs n
  short : bs.length ≤ maxSize
  small : n < bound

theorem Digits.length_pos {bs : Bytes} {n : Nat} (h : Digits bs n) : 0 < bs.length := by
  cases h <;> simp

theorem Digits.append_inj {bs bs' rest rest' : Bytes} {n n' : Nat} (h : Digits bs n)
    (h' : Digits bs' n') (heq : bs ++ rest = bs' ++ rest') : bs = bs' ∧ rest = rest' ∧ n = n' := by
  induction h generalizing bs' n' with
  | last hb =>
    cases h' with
    | last hb' => simp_all
    | more hb' tail' =>
      obtain ⟨rfl, -⟩ := List.cons.inj heq
      omega
  | more hb tail ih =>
    cases h' with
    | last hb' =>
      obtain ⟨rfl, -⟩ := List.cons.inj heq
      omega
    | more hb' tail' =>
      obtain ⟨rfl, htail⟩ := List.cons.inj heq
      obtain ⟨rfl, rfl, rfl⟩ := ih tail' htail
      exact ⟨rfl, rfl, rfl⟩

/-! ## The reader -/

/-- The numbers that fit in so many bytes, the last of which carries one bit, are below this. -/
def room : Nat → Nat
  | 0 => 0
  | 1 => 2
  | left + 2 => 128 * room (left + 1)

theorem room_maxSize : room maxSize = bound := rfl

theorem two_le_room (left : Nat) : 2 ≤ room (left + 1) := by
  induction left with
  | zero => exact Nat.le_refl 2
  | succ left ih =>
    rw [room]
    omega

theorem room_succ {left : Nat} (h : 0 < left) : room (left + 1) = 128 * room left := by
  obtain ⟨k, rfl⟩ := Nat.exists_eq_add_of_lt h
  rw [Nat.zero_add, room]

theorem digits_of_decodeWithin? {left n : Nat} {bs rest : Bytes}
    (h : decodeWithin? left bs = some (n, rest)) :
    ∃ form, bs = form ++ rest ∧ Digits form n ∧ form.length ≤ left ∧ n < room left := by
  fun_induction decodeWithin? left bs generalizing n rest with
  | case1 => simp at h
  | case2 => simp at h
  | case3 => simp at h
  | case4 left b bs hb hlast =>
    obtain ⟨rfl, rfl⟩ := Prod.mk.inj (Option.some.inj h)
    refine ⟨[b], rfl, .last hb, by simp, ?_⟩
    cases left with
    | zero =>
      rw [room]
      omega
    | succ left =>
      have hroom := two_le_room left
      rw [room]
      omega
  | case5 left b bs hb ih =>
    obtain ⟨⟨high, rest'⟩, hhigh, heq⟩ := Option.map_eq_some_iff.1 h
    obtain ⟨rfl, rfl⟩ := Prod.mk.inj heq
    obtain ⟨form, rfl, hdigits, hlength, hroom⟩ := ih hhigh
    refine ⟨b :: form, rfl, .more (by omega) hdigits, by simpa using hlength, ?_⟩
    have hpos := hdigits.length_pos
    have hbyte := b.toNat_lt
    rw [room_succ (by omega)]
    omega

theorem decodeWithin?_append {left n : Nat} {form : Bytes} (hform : Digits form n)
    (hlength : form.length ≤ left) (hroom : n < room left) (rest : Bytes) :
    decodeWithin? left (form ++ rest) = some (n, rest) := by
  induction hform generalizing left with
  | @last b hb =>
    obtain ⟨left, rfl⟩ : ∃ k, left = k + 1 := ⟨left - 1, by simp at hlength; omega⟩
    have hfits : ¬(left = 0 ∧ 2 ≤ b.toNat) := by
      rintro ⟨rfl, hge⟩
      rw [room] at hroom
      omega
    rw [List.singleton_append, decodeWithin?, if_pos hb, if_neg hfits]
  | @more b bs n hb tail ih =>
    have hpos := tail.length_pos
    obtain ⟨left, rfl⟩ : ∃ k, left = k + 1 := ⟨left - 1, by simp at hlength; omega⟩
    have hlength' : bs.length ≤ left := by simpa using hlength
    rw [room_succ (by omega)] at hroom
    rw [List.cons_append, decodeWithin?, if_neg (by omega), ih hlength' (by omega)]
    rfl

/-- The reader finds a number exactly where one of its forms is in front. -/
theorem decode?_eq_some_iff {bs rest : Bytes} {n : Nat} :
    decode? bs = some (n, rest) ↔ ∃ form, bs = form ++ rest ∧ Form form n := by
  constructor
  · intro h
    obtain ⟨form, hbs, hdigits, hlength, hroom⟩ := digits_of_decodeWithin? h
    exact ⟨form, hbs, hdigits, hlength, room_maxSize ▸ hroom⟩
  · rintro ⟨form, rfl, hform⟩
    exact decodeWithin?_append hform.digits hform.short (room_maxSize ▸ hform.small) rest

/-! ## The writer -/

theorem digits_encode (n : Nat) : Digits (encode n) n := by
  fun_induction encode n with
  | case1 n hn =>
    have hbyte : (UInt8.ofNat n).toNat = n := by rw [UInt8.toNat_ofNat']; omega
    have hdigits := Digits.last (b := UInt8.ofNat n) (by omega)
    rwa [hbyte] at hdigits
  | case2 n hn ih =>
    have hbyte : (UInt8.ofNat (128 + n % 128)).toNat = 128 + n % 128 := by
      rw [UInt8.toNat_ofNat']; omega
    have hdigits := Digits.more (b := UInt8.ofNat (128 + n % 128)) (by omega) ih
    rwa [hbyte, show 128 + n % 128 - 128 + 128 * (n / 128) = n by omega] at hdigits

theorem length_encode (n : Nat) : (encode n).length = size n := by
  fun_induction encode n with
  | case1 n hn => rw [size, dif_pos hn]; rfl
  | case2 n hn ih => rw [List.length_cons, ih, size.eq_1 n, dif_neg hn, Nat.add_comm]

theorem length_encode_le {n left : Nat} (h : n < room left) : (encode n).length ≤ left := by
  induction left generalizing n with
  | zero => exact absurd h (Nat.not_lt_zero n)
  | succ left ih =>
    rw [encode]
    split
    · simp
    · cases left with
      | zero =>
        rw [room] at h
        omega
      | succ left =>
        rw [room] at h
        have hrest := ih (n := n / 128) (by omega)
        simpa using hrest

theorem form_encode {n : Nat} (h : n < bound) : Form (encode n) n :=
  ⟨digits_encode n, length_encode_le (room_maxSize ▸ h), h⟩

end OperatorShell.Wire.Varint
