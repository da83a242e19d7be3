import OperatorShell.Text.Utf8

/-!
# Texts and their bytes

Every text has one form in bytes, and the decoder takes exactly these forms.

* `encodeChar_eq`: the form is that of the standard library's strings.
* `length_encodeUtf8`: `byteLength` counts its bytes.
* `decodeUtf8?_eq_some_iff`: decoding gives a text exactly for the bytes of that text.
* `utf8Fault_append`: a fault is reported behind the text before it.
-/

namespace OperatorShell.Text

/-! ## The form of a character -/

theorem toNat_lt (c : Char) : c.toNat < 0x110000 := by
  have hvalid : c.toNat.isValidChar := c.valid
  rw [Nat.isValidChar] at hvalid
  omega

/-- The bytes of a character are those that strings are made of. -/
theorem encodeChar_eq (c : Char) : encodeChar c = String.utf8EncodeChar c := by
  have hlt := toNat_lt c
  rw [encodeChar, String.utf8EncodeChar, show c.val.toNat = c.toNat from rfl]
  dsimp only [continuation]
  generalize c.toNat = n at hlt
  by_cases h1 : n < 0x80
  · rw [if_pos h1, if_pos (show n ≤ 127 by omega)]
  rw [if_neg h1, if_neg (show ¬n ≤ 127 by omega)]
  by_cases h2 : n < 0x800
  · rw [if_pos h2, if_pos (show n ≤ 2047 by omega)]
    simp only [List.cons.injEq, and_true]
    refine ⟨congrArg _ ?_, congrArg _ ?_⟩ <;> omega
  rw [if_neg h2, if_neg (show ¬n ≤ 2047 by omega)]
  by_cases h3 : n < 0x10000
  · rw [if_pos h3, if_pos (show n ≤ 65535 by omega)]
    simp only [List.cons.injEq, and_true]
    refine ⟨congrArg _ ?_, congrArg _ ?_, congrArg _ ?_⟩ <;> omega
  · rw [if_neg h3, if_neg (show ¬n ≤ 65535 by omega)]
    simp only [List.cons.injEq, and_true]
    refine ⟨congrArg _ ?_, congrArg _ ?_, congrArg _ ?_, congrArg _ ?_⟩ <;> omega

theorem length_encodeChar (c : Char) : (encodeChar c).length = c.utf8Size := by
  rw [encodeChar_eq, String.length_utf8EncodeChar]

theorem encodeUtf8_cons (c : Char) (t : Text) :
    encodeUtf8 (c :: t) = encodeChar c ++ encodeUtf8 t :=
  List.flatMap_cons

theorem encodeUtf8_append (t u : Text) : encodeUtf8 (t ++ u) = encodeUtf8 t ++ encodeUtf8 u :=
  List.flatMap_append

theorem length_encodeUtf8 (t : Text) : (encodeUtf8 t).length = byteLength t := by
  induction t with
  | nil => rfl
  | cons c t ih =>
    rw [encodeUtf8_cons, List.length_append, length_encodeChar, byteLength, ih]

/-! ## Parts of a character -/

theorem toNat_continuation (n unit : Nat) :
    (continuation n unit).toNat = 0x80 + n / unit % 0x40 := by
  rw [continuation, UInt8.toNat_ofNat']
  omega

theorem continuationValue?_eq_some_iff {b : UInt8} {x : Nat} :
    continuationValue? b = some x ↔ b.toNat = 0x80 + x ∧ x < 0x40 := by
  rw [continuationValue?]
  split
  · rw [Option.some.injEq]
    omega
  · simp only [reduceCtorEq, false_iff]
    omega

theorem continuationValue?_continuation (n unit : Nat) :
    continuationValue? (continuation n unit) = some (n / unit % 0x40) :=
  continuationValue?_eq_some_iff.2 ⟨toNat_continuation n unit, Nat.mod_lt _ (by decide)⟩

theorem charOf?_eq_some_iff {least n : Nat} {c : Char} :
    charOf? least n = some c ↔ n = c.toNat ∧ least ≤ n := by
  rw [charOf?]
  by_cases hvalid : n.isValidChar
  · have hval : (Char.ofNatAux n hvalid).toNat = n := rfl
    rw [dif_pos hvalid]
    by_cases hle : least ≤ n
    · rw [if_pos hle, Option.some.injEq, ← Char.toNat_inj, hval]
      simp [hle]
    · rw [if_neg hle]
      simp [hle]
  · have hne : n ≠ c.toNat := by
      rintro rfl
      exact hvalid c.valid
    rw [dif_neg hvalid]
    simp [hne]

/-! ## Reading a character back -/

section Shapes

variable {a b d e : UInt8} {rest : Bytes} {c : Char}

theorem decodeChar?_one (ha : a.toNat < 0x80) (hc : charOf? 0 a.toNat = some c) :
    decodeChar? (a :: rest) = some (c, rest) := by
  unfold decodeChar?
  dsimp only
  rw [if_pos ha, hc, Option.map_some]

theorem decodeChar?_two {x : Nat} (ha : 0xC0 ≤ a.toNat) (ha' : a.toNat < 0xE0)
    (hb : continuationValue? b = some x)
    (hc : charOf? 0x80 ((a.toNat - 0xC0) * 0x40 + x) = some c) :
    decodeChar? (a :: b :: rest) = some (c, rest) := by
  rw [decodeChar?, if_neg (by omega), if_pos ⟨ha, ha'⟩]
  exact Option.bind_eq_some_iff.2 ⟨x, hb, Option.map_eq_some_iff.2 ⟨c, hc, rfl⟩⟩

theorem decodeChar?_three {x y : Nat} (ha : 0xE0 ≤ a.toNat) (ha' : a.toNat < 0xF0)
    (hb : continuationValue? b = some x) (hd : continuationValue? d = some y)
    (hc : charOf? 0x800 ((a.toNat - 0xE0) * 0x1000 + x * 0x40 + y) = some c) :
    decodeChar? (a :: b :: d :: rest) = some (c, rest) := by
  rw [decodeChar?]
  dsimp only
  rw [if_neg (by omega), if_neg (by omega), if_pos ⟨ha, ha'⟩]
  exact Option.bind_eq_some_iff.2 ⟨x, hb, Option.bind_eq_some_iff.2 ⟨y, hd,
    Option.map_eq_some_iff.2 ⟨c, hc, rfl⟩⟩⟩

theorem decodeChar?_four {x y z : Nat} (ha : 0xF0 ≤ a.toNat) (ha' : a.toNat < 0xF8)
    (hb : continuationValue? b = some x) (hd : continuationValue? d = some y)
    (he : continuationValue? e = some z)
    (hc : charOf? 0x10000 ((a.toNat - 0xF0) * 0x40000 + x * 0x1000 + y * 0x40 + z) = some c) :
    decodeChar? (a :: b :: d :: e :: rest) = some (c, rest) := by
  rw [decodeChar?]
  dsimp only
  rw [if_neg (by omega), if_neg (by omega), if_neg (by omega), if_pos ⟨ha, ha'⟩]
  exact Option.bind_eq_some_iff.2 ⟨x, hb, Option.bind_eq_some_iff.2 ⟨y, hd,
    Option.bind_eq_some_iff.2 ⟨z, he, Option.map_eq_some_iff.2 ⟨c, hc, rfl⟩⟩⟩⟩

end Shapes

theorem decodeChar?_append (c : Char) (rest : Bytes) :
    decodeChar? (encodeChar c ++ rest) = some (c, rest) := by
  have hlt := toNat_lt c
  have hbyte : ∀ {n : Nat}, n < 0x100 → (UInt8.ofNat n).toNat = n :=
    fun h => by rw [UInt8.toNat_ofNat', Nat.mod_eq_of_lt h]
  rw [encodeChar]
  by_cases h1 : c.toNat < 0x80
  · have hfirst := hbyte (show c.toNat < 0x100 by omega)
    rw [if_pos h1]
    exact decodeChar?_one (by omega) (charOf?_eq_some_iff.2 ⟨by omega, by omega⟩)
  rw [if_neg h1]
  by_cases h2 : c.toNat < 0x800
  · have hfirst := hbyte (show 0xC0 + c.toNat / 0x40 < 0x100 by omega)
    rw [if_pos h2]
    exact decodeChar?_two (by omega) (by omega) (continuationValue?_continuation _ _)
      (charOf?_eq_some_iff.2 ⟨by omega, by omega⟩)
  rw [if_neg h2]
  by_cases h3 : c.toNat < 0x10000
  · have hfirst := hbyte (show 0xE0 + c.toNat / 0x1000 < 0x100 by omega)
    rw [if_pos h3]
    exact decodeChar?_three (by omega) (by omega) (continuationValue?_continuation _ _)
      (continuationValue?_continuation _ _) (charOf?_eq_some_iff.2 ⟨by omega, by omega⟩)
  · have hfirst := hbyte (show 0xF0 + c.toNat / 0x40000 < 0x100 by omega)
    rw [if_neg h3]
    exact decodeChar?_four (by omega) (by omega) (continuationValue?_continuation _ _)
      (continuationValue?_continuation _ _) (continuationValue?_continuation _ _)
      (charOf?_eq_some_iff.2 ⟨by omega, by omega⟩)

theorem ofNat_eq_of_toNat_eq {n : Nat} {b : UInt8} (h : b.toNat = n) : UInt8.ofNat n = b := by
  rw [← h, UInt8.ofNat_toNat]

theorem continuation_eq_of_value {n unit x : Nat} {b : UInt8} (h : continuationValue? b = some x)
    (hx : n / unit % 0x40 = x) : continuation n unit = b := by
  obtain ⟨hb, -⟩ := continuationValue?_eq_some_iff.1 h
  rw [continuation, hx, ofNat_eq_of_toNat_eq hb]

theorem encodeChar_of_one {a : UInt8} {c : Char} (ha : a.toNat < 0x80) (hc : a.toNat = c.toNat) :
    encodeChar c = [a] := by
  rw [encodeChar, if_pos (by omega), ofNat_eq_of_toNat_eq hc]

theorem encodeChar_of_two {a b : UInt8} {c : Char} {x : Nat} (ha : 0xC0 ≤ a.toNat)
    (ha' : a.toNat < 0xE0) (hb : continuationValue? b = some x)
    (hc : (a.toNat - 0xC0) * 0x40 + x = c.toNat) (hleast : 0x80 ≤ c.toNat) :
    encodeChar c = [a, b] := by
  obtain ⟨-, hx⟩ := continuationValue?_eq_some_iff.1 hb
  have hfirst : UInt8.ofNat (0xC0 + c.toNat / 0x40) = a := ofNat_eq_of_toNat_eq (by omega)
  rw [encodeChar, if_neg (by omega), if_pos (by omega), hfirst,
    continuation_eq_of_value hb (by omega)]

theorem encodeChar_of_three {a b d : UInt8} {c : Char} {x y : Nat} (ha : 0xE0 ≤ a.toNat)
    (ha' : a.toNat < 0xF0) (hb : continuationValue? b = some x) (hd : continuationValue? d = some y)
    (hc : (a.toNat - 0xE0) * 0x1000 + x * 0x40 + y = c.toNat) (hleast : 0x800 ≤ c.toNat) :
    encodeChar c = [a, b, d] := by
  obtain ⟨-, hx⟩ := continuationValue?_eq_some_iff.1 hb
  obtain ⟨-, hy⟩ := continuationValue?_eq_some_iff.1 hd
  have hfirst : UInt8.ofNat (0xE0 + c.toNat / 0x1000) = a := ofNat_eq_of_toNat_eq (by omega)
  rw [encodeChar, if_neg (by omega), if_neg (by omega), if_pos (by omega), hfirst,
    continuation_eq_of_value hb (by omega), continuation_eq_of_value hd (by omega)]

theorem encodeChar_of_four {a b d e : UInt8} {c : Char} {x y z : Nat} (ha : 0xF0 ≤ a.toNat)
    (hb : continuationValue? b = some x) (hd : continuationValue? d = some y)
    (he : continuationValue? e = some z)
    (hc : (a.toNat - 0xF0) * 0x40000 + x * 0x1000 + y * 0x40 + z = c.toNat)
    (hleast : 0x10000 ≤ c.toNat) : encodeChar c = [a, b, d, e] := by
  obtain ⟨-, hx⟩ := continuationValue?_eq_some_iff.1 hb
  obtain ⟨-, hy⟩ := continuationValue?_eq_some_iff.1 hd
  obtain ⟨-, hz⟩ := continuationValue?_eq_some_iff.1 he
  have hfirst : UInt8.ofNat (0xF0 + c.toNat / 0x40000) = a := ofNat_eq_of_toNat_eq (by omega)
  rw [encodeChar, if_neg (by omega), if_neg (by omega), if_neg (by omega), hfirst,
    continuation_eq_of_value hb (by omega), continuation_eq_of_value hd (by omega),
    continuation_eq_of_value he (by omega)]

theorem eq_encodeChar_append_of_decodeChar? {bs rest : Bytes} {c : Char}
    (h : decodeChar? bs = some (c, rest)) : bs = encodeChar c ++ rest := by
  cases bs with
  | nil => simp [decodeChar?] at h
  | cons a tail =>
    unfold decodeChar? at h
    dsimp only at h
    split at h
    · next ha =>
      obtain ⟨c', hc, heq⟩ := Option.map_eq_some_iff.1 h
      obtain ⟨rfl, rfl⟩ := Prod.mk.inj heq
      rw [encodeChar_of_one ha (charOf?_eq_some_iff.1 hc).1, List.singleton_append]
    split at h
    · next ha =>
      split at h
      · simp only [Option.bind_eq_bind, Option.bind_eq_some_iff, Option.map_eq_some_iff,
          Prod.mk.injEq] at h
        obtain ⟨x, hb, c', hc, rfl, rfl⟩ := h
        obtain ⟨hn, hleast⟩ := charOf?_eq_some_iff.1 hc
        rw [encodeChar_of_two ha.1 ha.2 hb hn (hn ▸ hleast)]
        rfl
      · simp at h
    split at h
    · next ha =>
      split at h
      · simp only [Option.bind_eq_bind, Option.bind_eq_some_iff, Option.map_eq_some_iff,
          Prod.mk.injEq] at h
        obtain ⟨x, hb, y, hd, c', hc, rfl, rfl⟩ := h
        obtain ⟨hn, hleast⟩ := charOf?_eq_some_iff.1 hc
        rw [encodeChar_of_three ha.1 ha.2 hb hd hn (hn ▸ hleast)]
        rfl
      · simp at h
    split at h
    · next ha =>
      split at h
      · simp only [Option.bind_eq_bind, Option.bind_eq_some_iff, Option.map_eq_some_iff,
          Prod.mk.injEq] at h
        obtain ⟨x, hb, y, hd, z, he, c', hc, rfl, rfl⟩ := h
        obtain ⟨hn, hleast⟩ := charOf?_eq_some_iff.1 hc
        rw [encodeChar_of_four ha.1 hb hd he hn (hn ▸ hleast)]
        rfl
      · simp at h
    · simp at h

/-! ## Reading a text back -/

theorem decodeChar?_eq_some_iff {bs rest : Bytes} {c : Char} :
    decodeChar? bs = some (c, rest) ↔ bs = encodeChar c ++ rest := by
  constructor
  · exact eq_encodeChar_append_of_decodeChar?
  · rintro rfl
    exact decodeChar?_append c rest

theorem encodeChar_ne_nil (c : Char) : encodeChar c ≠ [] := by
  have hpos := c.utf8Size_pos
  intro h
  rw [← length_encodeChar, h] at hpos
  simp at hpos

theorem decodeUtf8?_cons (b : UInt8) (tail : Bytes) :
    decodeUtf8? (b :: tail) =
      (decodeChar? (b :: tail)).bind fun (c, after) => (decodeUtf8? after).map (c :: ·) := by
  rw [decodeUtf8?]
  split
  · next h => rw [h, Option.bind_none]
  · next c after h => rw [h, Option.bind_some]

/-- **Decoding** gives a text exactly for the bytes of that text. -/
theorem decodeUtf8?_eq_some_iff {bs : Bytes} {t : Text} :
    decodeUtf8? bs = some t ↔ bs = encodeUtf8 t := by
  constructor
  · intro h
    fun_induction decodeUtf8? bs generalizing t with
    | case1 => cases h; rfl
    | case2 => simp at h
    | case3 b tail c after hchar ih =>
      obtain ⟨t', ht', rfl⟩ := Option.map_eq_some_iff.1 h
      rw [encodeUtf8_cons, ← ih ht']
      exact decodeChar?_eq_some_iff.1 hchar
  · rintro rfl
    induction t with
    | nil => simp [encodeUtf8, decodeUtf8?]
    | cons c t ih =>
      obtain ⟨b, tail, hb⟩ := List.exists_cons_of_ne_nil (encodeChar_ne_nil c)
      rw [encodeUtf8_cons, hb, List.cons_append, decodeUtf8?_cons, ← List.cons_append, ← hb,
        decodeChar?_append, Option.bind_some]
      dsimp only
      rw [ih, Option.map_some]

/-! ## Faults -/

theorem utf8FaultFrom_append (index : Nat) (t : Text) (bs : Bytes) :
    utf8FaultFrom index (encodeUtf8 t ++ bs) = utf8FaultFrom (index + byteLength t) bs := by
  induction t generalizing index with
  | nil => rfl
  | cons c t ih =>
    rw [encodeUtf8_cons, List.append_assoc, utf8FaultFrom]
    split
    · next hnone =>
      rw [decodeChar?_append] at hnone
      cases hnone
    · next hchar =>
      rw [decodeChar?_append] at hchar
      cases hchar
      rw [ih, byteLength, Nat.add_assoc]

/-- Bytes that are a text and then no character are at fault right behind the text. -/
theorem utf8Fault_append (t : Text) {bs : Bytes} (h : decodeChar? bs = none) :
    utf8Fault (encodeUtf8 t ++ bs) = ⟨byteLength t, wrongBytes? bs⟩ := by
  rw [utf8Fault, utf8FaultFrom_append, Nat.zero_add, utf8FaultFrom]
  split
  · rfl
  · next hchar =>
    rw [h] at hchar
    cases hchar

end OperatorShell.Text
