import OperatorShell.Wire.Field
import OperatorShell.Proofs.Varint

/-!
# The grammar of fields

A field is a key and a value. A value is a number, a block of bytes, or a group, which is fields and
a closing key with the number of the key that opened it. The readers of keys and values find exactly
what the grammar derives, wherever it ends.

* `Key.Form`, `PlainForm`, `FieldsForm`, `ValueForm`: the grammar, with the number of groups around
  a field.
* `Key.decode_eq_ok_iff`, `takeDelimited_eq_ok_iff`, `skipPlain_eq_ok_iff`, `skipGroups_eq_ok_iff`,
  `skipValue_eq_ok_iff`: the readers.
-/

namespace OperatorShell.Wire

/-! ## Keys -/

/-- The bytes of a key: a number of 32 bits, made of a positive field number and a shape. -/
structure Key.Form (k : Key) (bs : Bytes) : Prop where
  written : Varint.Form bs (8 * k.field + k.wireType.number)
  within : 8 * k.field + k.wireType.number ≤ Key.limit
  positive : 1 ≤ k.field

theorem WireType.ofNumber?_eq_some_iff {n : Nat} {w : WireType} :
    WireType.ofNumber? n = some w ↔ n = w.number := by
  constructor
  · intro h
    unfold WireType.ofNumber? at h
    split at h <;> cases h <;> rfl
  · rintro rfl
    cases w <;> rfl

theorem WireType.number_lt (w : WireType) : w.number < 8 := by
  cases w <;> decide

theorem Key.ofNumber_eq_ok_iff {n : Nat} {k : Key} :
    Key.ofNumber n = .ok k ↔
      n = 8 * k.field + k.wireType.number ∧ n ≤ Key.limit ∧ 1 ≤ k.field := by
  have hshape := k.wireType.number_lt
  rw [Key.ofNumber]
  split
  · simp only [reduceCtorEq, false_iff]
    omega
  · split
    · next hnone =>
      simp only [reduceCtorEq, false_iff]
      rintro ⟨hn, -, -⟩
      rw [WireType.ofNumber?_eq_some_iff.2 (show n % 8 = k.wireType.number by omega)] at hnone
      simp at hnone
    · next w hw =>
      rw [WireType.ofNumber?_eq_some_iff] at hw
      split
      · simp only [reduceCtorEq, false_iff]
        omega
      · rw [Except.ok.injEq]
        constructor
        · rintro rfl
          dsimp only
          omega
        · rintro ⟨hn, -, -⟩
          have hsame : w = k.wireType := by
            apply Option.some.inj
            rw [← WireType.ofNumber?_eq_some_iff.2 hw, WireType.ofNumber?_eq_some_iff]
            omega
          rw [hsame, show n / 8 = k.field by omega]

theorem Key.decode_eq_ok_iff {bs rest : Bytes} {k : Key} :
    Key.decode bs = .ok (k, rest) ↔ ∃ form, bs = form ++ rest ∧ k.Form form := by
  rw [Key.decode]
  constructor
  · intro h
    split at h
    · simp at h
    · next n after hn =>
      cases hk : Key.ofNumber n with
      | error e => simp [hk, Except.map] at h
      | ok key =>
        simp only [hk, Except.map, Except.ok.injEq, Prod.mk.injEq] at h
        obtain ⟨rfl, rfl⟩ := h
        obtain ⟨form, rfl, hform⟩ := Varint.decode?_eq_some_iff.1 hn
        obtain ⟨rfl, hwithin, hpositive⟩ := Key.ofNumber_eq_ok_iff.1 hk
        exact ⟨form, rfl, hform, hwithin, hpositive⟩
  · rintro ⟨form, rfl, hform, hwithin, hpositive⟩
    rw [Varint.decode?_eq_some_iff.2 ⟨form, rfl, hform⟩]
    simp only [Key.ofNumber_eq_ok_iff.2 ⟨rfl, hwithin, hpositive⟩, Except.map]

theorem Key.Form.decode_append {k : Key} {form : Bytes} (h : k.Form form) (rest : Bytes) :
    Key.decode (form ++ rest) = .ok (k, rest) :=
  Key.decode_eq_ok_iff.2 ⟨form, rfl, h⟩

/-! ## Values that are not groups -/

/-- The bytes of a value that is not a group. -/
inductive PlainForm : WireType → Bytes → Prop where
  | varint {bs : Bytes} {n : Nat} (h : Varint.Form bs n) : PlainForm .varint bs
  | fixed64 {bs : Bytes} (h : bs.length = 8) : PlainForm .fixed64 bs
  | fixed32 {bs : Bytes} (h : bs.length = 4) : PlainForm .fixed32 bs
  | lengthDelimited {size content : Bytes} (h : Varint.Form size content.length) :
    PlainForm .lengthDelimited (size ++ content)

theorem dropBytes_eq_ok_iff {n : Nat} {bs rest : Bytes} :
    dropBytes n bs = .ok rest ↔ ∃ value : Bytes, bs = value ++ rest ∧ value.length = n := by
  rw [dropBytes]
  constructor
  · intro h
    split at h
    · next hle =>
      cases h
      exact ⟨bs.take n, (List.take_append_drop n bs).symm, List.length_take_of_le hle⟩
    · simp at h
  · rintro ⟨value, rfl, rfl⟩
    rw [if_pos (by simp), List.drop_left]

theorem takeDelimited_eq_ok_iff {bs taken rest : Bytes} :
    takeDelimited bs = .ok (taken, rest) ↔
      ∃ size, bs = size ++ taken ++ rest ∧ Varint.Form size taken.length := by
  rw [takeDelimited]
  constructor
  · intro h
    split at h
    · simp at h
    · next n after hn =>
      obtain ⟨size, rfl, hsize⟩ := Varint.decode?_eq_some_iff.1 hn
      split at h
      · next hle =>
        simp only [Except.ok.injEq, Prod.mk.injEq] at h
        obtain ⟨rfl, rfl⟩ := h
        refine ⟨size, ?_, ?_⟩
        · rw [List.append_assoc, List.take_append_drop]
        · rwa [List.length_take_of_le hle]
      · simp at h
  · rintro ⟨size, rfl, hsize⟩
    rw [List.append_assoc, Varint.decode?_eq_some_iff.2 ⟨size, rfl, hsize⟩]
    simp

theorem skipPlain_eq_ok_iff {w : WireType} {bs rest : Bytes} (hw : w ≠ .startGroup) :
    skipPlain w bs = .ok rest ↔ ∃ value, bs = value ++ rest ∧ PlainForm w value := by
  constructor
  · intro h
    unfold skipPlain at h
    split at h
    · split at h
      · simp at h
      · next n after hn =>
        cases h
        obtain ⟨form, rfl, hform⟩ := Varint.decode?_eq_some_iff.1 hn
        exact ⟨form, rfl, .varint hform⟩
    · obtain ⟨value, rfl, hlength⟩ := dropBytes_eq_ok_iff.1 h
      exact ⟨value, rfl, .fixed64 hlength⟩
    · obtain ⟨value, rfl, hlength⟩ := dropBytes_eq_ok_iff.1 h
      exact ⟨value, rfl, .fixed32 hlength⟩
    · cases htaken : takeDelimited bs with
      | error e => simp [htaken, Except.map] at h
      | ok found =>
        simp only [htaken, Except.map, Except.ok.injEq] at h
        subst h
        obtain ⟨size, rfl, hsize⟩ := takeDelimited_eq_ok_iff.1 htaken
        exact ⟨size ++ found.1, rfl, .lengthDelimited hsize⟩
    · exact absurd rfl hw
    · simp at h
  · rintro ⟨value, rfl, hvalue⟩
    cases hvalue with
    | varint hform => simp only [skipPlain, Varint.decode?_eq_some_iff.2 ⟨_, rfl, hform⟩]
    | fixed64 hlength => exact dropBytes_eq_ok_iff.2 ⟨value, rfl, hlength⟩
    | fixed32 hlength => exact dropBytes_eq_ok_iff.2 ⟨value, rfl, hlength⟩
    | lengthDelimited hsize =>
      simp only [skipPlain, takeDelimited_eq_ok_iff.2 ⟨_, rfl, hsize⟩, Except.map]

/-! ## Groups -/

/-- Fields one after another, each of them inside so many groups. -/
inductive FieldsForm : Nat → Bytes → Prop where
  | nil {depth : Nat} : FieldsForm depth []
  | plain {depth : Nat} {k : Key} {key value rest : Bytes} (within : depth < depthLimit)
    (hkey : k.Form key) (hvalue : PlainForm k.wireType value) (hrest : FieldsForm depth rest) :
    FieldsForm depth (key ++ value ++ rest)
  | group {depth field : Nat} {opening body closing rest : Bytes} (within : depth < depthLimit)
    (hopening : Key.Form ⟨field, .startGroup⟩ opening) (hbody : FieldsForm (depth + 1) body)
    (hclosing : Key.Form ⟨field, .endGroup⟩ closing) (hrest : FieldsForm depth rest) :
    FieldsForm depth (opening ++ body ++ closing ++ rest)

/-- The bytes of a value after its key, in a field that is in no group. -/
inductive ValueForm (k : Key) : Bytes → Prop where
  | plain {value : Bytes} (hvalue : PlainForm k.wireType value) : ValueForm k value
  | group {body closing : Bytes} (hgroup : k.wireType = .startGroup) (hbody : FieldsForm 1 body)
    (hclosing : Key.Form ⟨k.field, .endGroup⟩ closing) : ValueForm k (body ++ closing)

/-- What closes open groups, innermost first: for each of them more fields, and a closing key. -/
def Closing : List Nat → Bytes → Prop
  | [], bs => bs = []
  | group :: outer, bs => ∃ body closing after, bs = body ++ closing ++ after ∧
    FieldsForm (outer.length + 1) body ∧ Key.Form ⟨group, .endGroup⟩ closing ∧ Closing outer after

theorem PlainForm.ne_startGroup {w : WireType} {bs : Bytes} (h : PlainForm w bs) :
    w ≠ .startGroup := by
  cases h <;> simp

theorem PlainForm.ne_endGroup {w : WireType} {bs : Bytes} (h : PlainForm w bs) :
    w ≠ .endGroup := by
  cases h <;> simp

theorem PlainForm.skipPlain_append {w : WireType} {value : Bytes} (h : PlainForm w value)
    (rest : Bytes) : skipPlain w (value ++ rest) = .ok rest :=
  (skipPlain_eq_ok_iff h.ne_startGroup).2 ⟨value, rfl, h⟩

/-! ## Open groups, one key at a time -/

section Steps

variable {group field : Nat} {outer : List Nat} {k : Key} {bs rest after : Bytes}

theorem skipGroups_closing (hkey : Key.decode bs = .ok (⟨group, .endGroup⟩, rest)) :
    skipGroups (group :: outer) bs = skipGroups outer rest := by
  rw [skipGroups]
  split
  · simp_all
  · next key r hkey' =>
    obtain ⟨rfl, rfl⟩ : key = ⟨group, .endGroup⟩ ∧ r = rest := by simp_all
    simp

theorem skipGroups_opening (hkey : Key.decode bs = .ok (⟨field, .startGroup⟩, rest))
    (within : outer.length + 1 < depthLimit) :
    skipGroups (group :: outer) bs = skipGroups (field :: group :: outer) rest := by
  rw [skipGroups]
  split
  · simp_all
  · next key r hkey' =>
    obtain ⟨rfl, rfl⟩ : key = ⟨field, .startGroup⟩ ∧ r = rest := by simp_all
    rw [if_neg (by simp), if_neg (by simpa using within), if_pos rfl]

theorem skipGroups_plain (hkey : Key.decode bs = .ok (k, rest)) (hstart : k.wireType ≠ .startGroup)
    (hend : k.wireType ≠ .endGroup) (within : outer.length + 1 < depthLimit)
    (hskip : skipPlain k.wireType rest = .ok after) :
    skipGroups (group :: outer) bs = skipGroups (group :: outer) after := by
  rw [skipGroups]
  split
  · simp_all
  · next key r hkey' =>
    obtain ⟨rfl, rfl⟩ : key = k ∧ r = rest := by simp_all
    rw [if_neg hend, if_neg (by simpa using within), if_neg hstart]
    split
    · simp_all
    · next after' hskip' =>
      obtain rfl : after' = after := by simp_all
      rfl

end Steps

theorem skipGroups_fields {depth : Nat} {body : Bytes} (h : FieldsForm depth body) {group : Nat}
    {outer : List Nat} (hdepth : depth = outer.length + 1) (rest : Bytes) :
    skipGroups (group :: outer) (body ++ rest) = skipGroups (group :: outer) rest := by
  induction h generalizing group outer rest with
  | nil => rw [List.nil_append]
  | plain within hkey hvalue _ ih =>
    subst hdepth
    rw [List.append_assoc, List.append_assoc, ← ih rfl rest]
    exact skipGroups_plain (hkey.decode_append _) hvalue.ne_startGroup hvalue.ne_endGroup within
      (hvalue.skipPlain_append _)
  | group within hopening _ hclosing _ ihbody ihrest =>
    subst hdepth
    rw [List.append_assoc, List.append_assoc, List.append_assoc, ← ihrest rfl rest,
      skipGroups_opening (hopening.decode_append _) within, ihbody rfl,
      skipGroups_closing (hclosing.decode_append _)]

theorem skipGroups_append {groups : List Nat} {bs : Bytes} (h : Closing groups bs) (rest : Bytes) :
    skipGroups groups (bs ++ rest) = .ok rest := by
  induction groups generalizing bs with
  | nil =>
    rw [Closing] at h
    rw [h, List.nil_append, skipGroups]
  | cons group outer ih =>
    obtain ⟨body, closing, after, rfl, hbody, hclosing, hafter⟩ := h
    rw [List.append_assoc, List.append_assoc, skipGroups_fields hbody rfl,
      skipGroups_closing (hclosing.decode_append _), ih hafter]

theorem Closing.cons_plain {group : Nat} {outer : List Nat} {k : Key} {key value bs : Bytes}
    (h : Closing (group :: outer) bs) (within : outer.length + 1 < depthLimit)
    (hkey : k.Form key) (hvalue : PlainForm k.wireType value) :
    Closing (group :: outer) (key ++ value ++ bs) := by
  obtain ⟨body, closing, after, rfl, hbody, hclosing, hafter⟩ := h
  refine ⟨key ++ value ++ body, closing, after, ?_, .plain within hkey hvalue hbody, hclosing,
    hafter⟩
  simp only [List.append_assoc]

theorem Closing.cons_group {group field : Nat} {outer : List Nat} {opening bs : Bytes}
    (h : Closing (field :: group :: outer) bs) (within : outer.length + 1 < depthLimit)
    (hopening : Key.Form ⟨field, .startGroup⟩ opening) :
    Closing (group :: outer) (opening ++ bs) := by
  obtain ⟨body, closing, after, rfl, hbody, hclosing, body', closing', after', rfl, hbody',
    hclosing', hafter'⟩ := h
  refine ⟨opening ++ body ++ closing ++ body', closing', after', ?_,
    .group within hopening hbody hclosing hbody', hclosing', hafter'⟩
  simp only [List.append_assoc]

/-- Open groups are passed over exactly where what closes them is in front. -/
theorem skipGroups_eq_ok_iff {groups : List Nat} {bs rest : Bytes} :
    skipGroups groups bs = .ok rest ↔ ∃ taken, bs = taken ++ rest ∧ Closing groups taken := by
  constructor
  · intro h
    fun_induction skipGroups groups bs with
    | case1 => cases h; exact ⟨[], rfl, rfl⟩
    | case2 => simp at h
    | case3 outer bs key r hkey hend ih =>
      obtain ⟨form, rfl, hform⟩ := Key.decode_eq_ok_iff.1 hkey
      obtain ⟨taken, rfl, htaken⟩ := ih h
      have hclosing : Key.Form ⟨key.field, .endGroup⟩ form := hend ▸ hform
      exact ⟨form ++ taken, (List.append_assoc _ _ _).symm, [], form, taken, rfl, .nil, hclosing,
        htaken⟩
    | case4 => simp at h
    | case5 => simp at h
    | case6 group outer bs key r hkey _ hdepth hstart ih =>
      obtain ⟨form, rfl, hform⟩ := Key.decode_eq_ok_iff.1 hkey
      obtain ⟨taken, rfl, htaken⟩ := ih h
      have hopening : Key.Form ⟨key.field, .startGroup⟩ form := hstart ▸ hform
      have within : outer.length + 1 < depthLimit := by simpa using hdepth
      exact ⟨form ++ taken, (List.append_assoc _ _ _).symm, htaken.cons_group within hopening⟩
    | case7 => simp at h
    | case8 group outer bs key r hkey _ hdepth hstart after hskip ih =>
      obtain ⟨form, rfl, hform⟩ := Key.decode_eq_ok_iff.1 hkey
      obtain ⟨value, rfl, hvalue⟩ := (skipPlain_eq_ok_iff hstart).1 hskip
      obtain ⟨taken, rfl, htaken⟩ := ih h
      have within : outer.length + 1 < depthLimit := by simpa using hdepth
      refine ⟨form ++ value ++ taken, ?_, htaken.cons_plain within hform hvalue⟩
      simp only [List.append_assoc]
  · rintro ⟨taken, rfl, htaken⟩
    exact skipGroups_append htaken rest

theorem skipValue_eq_ok_iff {k : Key} {bs rest : Bytes} :
    skipValue k bs = .ok rest ↔ ∃ value, bs = value ++ rest ∧ ValueForm k value := by
  rw [skipValue]
  split
  · next hgroup =>
    rw [skipGroups_eq_ok_iff]
    constructor
    · rintro ⟨_, rfl, body, closing, _, rfl, hbody, hclosing, rfl⟩
      exact ⟨body ++ closing, by simp, .group hgroup hbody hclosing⟩
    · rintro ⟨_, rfl, hvalue⟩
      cases hvalue with
      | plain hvalue => exact absurd hgroup hvalue.ne_startGroup
      | @group body closing _ hbody hclosing =>
        exact ⟨body ++ closing, rfl, body, closing, [], by simp, hbody, hclosing, rfl⟩
  · next hplain =>
    rw [skipPlain_eq_ok_iff hplain]
    constructor
    · rintro ⟨value, rfl, hvalue⟩
      exact ⟨value, rfl, .plain hvalue⟩
    · rintro ⟨_, rfl, hvalue⟩
      cases hvalue with
      | plain hvalue => exact ⟨_, rfl, hvalue⟩
      | group hgroup => exact absurd hgroup hplain

end OperatorShell.Wire
