import OperatorShell.Wire.Message
import OperatorShell.Proofs.Fields
import OperatorShell.Proofs.Utf8

/-!
# Messages and their bytes

A message is any number of fields. Field 1 is a text wherever it stands, all other fields are passed
over, and the last text counts. The reader takes exactly these byte strings; among them is what the
writer gives, but no part of it.

* `FieldForm`, `MessageForm`, `lastText`, `HasText`: messages, field by field, and their text.
* `MessageForm.unique`: bytes are a message in one way at most.
* `decode_reads_messages`: the reader against the grammar, and messages put together.
* `encode_reads_back`: the writer against the reader, and messages cut short.
-/

namespace OperatorShell.Wire

/-! ## Messages -/

/-- The bytes of one field of a message, with the text that it carries if it is field 1. -/
inductive FieldForm : Bytes → Option Text → Prop where
  | text {key size : Bytes} {t : Text} (hkey : Key.Form ⟨1, .lengthDelimited⟩ key)
    (hsize : Varint.Form size (Text.encodeUtf8 t).length) :
    FieldForm (key ++ size ++ Text.encodeUtf8 t) (some t)
  | other {k : Key} {key value : Bytes} (hother : k.field ≠ 1) (hkey : k.Form key)
    (hvalue : ValueForm k value) : FieldForm (key ++ value) none

/-- Bytes, field by field. -/
structure MessageForm (bs : Bytes) (fields : List (Bytes × Option Text)) : Prop where
  concat : bs = (fields.map fun f => f.1).flatten
  fields : ∀ f ∈ fields, FieldForm f.1 f.2

/-- The text of the last field that carries one. -/
def lastText (fields : List (Bytes × Option Text)) : Option Text :=
  (fields.filterMap fun f => f.2).getLast?

/-- Some field of the message carries a text. -/
def HasText (bs : Bytes) : Prop := ∃ fields, MessageForm bs fields ∧ ∃ f ∈ fields, f.2.isSome = true

variable {bs bs' : Bytes} {f : Bytes × Option Text} {fields fields' : List (Bytes × Option Text)}

theorem messageForm_nil : MessageForm [] [] := ⟨rfl, by simp⟩

theorem MessageForm.cons {field : Bytes} {text? : Option Text} (hfield : FieldForm field text?)
    (h : MessageForm bs fields) : MessageForm (field ++ bs) ((field, text?) :: fields) := by
  refine ⟨by rw [h.concat, List.map_cons, List.flatten_cons], ?_⟩
  rintro f (_ | ⟨_, hf⟩)
  · exact hfield
  · exact h.fields f hf

theorem MessageForm.append (h : MessageForm bs fields) (h' : MessageForm bs' fields') :
    MessageForm (bs ++ bs') (fields ++ fields') := by
  refine ⟨by rw [h.concat, h'.concat, List.map_append, List.flatten_append], ?_⟩
  intro f hf
  rcases List.mem_append.1 hf with hf | hf
  · exact h.fields f hf
  · exact h'.fields f hf

theorem lastText_cons (text : Text) :
    (lastText (f :: fields)).getD text = (lastText fields).getD (f.2.getD text) := by
  rw [lastText, lastText, List.filterMap_cons]
  cases f.2 with
  | none => rfl
  | some t => rw [List.getLast?_cons, Option.getD_some, Option.getD_some]

theorem lastText_append (text : Text) :
    (lastText (fields ++ fields')).getD text =
      (lastText fields').getD ((lastText fields).getD text) := by
  induction fields generalizing text with
  | nil => rfl
  | cons f fields ih => rw [List.cons_append, lastText_cons, ih, lastText_cons]

theorem lastText_eq_none_iff : lastText fields = none ↔ ∀ f ∈ fields, f.2 = none := by
  rw [lastText, List.getLast?_eq_none_iff, List.filterMap_eq_nil_iff]

/-! ## One field -/

namespace MessageKind

variable {k : MessageKind}

theorem textKey_eq (k : MessageKind) : k.textKey = ⟨1, .lengthDelimited⟩ := by
  cases k <;> rfl

theorem decodeText_eq_ok_iff {w : WireType} {bs rest : Bytes} {t : Text} :
    decodeText w bs = .ok (t, rest) ↔ w = .lengthDelimited ∧
      ∃ size, bs = size ++ Text.encodeUtf8 t ++ rest ∧
        Varint.Form size (Text.encodeUtf8 t).length := by
  rw [decodeText]
  split
  · next hw => simp [hw]
  · next hw =>
    rw [Decidable.not_not] at hw
    constructor
    · intro h
      split at h
      · simp at h
      · next taken after htaken =>
        split at h
        · simp at h
        · next text htext =>
          simp only [Except.ok.injEq, Prod.mk.injEq] at h
          obtain ⟨rfl, rfl⟩ := h
          obtain rfl := Text.decodeUtf8?_eq_some_iff.1 htext
          exact ⟨hw, takeDelimited_eq_ok_iff.1 htaken⟩
    · rintro ⟨-, hsize⟩
      rw [takeDelimited_eq_ok_iff.2 hsize]
      simp only [Text.decodeUtf8?_eq_some_iff.2 rfl]

theorem decodeFields_nil (text : Text) : k.decodeFields text [] = .ok text := by
  rw [decodeFields, if_pos rfl]

theorem ne_nil_of_decode {bs rest : Bytes} {key : Key} (h : Key.decode bs = .ok (key, rest)) :
    bs ≠ [] := by
  have hlt := Key.length_lt_of_decode h
  rintro rfl
  simp at hlt

theorem decodeFields_text {bs rest after : Bytes} {key : Key} {t : Text} (text : Text)
    (hkey : Key.decode bs = .ok (key, rest)) (hfield : key.field = 1)
    (htext : decodeText key.wireType rest = .ok (t, after)) :
    k.decodeFields text bs = k.decodeFields t after := by
  rw [decodeFields, if_neg (ne_nil_of_decode hkey)]
  split
  · simp_all
  · next key' rest' hkey' =>
    obtain ⟨rfl, rfl⟩ : key' = key ∧ rest' = rest := by simp_all
    rw [if_pos (by rw [textKey_eq, hfield])]
    split
    · simp_all
    · next t' after' htext' =>
      obtain ⟨rfl, rfl⟩ : t' = t ∧ after' = after := by simp_all
      rfl

theorem decodeFields_other {bs rest after : Bytes} {key : Key} (text : Text)
    (hkey : Key.decode bs = .ok (key, rest)) (hfield : key.field ≠ 1)
    (hskip : skipValue key rest = .ok after) :
    k.decodeFields text bs = k.decodeFields text after := by
  rw [decodeFields, if_neg (ne_nil_of_decode hkey)]
  split
  · simp_all
  · next key' rest' hkey' =>
    obtain ⟨rfl, rfl⟩ : key' = key ∧ rest' = rest := by simp_all
    rw [if_neg (by rwa [textKey_eq])]
    split
    · simp_all
    · next after' hskip' =>
      obtain rfl : after' = after := by simp_all
      rfl

theorem decode_field_append {field : Bytes} {text? : Option Text} (h : FieldForm field text?)
    (rest : Bytes) : ∃ key after, Key.decode (field ++ rest) = .ok (key, after) ∧
      ((key.field = 1 ∧ ∃ t, text? = some t ∧ decodeText key.wireType after = .ok (t, rest)) ∨
        (key.field ≠ 1 ∧ text? = none ∧ skipValue key after = .ok rest)) := by
  cases h with
  | @text key size t hkey hsize =>
    rw [List.append_assoc, List.append_assoc]
    refine ⟨_, _, hkey.decode_append _, .inl ⟨rfl, t, rfl, decodeText_eq_ok_iff.2 ⟨rfl, size, ?_⟩⟩⟩
    exact ⟨(List.append_assoc _ _ _).symm, hsize⟩
  | @other k key value hother hkey hvalue =>
    rw [List.append_assoc]
    exact ⟨k, _, hkey.decode_append _,
      .inr ⟨hother, rfl, skipValue_eq_ok_iff.2 ⟨value, rfl, hvalue⟩⟩⟩

theorem decodeFields_append {field : Bytes} {text? : Option Text} (h : FieldForm field text?)
    (text : Text) (rest : Bytes) :
    k.decodeFields text (field ++ rest) = k.decodeFields (text?.getD text) rest := by
  obtain ⟨key, after, hkey, ⟨hfield, t, rfl, htext⟩ | ⟨hfield, rfl, hskip⟩⟩ :=
    decode_field_append h rest
  · exact decodeFields_text text hkey hfield htext
  · exact decodeFields_other text hkey hfield hskip

/-! ## All fields -/

theorem decodeFields_of_messageForm {bs : Bytes} {fields : List (Bytes × Option Text)}
    (h : MessageForm bs fields) (text : Text) :
    k.decodeFields text bs = .ok ((lastText fields).getD text) := by
  induction fields generalizing bs text with
  | nil =>
    obtain rfl : bs = [] := h.concat
    exact decodeFields_nil text
  | cons f fields ih =>
    have hrest : MessageForm (fields.map fun f => f.1).flatten fields :=
      ⟨rfl, fun g hg => h.fields g (List.mem_cons_of_mem f hg)⟩
    rw [h.concat, List.map_cons, List.flatten_cons,
      decodeFields_append (h.fields f List.mem_cons_self), ih hrest, lastText_cons]

theorem messageForm_of_decodeFields {bs : Bytes} {text t : Text}
    (h : k.decodeFields text bs = .ok t) :
    ∃ fields, MessageForm bs fields ∧ t = (lastText fields).getD text := by
  fun_induction decodeFields k text bs with
  | case1 => cases h; exact ⟨[], messageForm_nil, rfl⟩
  | case2 => simp at h
  | case3 => simp at h
  | case4 text bs _ key rest hkey hfield t' after htext ih =>
    obtain ⟨form, rfl, hform⟩ := Key.decode_eq_ok_iff.1 hkey
    obtain ⟨hshape, size, rfl, hsize⟩ := decodeText_eq_ok_iff.1 htext
    obtain ⟨fields, hfields, rfl⟩ := ih h
    have hsame : key = ⟨1, .lengthDelimited⟩ := by
      rw [textKey_eq] at hfield
      cases key
      simp_all
    have hassoc : form ++ (size ++ Text.encodeUtf8 t' ++ after) =
        form ++ size ++ Text.encodeUtf8 t' ++ after := by simp only [List.append_assoc]
    rw [hassoc]
    exact ⟨_, hfields.cons (.text (hsame ▸ hform) hsize),
      (lastText_cons (f := (_, some t')) text).symm⟩
  | case5 => simp at h
  | case6 text bs _ key rest hkey hfield after hskip ih =>
    obtain ⟨form, rfl, hform⟩ := Key.decode_eq_ok_iff.1 hkey
    obtain ⟨value, rfl, hvalue⟩ := skipValue_eq_ok_iff.1 hskip
    obtain ⟨fields, hfields, rfl⟩ := ih h
    rw [textKey_eq] at hfield
    rw [← List.append_assoc]
    exact ⟨_, hfields.cons (.other hfield hform hvalue),
      (lastText_cons (f := (_, none)) text).symm⟩

/-- A message is read as the last of its texts, and nothing else is read. -/
theorem decode_eq_ok_iff {bs : Bytes} {t : Text} :
    k.decode bs = .ok t ↔ ∃ fields, MessageForm bs fields ∧ t = (lastText fields).getD [] := by
  constructor
  · exact messageForm_of_decodeFields
  · rintro ⟨fields, hfields, rfl⟩
    exact decodeFields_of_messageForm hfields []

end MessageKind

/-! ## One way to be a message -/

theorem FieldForm.ne_nil {field : Bytes} {text? : Option Text} (h : FieldForm field text?) :
    field ≠ [] := by
  cases h with
  | text hkey hsize =>
    have hpos := hkey.written.digits.length_pos
    exact fun hnil => by simp_all
  | other hother hkey hvalue =>
    have hpos := hkey.written.digits.length_pos
    exact fun hnil => by simp_all

theorem FieldForm.append_inj {field field' rest rest' : Bytes} {text? text?' : Option Text}
    (h : FieldForm field text?) (h' : FieldForm field' text?')
    (heq : field ++ rest = field' ++ rest') : field = field' ∧ text? = text?' ∧ rest = rest' := by
  obtain ⟨key, after, hkey, hvalue⟩ := MessageKind.decode_field_append h rest
  obtain ⟨key', after', hkey', hvalue'⟩ := MessageKind.decode_field_append h' rest'
  obtain ⟨rfl, rfl⟩ : key = key' ∧ after = after' := by
    rw [heq, hkey'] at hkey
    simp_all
  have hrest : text? = text?' ∧ rest = rest' := by
    rcases hvalue with ⟨hfield, t, rfl, htext⟩ | ⟨hfield, rfl, hskip⟩
    · rcases hvalue' with ⟨-, t', rfl, htext'⟩ | ⟨hfield', -, -⟩
      · simp_all
      · exact absurd hfield hfield'
    · rcases hvalue' with ⟨hfield', -⟩ | ⟨-, rfl, hskip'⟩
      · exact absurd hfield' hfield
      · simp_all
  obtain ⟨rfl, rfl⟩ := hrest
  exact ⟨List.append_cancel_right heq, rfl, rfl⟩

/-- Bytes are a message in one way at most. -/
theorem MessageForm.unique (h : MessageForm bs fields) (h' : MessageForm bs fields') :
    fields = fields' := by
  induction fields generalizing bs fields' with
  | nil =>
    cases fields' with
    | nil => rfl
    | cons f' fields' =>
      have hne := (h'.fields f' List.mem_cons_self).ne_nil
      have hconcat := h.concat.symm.trans h'.concat
      simp_all
  | cons f fields ih =>
    cases fields' with
    | nil =>
      have hne := (h.fields f List.mem_cons_self).ne_nil
      have hconcat := h.concat.symm.trans h'.concat
      simp_all
    | cons f' fields' =>
      have hconcat := h.concat.symm.trans h'.concat
      rw [List.map_cons, List.map_cons, List.flatten_cons, List.flatten_cons] at hconcat
      obtain ⟨hbytes, htext, hrest⟩ := (h.fields f List.mem_cons_self).append_inj
        (h'.fields f' List.mem_cons_self) hconcat
      have htail : MessageForm (fields.map fun f => f.1).flatten fields :=
        ⟨rfl, fun g hg => h.fields g (List.mem_cons_of_mem f hg)⟩
      have htail' : MessageForm (fields.map fun f => f.1).flatten fields' :=
        ⟨hrest, fun g hg => h'.fields g (List.mem_cons_of_mem f' hg)⟩
      rw [Prod.ext hbytes htext, ih htail htail']

namespace MessageKind

variable {k : MessageKind}

/-! ## What is read -/

theorem not_hasText_of_decodeFields {bs : Bytes} {text : Text} (hne : text ≠ [])
    (h : k.decodeFields text bs = .ok text) (hempty : k.decode bs = .ok []) : ¬HasText bs := by
  rintro ⟨fields, hfields, f, hf, htext⟩
  rw [decodeFields_of_messageForm hfields, Except.ok.injEq] at h
  rw [decode, decodeFields_of_messageForm hfields, Except.ok.injEq] at hempty
  cases hlast : lastText fields with
  | none => rw [lastText_eq_none_iff.1 hlast f hf] at htext; simp at htext
  | some t =>
    rw [hlast, Option.getD_some] at h hempty
    exact hne (h.symm.trans hempty)

theorem decode_append {a b : Bytes} {s t : Text} (ha : k.decode a = .ok s)
    (hb : k.decode b = .ok t) :
    (HasText b → k.decode (a ++ b) = .ok t) ∧ (¬HasText b → k.decode (a ++ b) = .ok s) := by
  obtain ⟨fields, hfields, rfl⟩ := decode_eq_ok_iff.1 ha
  obtain ⟨fields', hfields', rfl⟩ := decode_eq_ok_iff.1 hb
  have hboth : k.decode (a ++ b) = .ok ((lastText fields').getD ((lastText fields).getD [])) := by
    rw [decode_eq_ok_iff]
    exact ⟨_, hfields.append hfields', (lastText_append []).symm⟩
  constructor
  · rintro ⟨fields'', hfields'', f, hf, htext⟩
    obtain rfl := hfields'.unique hfields''
    cases hlast : lastText fields' with
    | none => rw [lastText_eq_none_iff.1 hlast f hf] at htext; simp at htext
    | some t => rw [hboth, hlast, Option.getD_some, Option.getD_some]
  · intro hnot
    have hlast : lastText fields' = none := by
      rw [lastText_eq_none_iff]
      intro f hf
      exact Option.not_isSome_iff_eq_none.1 fun htext => hnot ⟨fields', hfields', f, hf, htext⟩
    rw [hboth, hlast, Option.getD_none]

/-- **What is read as a message.** Bytes are read exactly if they are a message, as the last of its
texts, or the empty one if it has none; a message is one in one way only. Two messages in a row are
read as the second one's text, if it has any, and else as the first one's. -/
theorem decode_reads_messages (k : MessageKind) :
    (∀ bs t, k.decode bs = .ok t ↔
      ∃ fields, MessageForm bs fields ∧ t = (lastText fields).getD []) ∧
    (∀ bs fields fields', MessageForm bs fields → MessageForm bs fields' → fields = fields') ∧
    ∀ a b s t, k.decode a = .ok s → k.decode b = .ok t →
      (HasText b → k.decode (a ++ b) = .ok t) ∧ (¬HasText b → k.decode (a ++ b) = .ok s) :=
  ⟨fun _ _ => decode_eq_ok_iff, fun _ _ _ h h' => h.unique h', fun _ _ _ _ ha hb =>
    decode_append ha hb⟩

/-- A text, then a number and a text, then a group in a group, with a field 1 inside. -/
theorem decode_reads_messages_in_a_row :
    let a : Bytes := [0x0A, 1, 0x61]
    let b : Bytes := [0x10, 7, 0x0A, 1, 0x62]
    let c : Bytes := [0x13, 0x1B, 0x08, 7, 0x1C, 0x14]
    reply.decode a = .ok ['a'] ∧ reply.decode b = .ok ['b'] ∧ reply.decode c = .ok [] ∧
      HasText b ∧ ¬HasText c ∧
      reply.decode (a ++ b) = .ok ['b'] ∧ reply.decode (a ++ c) = .ok ['a'] := by
  intro a b c
  have hok : ∀ {x : Except DecodeError Text} {t : Text}, x.toOption = some t → x = .ok t := by
    intro x t h
    cases x <;> simp_all [Except.toOption]
  have ha : reply.decode a = .ok ['a'] := hok (by decide +kernel)
  have hb : reply.decode b = .ok ['b'] := hok (by decide +kernel)
  have hc : reply.decode c = .ok [] := hok (by decide +kernel)
  obtain ⟨hiff, hunique, hrow⟩ := decode_reads_messages reply
  have htext : HasText b := by
    obtain ⟨fields, hfields, hlast⟩ := (hiff b ['b']).1 hb
    refine ⟨fields, hfields, ?_⟩
    cases hsome : lastText fields with
    | none => simp [hsome] at hlast
    | some t =>
      obtain ⟨f, hf, hft⟩ := List.mem_filterMap.1 (List.mem_of_getLast? hsome)
      exact ⟨f, hf, by rw [hft]; rfl⟩
  have hnone : ¬HasText c :=
    not_hasText_of_decodeFields (List.cons_ne_nil 'x' []) (hok (by decide +kernel)) hc
  exact ⟨ha, hb, hc, htext, hnone, (hrow a b _ _ ha hb).1 htext, (hrow a c _ _ ha hc).2 hnone⟩

/-! ## What is written -/

theorem textKey_form (k : MessageKind) : k.textKey.Form k.textKey.encode := by
  rw [textKey_eq]
  exact ⟨Varint.form_encode (by decide), by decide, by decide⟩

theorem encode_of_ne_nil {t : Text} (h : t ≠ []) :
    k.encode t = k.textKey.encode ++ Varint.encode (Text.byteLength t) ++ Text.encodeUtf8 t := by
  rw [encode, if_neg h]

theorem messageForm_encode {t : Text} (h : t ≠ []) (hlength : Text.byteLength t < Varint.bound) :
    MessageForm (k.encode t) [(k.encode t, some t)] := by
  have hkey : Key.Form ⟨1, .lengthDelimited⟩ k.textKey.encode := textKey_eq k ▸ textKey_form k
  have hsize : Varint.Form (Varint.encode (Text.byteLength t)) (Text.encodeUtf8 t).length := by
    rw [Text.length_encodeUtf8]
    exact Varint.form_encode hlength
  have hfield := FieldForm.text hkey hsize
  rw [← encode_of_ne_nil h] at hfield
  simpa using messageForm_nil.cons hfield

theorem decode_encode (k' : MessageKind) {t : Text} (hlength : Text.byteLength t < Varint.bound) :
    k.decode (k'.encode t) = .ok t := by
  rw [decode_eq_ok_iff]
  by_cases h : t = []
  · subst h
    exact ⟨[], messageForm_nil, rfl⟩
  · exact ⟨_, messageForm_encode h hlength, rfl⟩

theorem encodedSize_eq_length (k : MessageKind) (t : Text) :
    k.encodedSize t = (k.encode t).length := by
  rw [encodedSize, encode]
  by_cases h : t = []
  · subst h
    rfl
  · rw [if_neg h, if_neg (by rwa [Text.byteLength_eq_zero_iff]), List.length_append,
      List.length_append, Text.length_encodeUtf8, Varint.length_encode, Key.encode,
      Varint.length_encode, Key.size]

theorem eq_of_field_append_eq_encode {t : Text} (ht : t ≠ []) {field rest : Bytes}
    {text? : Option Text} (h : FieldForm field text?) (heq : field ++ rest = k.encode t) :
    rest = [] := by
  have hdigits := (textKey_form k).written.digits
  rw [encode_of_ne_nil ht] at heq
  cases h with
  | text hkey hsize =>
    simp only [List.append_assoc] at heq
    obtain ⟨-, htail, -⟩ := hkey.written.digits.append_inj hdigits heq
    obtain ⟨-, hbytes, hlength⟩ := hsize.digits.append_inj (Varint.digits_encode _) htail
    have hlengths := congrArg List.length hbytes
    rw [List.length_append, Text.length_encodeUtf8 t] at hlengths
    exact List.eq_nil_of_length_eq_zero (by omega)
  | @other key _ _ hother hkey hvalue =>
    -- the number of the key in front is that of a text, so the field is no other one
    simp only [List.append_assoc] at heq
    obtain ⟨-, -, hnumber⟩ := hkey.written.digits.append_inj hdigits heq
    have hshape := key.wireType.number_lt
    rw [textKey_eq, show WireType.lengthDelimited.number = 2 from rfl] at hnumber
    dsimp only at hnumber
    omega

theorem not_ok_of_cut {k' : MessageKind} {t s : Text} {cut : Bytes} (hne : cut ≠ [])
    (hfront : cut <+: k'.encode t) (hproper : cut ≠ k'.encode t) : k.decode cut ≠ .ok s := by
  intro hok
  obtain ⟨rest, hrest⟩ := hfront
  have ht : t ≠ [] := by
    rintro rfl
    exact hne (List.append_eq_nil_iff.1 hrest).1
  obtain ⟨fields, hfields, -⟩ := decode_eq_ok_iff.1 hok
  cases fields with
  | nil => exact hne hfields.concat
  | cons f fields =>
    have hconcat := hfields.concat
    rw [List.map_cons, List.flatten_cons] at hconcat
    have hnil := eq_of_field_append_eq_encode ht (hfields.fields f List.mem_cons_self)
      (show f.1 ++ ((fields.map fun f => f.1).flatten ++ rest) = k'.encode t by
        rw [← hrest, hconcat, List.append_assoc])
    exact hproper (by rw [← hrest, (List.append_eq_nil_iff.1 hnil).2, List.append_nil])

/-- **What is written reads back.** A text is read from the message that it is written in, which has
the size that is told beforehand, and is the same for both kinds of messages. Of a message that is
cut short, nothing is read. -/
theorem encode_reads_back (t : Text) :
    (Text.byteLength t < Varint.bound → ∀ k k' : MessageKind, k.decode (k'.encode t) = .ok t) ∧
      (∀ k : MessageKind, k.encodedSize t = (k.encode t).length) ∧
      request.encode t = reply.encode t ∧
      ∀ (k k' : MessageKind) (cut : Bytes), cut ≠ [] → cut <+: k'.encode t → cut ≠ k'.encode t →
        ∃ e, k.decode cut = .error e := by
  refine ⟨fun hlength k k' => decode_encode k' hlength, fun k => encodedSize_eq_length k t, rfl, ?_⟩
  intro k k' cut hne hfront hproper
  cases hdecode : k.decode cut with
  | error e => exact ⟨e, rfl⟩
  | ok s => exact absurd hdecode (not_ok_of_cut hne hfront hproper)

/-- A text with characters of one, two and three bytes, cut inside its last character. -/
theorem encode_reads_back_cut_in_character :
    let t : Text := "h\u00e9\u20ac".toList
    let cut : Bytes := [0x0A, 6, 0x68, 0xC3, 0xA9, 0xE2, 0x82]
    Text.byteLength t < Varint.bound ∧ reply.decode (request.encode t) = .ok t ∧
      cut ≠ [] ∧ cut <+: request.encode t ∧ cut ≠ request.encode t ∧
      ∃ e, reply.decode cut = .error e := by
  intro t cut
  obtain ⟨hread, -, -, hcut⟩ := encode_reads_back t
  have hlength : Text.byteLength t < Varint.bound := by decide
  have hencode : request.encode t = cut ++ [0xAC] := by decide +kernel
  have hfront : cut <+: request.encode t := ⟨[0xAC], hencode.symm⟩
  have hproper : cut ≠ request.encode t := by rw [hencode]; decide
  exact ⟨hlength, hread hlength _ _, by decide, hfront, hproper,
    hcut _ _ cut (by decide) hfront hproper⟩

end MessageKind

end OperatorShell.Wire
