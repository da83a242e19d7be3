import OperatorShell.Proofs.Offer
import OperatorShell.Proofs.Utf8

/-!
# Replacing a part of a line

A candidate that is taken replaces bytes of the line: those from the start of the offer to the
cursor. Both ends are between two characters, so what comes out is a text again, and no blank is
between them. Where the cursor is inside a character, or past the end, there is no offer.

* `Text.IsBoundary`, `Text.InsideChar`: the byte offsets between characters and inside them.
* `Text.splitAtByte?_eq_none_iff`, `Text.splitAtByte?_eq_some_iff`: where a text can be cut.
* `Completion.Placed`: what an offer keeps before its start, and what it replaces.
* `Completion.Replaceable`: what comes of the line when a candidate is taken.
* `Completion.replaces_whole_characters`: every offer is of this kind, and where there is one.
-/

namespace OperatorShell

namespace Text

/-! ## Byte offsets -/

/-- A byte offset between two characters of a text, or at either end of it. -/
def IsBoundary (t : Text) (n : Nat) : Prop :=
  ∃ before after, t = before ++ after ∧ n = (encodeUtf8 before).length

/-- A byte offset between two bytes of one character. -/
def InsideChar (t : Text) (n : Nat) : Prop :=
  ∃ before c after, t = before ++ c :: after ∧
    (encodeUtf8 before).length < n ∧ n < (encodeUtf8 (before ++ [c])).length

theorem not_insideChar_zero (t : Text) : ¬InsideChar t 0 := by
  rintro ⟨before, c, after, -, hlt, -⟩
  exact Nat.not_lt_zero _ hlt

theorem insideChar_of_lt {c : Char} {t : Text} {n : Nat} (hpos : 0 < n) (hlt : n < c.utf8Size) :
    InsideChar (c :: t) n := by
  refine ⟨[], c, t, rfl, hpos, ?_⟩
  rwa [length_encodeUtf8, List.nil_append, byteLength, byteLength, Nat.add_zero]

theorem insideChar_cons_iff {c : Char} {t : Text} {n : Nat} (hle : c.utf8Size ≤ n) :
    InsideChar (c :: t) n ↔ InsideChar t (n - c.utf8Size) := by
  unfold InsideChar
  simp only [length_encodeUtf8, byteLength_append]
  constructor
  · rintro ⟨before, d, after, ht, hlt, hgt⟩
    cases before with
    | nil =>
      obtain ⟨rfl, -⟩ := List.cons.inj ht
      simp only [byteLength] at hgt
      omega
    | cons b before =>
      obtain ⟨rfl, rfl⟩ := List.cons.inj ht
      simp only [byteLength] at hlt hgt ⊢
      exact ⟨before, d, after, rfl, by omega, by omega⟩
  · rintro ⟨before, d, after, rfl, hlt, hgt⟩
    refine ⟨c :: before, d, after, rfl, ?_⟩
    simp only [byteLength] at hgt ⊢
    omega

/-- A text cannot be cut past its end or inside a character, and can be cut everywhere else. -/
theorem splitAtByte?_eq_none_iff {t : Text} {n : Nat} :
    splitAtByte? t n = none ↔ (encodeUtf8 t).length < n ∨ InsideChar t n := by
  rw [length_encodeUtf8]
  fun_induction splitAtByte? t n with
  | case1 t => simp [not_insideChar_zero]
  | case2 n => simp [byteLength]
  | case3 c t n hle ih =>
    rw [Option.map_eq_none_iff, ih, insideChar_cons_iff hle, byteLength]
    have hlt : byteLength t < n + 1 - c.utf8Size ↔ c.utf8Size + byteLength t < n + 1 := by omega
    rw [hlt]
  | case4 c t n hgt =>
    have hinside : InsideChar (c :: t) (n + 1) := insideChar_of_lt (by omega) (by omega)
    simp [hinside]

theorem byteLength_of_splitAtByte? {t before after : Text} {n : Nat}
    (h : splitAtByte? t n = some (before, after)) : n = byteLength before := by
  fun_induction splitAtByte? t n generalizing before after with
  | case1 t =>
    obtain ⟨rfl, -⟩ := Prod.mk.inj (Option.some.inj h)
    rfl
  | case2 => simp at h
  | case3 c t n hle ih =>
    obtain ⟨⟨b, a⟩, hb, he⟩ := Option.map_eq_some_iff.1 h
    obtain ⟨rfl, rfl⟩ := Prod.mk.inj he
    have hrest := ih hb
    rw [byteLength]
    omega
  | case4 => simp at h

theorem splitAtByte?_eq_some_iff {t before after : Text} {n : Nat} :
    splitAtByte? t n = some (before, after) ↔ t = before ++ after ∧ n = byteLength before := by
  constructor
  · intro h
    exact ⟨(append_of_splitAtByte? h).symm, byteLength_of_splitAtByte? h⟩
  · rintro ⟨rfl, rfl⟩
    exact splitAtByte?_append before after

/-! ## The bytes of a part -/

/-- Bytes with those between two offsets replaced. -/
def replaceBytes (bs : Bytes) (start stop : Nat) (new : Bytes) : Bytes :=
  bs.take start ++ new ++ bs.drop stop

section Parts

variable (before part after : Text)

theorem take_encodeUtf8 :
    (encodeUtf8 (before ++ after)).take (byteLength before) = encodeUtf8 before := by
  rw [encodeUtf8_append, ← length_encodeUtf8, List.take_left]

theorem drop_encodeUtf8 :
    (encodeUtf8 (before ++ after)).drop (byteLength before) = encodeUtf8 after := by
  rw [encodeUtf8_append, ← length_encodeUtf8, List.drop_left]

theorem extract_encodeUtf8 :
    (encodeUtf8 (before ++ part ++ after)).extract (byteLength before)
      (byteLength (before ++ part)) = encodeUtf8 part := by
  rw [List.extract_eq_take_drop, List.append_assoc, drop_encodeUtf8, byteLength_append,
    Nat.add_sub_cancel_left, take_encodeUtf8]

theorem replaceBytes_encodeUtf8 (new : Text) :
    replaceBytes (encodeUtf8 (before ++ part ++ after)) (byteLength before)
      (byteLength (before ++ part)) (encodeUtf8 new) = encodeUtf8 (before ++ new ++ after) := by
  rw [replaceBytes, drop_encodeUtf8, List.append_assoc before part, take_encodeUtf8,
    encodeUtf8_append, encodeUtf8_append]

end Parts

end Text

namespace Completion

variable {verbs : List Text} {line : Text} {cursor : Nat} {offer : Completion}

/-! ## What an offer keeps and what it replaces -/

/-- An offer whose candidates go behind `kept` in the place of `part`. -/
structure Placed (verbs : List Text) (offer : Completion) (kept part : Text) : Prop where
  noBlank : part.any Text.isBlank = false
  blanksBefore : offer.candidates ≠ [] → Text.isAllBlank kept = true
  onWord : Text.isAllBlank kept = true → offer.candidates = verbs.filter part.isPrefixOf
  pastWord : Text.isAllBlank kept = false →
    part = [] ∧ (Text.trimStart kept).any Text.isBlank = true

theorem exists_placed (verbs : List Text) (typed : Text) :
    ∃ kept part, typed = kept ++ part ∧
      (ofTyped verbs typed (Text.byteLength typed)).start = Text.byteLength kept ∧
      Placed verbs (ofTyped verbs typed (Text.byteLength typed)) kept part := by
  -- The two branches of `ofTyped`: whether a blank is before the cursor that follows a word.
  cases hpast : (Text.trimStart typed).any Text.isBlank with
  | true =>
    have hne : Text.isAllBlank typed = false := by
      rw [Bool.eq_false_iff, Ne, ← Text.trimStart_eq_nil_iff]
      intro hnil
      simp [hnil] at hpast
    rw [ofTyped_past_word hpast]
    refine ⟨typed, [], (List.append_nil typed).symm, rfl, rfl, ?_, ?_, fun _ => ⟨rfl, hpast⟩⟩
    · intro hsome
      simp at hsome
    · intro hall
      simp [hall] at hne
  | false =>
    obtain ⟨blanks, htyped, hb⟩ := Text.exists_blanks_append_trimStart typed
    generalize Text.trimStart typed = word at hpast htyped
    subst htyped
    rw [ofTyped_word hb hpast]
    refine ⟨blanks, word, rfl, rfl, hpast, fun _ => hb, fun _ => rfl, ?_⟩
    intro hnot
    simp [hb] at hnot

theorem at?_eq_none_iff :
    at? verbs line cursor = none ↔
      (Text.encodeUtf8 line).length < cursor ∨ Text.InsideChar line cursor := by
  rw [at?, Option.map_eq_none_iff, Text.splitAtByte?_eq_none_iff]

theorem at?_eq_some_iff :
    at? verbs line cursor = some offer ↔ ∃ typed rest, line = typed ++ rest ∧
      cursor = Text.byteLength typed ∧ offer = ofTyped verbs typed cursor := by
  rw [at?, Option.map_eq_some_iff]
  constructor
  · rintro ⟨⟨typed, rest⟩, hcut, rfl⟩
    obtain ⟨hline, hcursor⟩ := Text.splitAtByte?_eq_some_iff.1 hcut
    exact ⟨typed, rest, hline, hcursor, rfl⟩
  · rintro ⟨typed, rest, hline, hcursor, rfl⟩
    exact ⟨(typed, rest), Text.splitAtByte?_eq_some_iff.2 ⟨hline, hcursor⟩, rfl⟩

/-! ## Taking a candidate -/

/-- What an offer does to a line: the text before its start stays, and the text from there to the
cursor makes room for a candidate. -/
structure Replaceable (verbs : List Text) (line : Text) (cursor : Nat) (offer : Completion) :
    Prop where
  start_le : offer.start ≤ cursor
  boundary : Text.IsBoundary line offer.start
  placed : ∃ kept part,
    Text.decodeUtf8? ((Text.encodeUtf8 line).take offer.start) = some kept ∧
      Text.decodeUtf8? ((Text.encodeUtf8 line).extract offer.start cursor) = some part ∧
      Placed verbs offer kept part
  /-- Whatever comes in, the bytes are those of a text, and the blanks of the line are in it. -/
  edited : ∀ new, ∃ result,
    Text.decodeUtf8? (Text.replaceBytes (Text.encodeUtf8 line) offer.start cursor
        (Text.encodeUtf8 new)) = some result ∧
      (line.filter Text.isBlank).Sublist (result.filter Text.isBlank)

theorem replaceable_of_placed {kept part : Text} (after : Text)
    (hstart : offer.start = Text.byteLength kept) (hplaced : Placed verbs offer kept part) :
    Replaceable verbs (kept ++ part ++ after) (Text.byteLength (kept ++ part)) offer := by
  constructor
  case start_le =>
    rw [hstart, Text.byteLength_append]
    exact Nat.le_add_right _ _
  case boundary =>
    refine ⟨kept, part ++ after, List.append_assoc _ _ _, ?_⟩
    rw [hstart, Text.length_encodeUtf8]
  case placed =>
    refine ⟨kept, part, ?_, ?_, hplaced⟩
    · rw [hstart, List.append_assoc, Text.take_encodeUtf8]
      exact Text.decodeUtf8?_eq_some_iff.2 rfl
    · rw [hstart, Text.extract_encodeUtf8]
      exact Text.decodeUtf8?_eq_some_iff.2 rfl
  case edited =>
    intro new
    refine ⟨kept ++ new ++ after, ?_, ?_⟩
    · rw [hstart, Text.replaceBytes_encodeUtf8]
      exact Text.decodeUtf8?_eq_some_iff.2 rfl
    · have hpart : part.filter Text.isBlank = [] := by
        simpa [List.filter_eq_nil_iff] using hplaced.noBlank
      simp [List.filter_append, hpart]

/-- **Completion replaces whole characters, and no blank.** There is no offer exactly where the
cursor is past the last byte of the line or inside a character. Every offer starts between two
characters, not after the cursor; no blank is from there to the cursor, and blanks alone are before
it if anything is offered. So a candidate can be taken without harm to a character or a blank. -/
theorem replaces_whole_characters (verbs : List Text) (line : Text) (cursor : Nat) :
    (at? verbs line cursor = none ↔
        (Text.encodeUtf8 line).length < cursor ∨ Text.InsideChar line cursor) ∧
      ∀ offer, at? verbs line cursor = some offer → Replaceable verbs line cursor offer := by
  refine ⟨at?_eq_none_iff, ?_⟩
  intro offer hoffer
  obtain ⟨typed, rest, rfl, rfl, rfl⟩ := at?_eq_some_iff.1 hoffer
  obtain ⟨kept, part, htyped, hstart, hplaced⟩ := exists_placed verbs typed
  have hreplaceable := replaceable_of_placed rest hstart hplaced
  rwa [← htyped] at hreplaceable

/-- A line of characters of one to three bytes. At byte 9 the cursor is after the first word, at
byte 8 inside its last letter, and at byte 11 at the end of the line. -/
theorem replaces_whole_characters_between_wide_blanks :
    let verbs : List Text := ["gr\u00f6\u00dfe".toList, "go".toList]
    let line : Text := "\u3000\u00a0gr\u00f6 x".toList
    let offer : Completion := ⟨5, ["gr\u00f6\u00dfe".toList]⟩
    at? verbs line 9 = some offer ∧ Replaceable verbs line 9 offer ∧
      Text.InsideChar line 8 ∧ at? verbs line 8 = none ∧
      at? verbs line 11 = some ⟨11, []⟩ ∧ Replaceable verbs line 11 ⟨11, []⟩ := by
  intro verbs line offer
  have hword : at? verbs line 9 = some offer := by decide
  have hend : at? verbs line 11 = some ⟨11, []⟩ := by decide
  have hinside : Text.InsideChar line 8 :=
    ⟨"\u3000\u00a0gr".toList, '\u00f6', " x".toList, by decide, by decide, by decide⟩
  exact ⟨hword, (replaces_whole_characters verbs line 9).2 offer hword, hinside,
    (replaces_whole_characters verbs line 8).1.2 (.inr hinside),
    hend, (replaces_whole_characters verbs line 11).2 _ hend⟩

end Completion

end OperatorShell
