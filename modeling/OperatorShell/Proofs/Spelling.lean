import Mathlib.Data.List.Forall2
import OperatorShell.Proofs.Json
import OperatorShell.Proofs.Tables

/-!
# Values spelled out

Texts, numbers, flags, arrays and tables in braces can be written so that the reader takes them
back, whatever they hold. A spelling is read in front of anything that may follow a value, so that
those of parts can be put together.

* `Document.Spells`: what it takes to spell a value.
* `Document.spells_text`, `spells_natural`, `spells_flag`, `spells_array`, `spells_table`: the
  spellings.
* `Document.parse_writeLines`: a document spelled out line by line.
-/

namespace OperatorShell.Document

/-- What may follow a value: nothing, or what ends its line or the value around it. -/
def EndsValue (rest : Text) : Prop := ∀ c ∈ rest.head?, c ∈ [',', ']', '\x7d', '\n']

/-- A text that is read as a value, with so many brackets and braces allowed in it. Every step takes
a character, so the length bounds the steps. -/
structure Spells (depth : Nat) (t : Text) (node : Node) : Prop where
  begins : ∃ c u, t = c :: u ∧ c ∉ [' ', '\t', '\n', '\r', '#', ']']
  reads : ∀ steps rest, t.length ≤ steps → EndsValue rest →
    readValueWithin steps depth (t ++ rest) = some (node, rest)

variable {depth : Nat}

theorem spells_of_succ {c : Char} {u : Text} {node : Node}
    (hc : c ∉ [' ', '\t', '\n', '\r', '#', ']'])
    (h : ∀ steps rest, u.length ≤ steps → EndsValue rest →
      readValueWithin (steps + 1) depth (c :: (u ++ rest)) = some (node, rest)) :
    Spells depth (c :: u) node := by
  refine ⟨⟨c, u, rfl, hc⟩, ?_⟩
  intro steps rest hsteps hrest
  cases steps with
  | zero => cases hsteps
  | succ steps => exact h steps rest (Nat.le_of_succ_le_succ hsteps) hrest

/-! ## Texts -/

/-- A character of a text: as in other notations, but one more control is escaped. -/
def writeChar (c : Char) : Text := if c = '\x7f' then "\\u007f".toList else Json.escapeChar c

/-- A text between quotes. -/
def writeText (t : Text) : Text := '"' :: (t.flatMap writeChar ++ ['"'])

theorem charOfHex?_control {n : Nat} (h : n < 0x20) :
    charOfHex? ['0', '0', Text.digit (n / 16), Text.digit (n % 16)] = some (Char.ofNat n) := by
  have hall : ∀ n : Fin 0x20, charOfHex? ['0', '0', Text.digit (n / 16), Text.digit (n % 16)] =
      some (Char.ofNat n.val) := by decide +kernel
  exact hall ⟨n, h⟩

theorem readQuoted_of_short {letter c : Char} (h : shortEscape? letter = some c) (u : Text) :
    readQuoted ('\\' :: letter :: u) = consChar c (readQuoted u) := by
  rw [readQuoted, h]
  · rfl
  · rintro a b c d rest rfl
    cases h
  · rintro a b c d e f g i rest rfl
    cases h

theorem readQuoted_of_plain {c : Char} (hquote : c ≠ '"') (hback : c ≠ '\\')
    (hplain : isPlainChar c = true) (u : Text) :
    readQuoted (c :: u) = consChar c (readQuoted u) := by
  rw [readQuoted, if_pos hplain]
  · exact hquote
  · rintro a b c d rest rfl
    exact absurd rfl hback
  · rintro a b c d e f g i rest rfl
    exact absurd rfl hback
  · rintro c rest rfl
    exact absurd rfl hback

theorem shortEscape?_of_json {letter c : Char} (h : Json.shortEscape? letter = some c)
    (hslash : c ≠ '/') : shortEscape? letter = some c := by
  unfold Json.shortEscape? at h
  split at h <;> cases h <;> first | rfl | exact absurd rfl hslash

theorem readQuoted_writeChar (c : Char) (u : Text) :
    readQuoted (writeChar c ++ u) = consChar c (readQuoted u) := by
  by_cases hdelete : c = '\x7f'
  · rw [writeChar, if_pos hdelete, hdelete]
    rfl
  · rw [writeChar, if_neg hdelete]
    obtain ⟨letter, heq, hshort, -⟩ | ⟨heq, hcontrol⟩ | ⟨heq, hquote, hback, hcontrol⟩ :=
      Json.escapeChar_cases c
    · have hslash : c ≠ '/' := by
        rintro rfl
        have hplain : Json.escapeChar '/' = ['/'] := by decide
        rw [hplain] at heq
        cases heq
      rw [heq]
      exact readQuoted_of_short (shortEscape?_of_json hshort hslash) u
    · rw [heq]
      change ((charOfHex? _).bind fun c => consChar c (readQuoted u)) = _
      rw [charOfHex?_control hcontrol, Char.ofNat_toNat, Option.bind_some]
    · rw [heq]
      have hnumber : c.toNat ≠ 0x7F := by
        intro heq
        rw [← Char.ofNat_toNat c, heq] at hdelete
        exact hdelete rfl
      have hplain : isPlainChar c = true := by
        simp only [isPlainChar, Bool.or_eq_true, Bool.and_eq_true, decide_eq_true_eq]
        exact .inr ⟨by omega, hnumber⟩
      exact readQuoted_of_plain hquote hback hplain u

theorem readQuoted_written (t rest : Text) :
    readQuoted (t.flatMap writeChar ++ '"' :: rest) = some (t, rest) := by
  induction t with
  | nil => rw [List.flatMap_nil, List.nil_append, readQuoted]
  | cons c t ih =>
    rw [List.flatMap_cons, List.append_assoc, readQuoted_writeChar, ih]
    rfl

theorem head?_writeChar (c : Char) : ∃ x u, writeChar c = x :: u ∧ x ≠ '"' := by
  by_cases hdelete : c = '\x7f'
  · exact ⟨'\\', "u007f".toList, if_pos hdelete, by decide⟩
  · rw [writeChar, if_neg hdelete]
    obtain ⟨letter, heq, -, -⟩ | ⟨heq, -⟩ | ⟨heq, hquote, -, -⟩ := Json.escapeChar_cases c
    · exact ⟨_, _, heq, by decide⟩
    · exact ⟨_, _, heq, by decide⟩
    · exact ⟨_, _, heq, hquote⟩

theorem readText_writeText (t : Text) {rest : Text} (hrest : EndsValue rest) :
    readText (writeText t ++ rest) = some (t, rest) := by
  have hread := readQuoted_written t rest
  have hshort : ∀ u, t.flatMap writeChar ++ '"' :: rest ≠ '"' :: '"' :: u := by
    intro u heq
    cases t with
    | nil =>
      rw [List.flatMap_nil, List.nil_append, List.cons.injEq] at heq
      have hhead := hrest '"' (by rw [heq.2]; rfl)
      simp at hhead
    | cons c t =>
      obtain ⟨x, v, hc, hx⟩ := head?_writeChar c
      rw [List.flatMap_cons, hc] at heq
      exact hx (List.cons.inj heq).1
  rw [writeText, List.cons_append, List.append_assoc, List.singleton_append]
  generalize t.flatMap writeChar ++ '"' :: rest = body at hread hshort ⊢
  unfold readText
  split
  · next heq => exact absurd (List.cons.inj heq).2 (hshort _)
  · next heq => cases heq
  · next heq =>
    cases heq
    exact hread
  · next heq => cases heq
  · next hno _ => exact (hno body rfl).elim

theorem spells_text (t : Text) : Spells depth (writeText t) (.text t) := by
  apply spells_of_succ (by decide)
  intro steps rest _ hrest
  have hread := readText_writeText t hrest
  rw [writeText, List.cons_append] at hread
  rw [readValueWithin, if_pos (.inl rfl), hread]
  rfl

/-! ## Flags -/

def writeFlag (b : Bool) : Text := if b then "true".toList else "false".toList

theorem spells_flag (b : Bool) : Spells depth (writeFlag b) (.boolean b) := by
  cases b with
  | true => exact spells_of_succ (by decide) fun steps rest _ _ => rfl
  | false => exact spells_of_succ (by decide) fun steps rest _ _ => rfl

/-! ## Numbers -/

variable {rest : Text}

theorem EndsValue.head_not_mem (h : EndsValue rest) {c : Char} (hc : c ∈ rest.head?) :
    isDecimal c = false ∧ c ∉ ['_', '-', ':', '.', 'e', 'E', 'x', 'o', 'b'] := by
  have hmem := h c hc
  simp only [List.mem_cons, List.not_mem_nil, or_false] at hmem
  rcases hmem with rfl | rfl | rfl | rfl <;> decide

theorem ne_of_isDecimal {c d : Char} (hc : isDecimal c = true) (hd : isDecimal d = false) :
    c ≠ d := by
  rintro rfl
  exact Bool.false_ne_true (hd.symm.trans hc)

theorem readFixed_bind_expect {c : Char} (hc : c ∈ ['-', ':']) {digits : Text}
    (hdigits : ∀ d ∈ digits, isDecimal d = true) (hrest : EndsValue rest) (value n : Nat) :
    ((readFixed value n (digits ++ rest)).bind fun r => expect c r.2) = none := by
  have hmark : isDecimal c = false := by
    simp only [List.mem_cons, List.not_mem_nil, or_false] at hc
    rcases hc with rfl | rfl <;> rfl
  induction digits generalizing value n with
  | nil =>
    cases rest with
    | nil => cases n <;> rfl
    | cons d u =>
      obtain ⟨hd, hmem⟩ := hrest.head_not_mem (c := d) rfl
      cases n with
      | zero =>
        have hne : d ≠ c := by
          rintro rfl
          simp only [List.mem_cons, List.not_mem_nil, or_false] at hc
          rcases hc with rfl | rfl <;> exact hmem (by decide)
        exact if_neg hne
      | succ n =>
        have hnone : Text.decimalValue? d = none := by
          simpa only [isDecimal, Option.isSome_eq_false_iff, Option.isNone_iff_eq_none] using hd
        rw [List.nil_append, readFixed, hnone]
        rfl
  | cons d digits ih =>
    obtain ⟨hd, hdigits⟩ := List.forall_mem_cons.1 hdigits
    cases n with
    | zero => exact if_neg (ne_of_isDecimal hd hmark)
    | succ n =>
      obtain ⟨v, hv⟩ := Option.isSome_iff_exists.1 hd
      rw [List.cons_append, readFixed, hv]
      exact ih hdigits _ n

theorem beginsMoment_digits {digits : Text} (hdigits : ∀ d ∈ digits, isDecimal d = true)
    (hrest : EndsValue rest) : beginsMoment (digits ++ rest) = false := by
  unfold beginsMoment beginsWithDigits
  rw [readFixed_bind_expect (by decide) hdigits hrest,
    readFixed_bind_expect (by decide) hdigits hrest]
  rfl

theorem moreDigits_digits {digits : Text} (hdigits : ∀ d ∈ digits, isDecimal d = true)
    (hrest : EndsValue rest) : moreDigits isDecimal (digits ++ rest) = some (digits, rest) := by
  induction digits with
  | nil =>
    cases rest with
    | nil => rfl
    | cons d u =>
      obtain ⟨hd, hne⟩ := hrest.head_not_mem (c := d) rfl
      have hbar : d ≠ '_' := fun h => hne (by simp [h])
      rw [List.nil_append, moreDigits, if_neg (by simp [hd])]
      · exact fun h _ => hbar h
      · exact fun e t h _ => hbar h
  | cons d digits ih =>
    obtain ⟨hd, hdigits⟩ := List.forall_mem_cons.1 hdigits
    have hbar : d ≠ '_' := ne_of_isDecimal hd rfl
    rw [List.cons_append, moreDigits, if_pos hd, ih hdigits]
    · rfl
    · exact fun h _ => hbar h
    · exact fun e t h _ => hbar h

theorem isDecimal_decimal (n : Nat) : ∀ c ∈ Text.decimal n, isDecimal c = true :=
  (Json.numeral_decimal n).isDigit

theorem hexValue?_of_isDecimal {c : Char} (hc : isDecimal c = true) :
    Text.hexValue? c = Text.decimalValue? c := by
  rw [isDecimal, Text.decimalValue?] at hc
  split_ifs at hc with hrange
  · rw [Text.hexValue?, Text.decimalValue?, if_pos hrange, if_pos hrange]
  · cases hc

theorem valueOf_decimal (n : Nat) : valueOf 10 (Text.decimal n) = n := by
  have heq : valueOf 10 (Text.decimal n) = Json.valueOf (Text.decimal n) :=
    List.foldl_ext _ _ _ fun m d hd => by rw [hexValue?_of_isDecimal (isDecimal_decimal n d hd)]
  rw [heq, (Json.numeral_decimal n).value]

theorem readWhole_decimal (n : Nat) (hrest : EndsValue rest) :
    readWhole (Text.decimal n ++ rest) = some (Text.decimal n, rest) := by
  obtain ⟨hne, -, -, hhead⟩ := Json.numeral_decimal n
  have hdigit := isDecimal_decimal n
  by_cases hzero : (Text.decimal n).head? = some '0'
  · rw [(hhead hzero).2]
    rfl
  · obtain ⟨c, t, hcons⟩ := List.exists_cons_of_ne_nil hne
    rw [hcons] at hdigit hzero ⊢
    obtain ⟨hc, ht⟩ := List.forall_mem_cons.1 hdigit
    rw [List.cons_append, readWhole, readDigits, if_pos hc, moreDigits_digits ht hrest]
    · rfl
    · rintro u heq
      rw [(List.cons.inj heq).1] at hzero
      exact hzero rfl

theorem readAfterWhole_of_endsValue (whole : Text) (hrest : EndsValue rest) :
    readAfterWhole false whole rest = (integer? false (valueOf 10 whole)).map (·, rest) := by
  unfold readAfterWhole
  split
  · exact absurd (by simp) (hrest.head_not_mem (c := '.') rfl).2
  · exact absurd (by simp) (hrest.head_not_mem (c := 'e') rfl).2
  · exact absurd (by simp) (hrest.head_not_mem (c := 'E') rfl).2
  · cases integer? false (valueOf 10 whole) <;> rfl

theorem readNumber_of_digit {c : Char} {u : Text} (hc : isDecimal c = true)
    (hbase : c = '0' → ∀ d ∈ u.head?, d ∉ ['x', 'o', 'b']) :
    readNumber (c :: u) =
      (readWhole (c :: u)).bind fun (whole, t) => readAfterWhole false whole t := by
  have hsign : readSign (c :: u) = (false, c :: u) := by
    unfold readSign
    split
    · next heq => exact absurd (List.cons.inj heq).1 (ne_of_isDecimal hc rfl)
    · next heq => exact absurd (List.cons.inj heq).1 (ne_of_isDecimal hc rfl)
    · rfl
  unfold readNumber
  split
  · next heq =>
    obtain ⟨rfl, rfl⟩ := List.cons.inj heq
    exact absurd (by simp) (hbase rfl 'x' rfl)
  · next heq =>
    obtain ⟨rfl, rfl⟩ := List.cons.inj heq
    exact absurd (by simp) (hbase rfl 'o' rfl)
  · next heq =>
    obtain ⟨rfl, rfl⟩ := List.cons.inj heq
    exact absurd (by simp) (hbase rfl 'b' rfl)
  · rw [hsign]
    split
    · next heq =>
      have hi : c = 'i' := (List.cons.inj (Prod.mk.inj heq).2).1
      exact absurd hi (ne_of_isDecimal hc rfl)
    · next heq =>
      have hn : c = 'n' := (List.cons.inj (Prod.mk.inj heq).2).1
      exact absurd hn (ne_of_isDecimal hc rfl)
    · next heq =>
      obtain ⟨rfl, rfl⟩ := Prod.mk.inj heq
      rfl

theorem readNumber_decimal {n : Nat} (hn : n ≤ maxInteger) (hrest : EndsValue rest) :
    readNumber (Text.decimal n ++ rest) = some (.integer n, rest) := by
  obtain ⟨hne, -, -, hhead⟩ := Json.numeral_decimal n
  obtain ⟨c, t, hcons⟩ := List.exists_cons_of_ne_nil hne
  have hc : isDecimal c = true := isDecimal_decimal n c (by simp [hcons])
  have hwhole := readWhole_decimal n hrest
  have hafter := readAfterWhole_of_endsValue (Text.decimal n) hrest
  rw [valueOf_decimal, integer?, if_neg Bool.false_ne_true, if_pos hn] at hafter
  -- a numeral that starts with a zero is one, so no mark of another base comes after it
  have hbase : c = '0' → ∀ d ∈ (t ++ rest).head?, d ∉ ['x', 'o', 'b'] := by
    rintro rfl d hd hmem
    rw [hcons] at hhead
    rw [(List.cons.inj (hhead rfl).2).2, List.nil_append] at hd
    refine (hrest.head_not_mem hd).2 ?_
    simp only [List.mem_cons, List.not_mem_nil, or_false] at hmem
    rcases hmem with rfl | rfl | rfl <;> decide
  rw [hcons, List.cons_append] at hwhole ⊢
  rw [readNumber_of_digit hc hbase, hwhole, Option.bind_some, ← hcons]
  exact hafter

theorem spells_natural {n : Nat} (hn : n ≤ maxInteger) :
    Spells depth (Text.decimal n) (.integer n) := by
  obtain ⟨c, t, hcons⟩ := List.exists_cons_of_ne_nil (Json.numeral_decimal n).ne_nil
  have hc : isDecimal c = true := isDecimal_decimal n c (by simp [hcons])
  have hread : ∀ rest, EndsValue rest →
      readPlain (Text.decimal n ++ rest) = some (.integer n, rest) := by
    intro rest hrest
    rw [readPlain, beginsMoment_digits (isDecimal_decimal n) hrest, if_neg Bool.false_ne_true,
      readNumber_decimal hn hrest]
  rw [hcons] at hread ⊢
  apply spells_of_succ
  · intro hmem
    simp only [List.mem_cons, List.not_mem_nil, or_false] at hmem
    rcases hmem with rfl | rfl | rfl | rfl | rfl | rfl <;> cases hc
  · intro steps rest _ hrest
    have hquote : ¬(c = '"' ∨ c = '\'') := by
      rintro (h | h) <;> exact ne_of_isDecimal hc rfl h
    rw [readValueWithin, if_neg hquote, if_neg (ne_of_isDecimal hc rfl),
      if_neg (ne_of_isDecimal hc rfl), if_neg (ne_of_isDecimal hc rfl),
      if_neg (ne_of_isDecimal hc rfl)]
    exact hread rest hrest

/-! ## Arrays -/

/-- Values between brackets, each with a comma after it. -/
def writeArray (ts : List Text) : Text := '[' :: (ts.flatMap (· ++ [',']) ++ [']'])

theorem skipBlankLines_cons {c : Char} (hc : c ∉ [' ', '\t', '\n', '\r', '#']) (t : Text) :
    skipBlankLines false (c :: t) = c :: t := by
  simp only [List.mem_cons, List.not_mem_nil, or_false, not_or] at hc
  obtain ⟨hspace, htab, hnewline, hreturn, hhash⟩ := hc
  rw [skipBlankLines]
  · simp [hnewline, isSpace, hspace, htab, hhash]
  · exact fun rest h _ => hreturn h

theorem endsValue_cons {c : Char} (hc : c ∈ [',', ']', '\x7d', '\n']) (t : Text) :
    EndsValue (c :: t) := by
  intro d hd
  cases hd
  exact hc

theorem readItems_of_comma {t : Text} {node : Node} (h : Spells depth t node) {steps : Nat}
    (hsteps : t.length ≤ steps) (after : Text) :
    readItems (steps + 1) depth (t ++ ',' :: after) =
      (readItems steps depth after).map fun (items, rest) => (node :: items, rest) := by
  obtain ⟨c, u, ht, hc⟩ := h.begins
  have hvalue := h.reads steps (',' :: after) hsteps (endsValue_cons (by decide) _)
  have hskip : skipBlankLines false (t ++ ',' :: after) = t ++ ',' :: after := by
    rw [ht]
    exact skipBlankLines_cons (fun hmem => hc (List.mem_append_left [']'] hmem)) _
  have hcomma : skipBlankLines false (',' :: after) = ',' :: after :=
    skipBlankLines_cons (by decide) _
  rw [readItems, hskip]
  split
  · next heq =>
    rw [ht] at heq
    exact absurd (List.cons.inj heq).1 fun h => hc (by simp [h])
  · simp only [hvalue, Option.bind_eq_bind, Option.bind_some, hcomma]
    cases readItems steps depth after <;> rfl

theorem readItems_written {ts : List Text} {nodes : List Node}
    (h : List.Forall₂ (Spells depth) ts nodes) {steps : Nat}
    (hsteps : (ts.flatMap (· ++ [','])).length < steps) :
    readItems steps depth (ts.flatMap (· ++ [',']) ++ ']' :: rest) = some (nodes, rest) := by
  induction h generalizing steps with
  | nil =>
    cases steps with
    | zero => cases hsteps
    | succ steps =>
      rw [List.flatMap_nil, List.nil_append, readItems, skipBlankLines_cons (by decide)]
      rfl
  | cons hhead _ ih =>
    cases steps with
    | zero => cases hsteps
    | succ steps =>
      simp only [List.flatMap_cons, List.length_append, List.length_singleton] at hsteps
      rw [List.flatMap_cons, List.append_assoc, List.append_assoc, List.singleton_append,
        readItems_of_comma hhead (by omega), ih (by omega)]
      rfl

theorem spells_array {ts : List Text} {nodes : List Node}
    (h : List.Forall₂ (Spells depth) ts nodes) :
    Spells (depth + 1) (writeArray ts) (.array nodes) := by
  apply spells_of_succ (by decide)
  intro steps rest hsteps _
  rw [List.length_append, List.length_singleton] at hsteps
  rw [List.append_assoc, List.singleton_append, readValueWithin, if_neg (by decide), if_pos rfl,
    if_neg (Nat.succ_ne_zero depth), Nat.add_sub_cancel, readItems_written h (by omega)]
  rfl

/-! ## Tables -/

/-- Names that need no quotes. -/
structure IsBare (name : Text) : Prop where
  ne_nil : name ≠ []
  chars : ∀ c ∈ name, isBareChar c = true

instance (name : Text) : Decidable (IsBare name) :=
  decidable_of_iff ((!name.isEmpty && name.all isBareChar) = true) <| by
    rw [Bool.and_eq_true, Bool.not_eq_true', List.isEmpty_eq_false_iff, List.all_eq_true]
    exact ⟨fun h => ⟨h.1, h.2⟩, fun h => ⟨h.ne_nil, h.chars⟩⟩

theorem IsBare.exists_cons {name : Text} (h : IsBare name) :
    ∃ c u, name = c :: u ∧ isBareChar c = true := by
  obtain ⟨c, u, hcons⟩ := List.exists_cons_of_ne_nil h.ne_nil
  exact ⟨c, u, hcons, h.chars c (by simp [hcons])⟩

/-- A key and its value. -/
def writeField (f : Text × Text) : Text := f.1 ++ '=' :: f.2

/-- Entries between braces. -/
def writeTable (fields : List (Text × Text)) : Text :=
  '\x7b' :: (Text.intersperse [','] (fields.map writeField) ++ ['\x7d'])

/-- A key and the spelling of its value. -/
structure SpellsField (depth : Nat) (f : Text × Text) (e : Text × Node) : Prop where
  key : f.1 = e.1
  bare : IsBare f.1
  value : Spells depth f.2 e.2

theorem skipSpaces_cons {c : Char} (hc : isSpace c = false) (t : Text) :
    skipSpaces (c :: t) = c :: t :=
  List.dropWhile_cons_of_neg (by simp [hc])

theorem Spells.skipSpaces_append {t : Text} {node : Node} (h : Spells depth t node) (u : Text) :
    skipSpaces (t ++ u) = t ++ u := by
  obtain ⟨c, v, ht, hc⟩ := h.begins
  simp only [List.mem_cons, List.not_mem_nil, or_false, not_or] at hc
  rw [ht]
  exact skipSpaces_cons (by simp [isSpace, hc.1, hc.2.1]) _

theorem ne_of_isBareChar {c d : Char} (hc : isBareChar c = true) (hd : isBareChar d = false) :
    c ≠ d := by
  rintro rfl
  exact Bool.false_ne_true (hd.symm.trans hc)

theorem isSpace_of_isBareChar {c : Char} (hc : isBareChar c = true) : isSpace c = false := by
  simp [isSpace, ne_of_isBareChar hc (d := ' ') rfl, ne_of_isBareChar hc (d := '\t') rfl]

theorem readName_bare {name : Text} (h : IsBare name) (t : Text) :
    readName (name ++ '=' :: t) = some (name, '=' :: t) := by
  obtain ⟨c, u, hcons, hc⟩ := h.exists_cons
  have htake : (name ++ '=' :: t).takeWhile isBareChar = name := by
    rw [List.takeWhile_append_of_pos h.chars, List.takeWhile_cons_of_neg (by decide),
      List.append_nil]
  have hdrop : (name ++ '=' :: t).dropWhile isBareChar = '=' :: t := by
    rw [List.dropWhile_append_of_pos h.chars, List.dropWhile_cons_of_neg (by decide)]
  unfold readName
  split
  · next heq =>
    rw [hcons] at heq
    exact absurd (List.cons.inj heq).1 (ne_of_isBareChar hc rfl)
  · next heq =>
    rw [hcons] at heq
    exact absurd (List.cons.inj heq).1 (ne_of_isBareChar hc rfl)
  · dsimp only
    rw [htake, hdrop, if_neg h.ne_nil]

theorem readKey_bare {name : Text} (h : IsBare name) (t : Text) :
    readKey (name ++ '=' :: t) = some ([name], '=' :: t) := by
  obtain ⟨c, u, hcons, hc⟩ := h.exists_cons
  have hskip : skipSpaces (name ++ '=' :: t) = name ++ '=' :: t := by
    rw [hcons]
    exact skipSpaces_cons (isSpace_of_isBareChar hc) _
  change readNames (78 + 1) (name ++ '=' :: t) = _
  rw [readNames, hskip, readName_bare h]
  have hequals : skipSpaces ('=' :: t) = '=' :: t := skipSpaces_cons rfl t
  simp only [Option.bind_eq_bind, Option.bind_some, hequals]
  rfl

theorem insert_new {kind : TableKind} (hkind : kind ≠ .dotted) {es : Entries} {name : Text}
    (hnew : es.get? name = none) (node : Node) :
    insert kind es [name] node = some (es ++ [(name, node)]) := by
  have hadd : addEntry false name node kind es = some (es ++ [(name, node)], ()) := by
    rw [addEntry, decide_eq_false hkind, hnew, Entries.set_of_get?_eq_none hnew]
    rfl
  change ((addEntry false name node kind es).bind fun r => some r.1) = _
  rw [hadd]
  rfl

variable {es : Entries} {f : Text × Text} {e : Text × Node} {steps : Nat}

theorem readFields_writeField (h : SpellsField depth f e) (hnew : es.get? e.1 = none)
    (hsteps : f.2.length ≤ steps) {c : Char} (hc : c ∈ [',', '\x7d']) (after : Text) :
    readFields (steps + 1) depth es (writeField f ++ c :: after) =
      if c = ',' then readFields steps depth (es ++ [e]) after else some (es ++ [e], after) := by
  have hend : EndsValue (c :: after) := by
    intro d hd
    cases hd
    simp only [List.mem_cons, List.not_mem_nil, or_false] at hc ⊢
    rcases hc with rfl | rfl <;> decide
  have hvalue := h.value.reads steps (c :: after) hsteps hend
  have hinsert : insert .inline es [e.1] e.2 = some (es ++ [e]) := insert_new (by decide) hnew e.2
  rw [writeField, List.append_assoc, List.cons_append, readFields, readKey_bare h.bare]
  simp only [Option.bind_eq_bind, Option.bind_some, expect, if_true, h.value.skipSpaces_append,
    hvalue, h.key, hinsert]
  simp only [List.mem_cons, List.not_mem_nil, or_false] at hc
  rcases hc with rfl | rfl
  · rw [skipSpaces_cons rfl]
    rfl
  · rw [skipSpaces_cons rfl]
    rfl

theorem length_writeField (f : Text × Text) : (writeField f).length = f.1.length + f.2.length + 1 := by
  rw [writeField, List.length_append, List.length_cons]
  omega

theorem get?_eq_none_of_nodup {entries : Entries}
    (h : ((es ++ e :: entries).map Prod.fst).Nodup) : es.get? e.1 = none := by
  rw [List.map_append, List.map_cons] at h
  rw [Entries.get?_eq_none_iff]
  intro hmem
  exact (List.nodup_append.1 h).2.2 e.1 hmem e.1 List.mem_cons_self rfl

theorem readFields_written {fields : List (Text × Text)} {entries : Entries}
    (h : List.Forall₂ (SpellsField depth) fields entries) (hne : fields ≠ [])
    (hkeys : ((es ++ entries).map Prod.fst).Nodup)
    (hsteps : (Text.intersperse [','] (fields.map writeField)).length ≤ steps) (after : Text) :
    readFields steps depth es (Text.intersperse [','] (fields.map writeField) ++ '\x7d' :: after) =
      some (es ++ entries, after) := by
  induction h generalizing es steps with
  | nil => exact absurd rfl hne
  | @cons f e fields entries hhead htail ih =>
    have hnew := get?_eq_none_of_nodup hkeys
    cases htail with
    | nil =>
      rw [List.map_cons, List.map_nil, Text.intersperse] at hsteps ⊢
      rw [length_writeField] at hsteps
      obtain ⟨steps, rfl⟩ : ∃ n, steps = n + 1 := ⟨steps - 1, by omega⟩
      exact readFields_writeField hhead hnew (by omega) (by decide) after
    | @cons f' e' fields entries hnext htail =>
      have hjoin : Text.intersperse [','] ((f :: f' :: fields).map writeField) =
          writeField f ++ ',' :: Text.intersperse [','] ((f' :: fields).map writeField) := by
        rw [List.map_cons, List.map_cons, Text.intersperse, List.append_assoc,
          List.singleton_append]
        exact List.cons_ne_nil _ _
      rw [hjoin, List.length_append, List.length_cons, length_writeField] at hsteps
      obtain ⟨steps, rfl⟩ : ∃ n, steps = n + 1 := ⟨steps - 1, by omega⟩
      have hkeys' : ((es ++ [e] ++ e' :: entries).map Prod.fst).Nodup := by
        rwa [List.append_assoc, List.singleton_append]
      rw [hjoin, List.append_assoc, List.cons_append,
        readFields_writeField hhead hnew (by omega) (by decide), if_pos rfl,
        ih (List.cons_ne_nil _ _) hkeys' (by omega), List.append_assoc, List.singleton_append]

theorem exists_cons_of_fields {fields : List (Text × Text)} {entries : Entries}
    (h : List.Forall₂ (SpellsField depth) fields entries) (hne : fields ≠ []) :
    ∃ c u, Text.intersperse [','] (fields.map writeField) = c :: u ∧ isBareChar c = true := by
  cases h with
  | nil => exact absurd rfl hne
  | @cons f e fields entries hhead _ =>
    obtain ⟨c, u, hcons, hc⟩ := hhead.bare.exists_cons
    cases fields with
    | nil => exact ⟨c, u ++ '=' :: f.2, by simp [Text.intersperse, writeField, hcons], hc⟩
    | cons f' fields => exact ⟨c, _, by simp [Text.intersperse, writeField, hcons]; rfl, hc⟩

theorem spells_table {fields : List (Text × Text)} {entries : Entries}
    (h : List.Forall₂ (SpellsField depth) fields entries) (hne : fields ≠ [])
    (hkeys : (entries.map Prod.fst).Nodup) :
    Spells (depth + 1) (writeTable fields) (.table .inline entries) := by
  apply spells_of_succ (by decide)
  intro steps rest hsteps _
  rw [List.length_append, List.length_singleton] at hsteps
  have hread : readFields steps depth []
      (Text.intersperse [','] (fields.map writeField) ++ '\x7d' :: rest) = some (entries, rest) :=
    readFields_written h hne (by rwa [List.nil_append]) (by omega) rest
  obtain ⟨c, u, hcons, hc⟩ := exists_cons_of_fields h hne
  rw [List.append_assoc, List.singleton_append, readValueWithin, if_neg (by decide),
    if_neg (by decide), if_pos rfl, if_neg (Nat.succ_ne_zero depth), Nat.add_sub_cancel]
  rw [hcons, List.cons_append] at hread ⊢
  -- a key does not begin with a brace, so the table is not read as an empty one
  rw [skipSpaces_cons (isSpace_of_isBareChar hc)]
  split
  · next heq => exact absurd (List.cons.inj heq).1 (ne_of_isBareChar hc rfl)
  · rw [hread]
    rfl

/-! ## Lines -/

/-- Entries with a line for each. -/
def writeLines (fields : List (Text × Text)) : Text :=
  fields.flatMap fun f => writeField f ++ ['\n']

theorem readLine_written (h : SpellsField depthLimit f e) (after : Text) :
    readLine (writeField f ++ '\n' :: after) = some (.entry [e.1] e.2, after) := by
  obtain ⟨c, u, hcons, hc⟩ := h.bare.exists_cons
  have hkey := readKey_bare h.bare (f.2 ++ '\n' :: after)
  have hvalue : readValue (f.2 ++ '\n' :: after) = some (e.2, '\n' :: after) := by
    refine h.value.reads _ _ ?_ (endsValue_cons (by decide) _)
    rw [List.length_append]
    omega
  have hend : readLineEnd ('\n' :: after) = some after := by
    rw [readLineEnd, skipSpaces_cons rfl]
    rfl
  rw [writeField, List.append_assoc, List.cons_append]
  rw [hcons, List.cons_append] at hkey ⊢
  have hnewline : newline? (c :: (u ++ '=' :: (f.2 ++ '\n' :: after))) = none := by
    unfold newline?
    split
    · next heq => exact absurd (List.cons.inj heq).1 (ne_of_isBareChar hc rfl)
    · next heq => exact absurd (List.cons.inj heq).1 (ne_of_isBareChar hc rfl)
    · rfl
  have hhash : (c :: (u ++ '=' :: (f.2 ++ '\n' :: after))).head? ≠ some '#' :=
    fun heq => ne_of_isBareChar hc rfl (Option.some.inj heq)
  unfold readLine
  split
  · next heq => exact absurd (List.cons.inj heq).1 (ne_of_isBareChar hc rfl)
  · next heq => exact absurd (List.cons.inj heq).1 (ne_of_isBareChar hc rfl)
  · rw [if_neg hhash, hnewline, ← h.key, hcons]
    simp only [hkey, Option.bind_eq_bind, Option.bind_some, expect, if_true,
      h.value.skipSpaces_append, hvalue, hend]
    rfl

theorem readLinesWithin_written {fields : List (Text × Text)} {entries : Entries}
    (h : List.Forall₂ (SpellsField depthLimit) fields entries) (hsteps : fields.length < steps) :
    readLinesWithin steps (writeLines fields) =
      some (entries.map fun e => .entry [e.1] e.2) := by
  induction h generalizing steps with
  | nil =>
    cases steps with
    | zero => cases hsteps
    | succ steps => rfl
  | @cons f e fields entries hhead htail ih =>
    cases steps with
    | zero => cases hsteps
    | succ steps =>
      have hline := readLine_written hhead (writeLines fields)
      have hrest := ih (Nat.lt_of_succ_lt_succ hsteps)
      obtain ⟨c, u, hcons, hc⟩ := hhead.bare.exists_cons
      have hskip : skipSpaces (writeField f ++ '\n' :: writeLines fields) =
          writeField f ++ '\n' :: writeLines fields := by
        rw [writeField, hcons]
        exact skipSpaces_cons (isSpace_of_isBareChar hc) _
      rw [writeLines, List.flatMap_cons, ← writeLines, List.append_assoc, List.singleton_append,
        readLinesWithin, hskip]
      split
      · next heq => simp at heq
      · rw [hline]
        simp only [Option.bind_eq_bind, Option.bind_some, hrest]
        rfl

theorem foldlM_take_written (root : Entries) {entries : Entries}
    (hkeys : ((es ++ entries).map Prod.fst).Nodup) :
    (entries.map fun e => Line.entry [e.1] e.2).foldlM Draft.take ⟨root, es, .root⟩ =
      some ⟨root, es ++ entries, .root⟩ := by
  induction entries generalizing es with
  | nil => rw [List.append_nil]; rfl
  | cons e entries ih =>
    have hinsert : insert .headed es [e.1] e.2 = some (es ++ [e]) :=
      insert_new (by decide) (get?_eq_none_of_nodup hkeys) e.2
    have hkeys' : ((es ++ [e] ++ entries).map Prod.fst).Nodup := by
      rwa [List.append_assoc, List.singleton_append]
    have htake : Draft.take ⟨root, es, .root⟩ (.entry [e.1] e.2) = some ⟨root, es ++ [e], .root⟩ := by
      rw [Draft.take, hinsert]
      rfl
    rw [List.map_cons, List.foldlM_cons, htake]
    change (entries.map fun e => Line.entry [e.1] e.2).foldlM Draft.take ⟨root, es ++ [e], .root⟩ = _
    rw [ih hkeys', List.append_assoc, List.singleton_append]

theorem length_le_writeLines (fields : List (Text × Text)) :
    fields.length ≤ (writeLines fields).length := by
  induction fields with
  | nil => exact Nat.le_refl _
  | cons f fields ih =>
    have hcons : writeLines (f :: fields) = writeField f ++ ['\n'] ++ writeLines fields :=
      List.flatMap_cons
    rw [hcons, List.length_append, List.length_append, List.length_cons, List.length_singleton]
    omega

theorem head?_writeLines {fields : List (Text × Text)} {entries : Entries}
    (h : List.Forall₂ (SpellsField depthLimit) fields entries) :
    (writeLines fields).head? ≠ some byteOrderMark := by
  cases h with
  | nil =>
    intro heq
    cases heq
  | @cons f e fields entries hhead _ =>
    obtain ⟨c, u, hcons, hc⟩ := hhead.bare.exists_cons
    rw [writeLines, List.flatMap_cons, writeField, hcons]
    exact fun heq => ne_of_isBareChar hc rfl (Option.some.inj heq)

/-- **A document spelled out.** Entries with keys of their own, a line for each, are read back. -/
theorem parse_writeLines {fields : List (Text × Text)} {entries : Entries}
    (h : List.Forall₂ (SpellsField depthLimit) fields entries)
    (hkeys : (entries.map Prod.fst).Nodup) : parse (writeLines fields) = some entries := by
  have hlines : readLines (writeLines fields) =
      some (entries.map fun e => .entry [e.1] e.2) := by
    rw [readLines, if_neg (head?_writeLines h)]
    exact readLinesWithin_written h (Nat.lt_succ_of_le (length_le_writeLines fields))
  have hdraft : (entries.map fun e => Line.entry [e.1] e.2).foldlM Draft.take {} =
      some ⟨[], entries, .root⟩ := foldlM_take_written [] hkeys
  rw [parse, hlines]
  simp only [Option.bind_eq_bind, Option.bind_some, hdraft]
  rfl

end OperatorShell.Document
