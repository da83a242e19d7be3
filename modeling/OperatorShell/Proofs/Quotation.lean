import Mathlib.Tactic.SplitIfs
import OperatorShell.Proofs.Numeral
import OperatorShell.Proofs.Utf8
import OperatorShell.Text.Printable

/-!
# Quoted texts read back

In a quotation a character stands for itself, or a backslash and a letter stand for it, or its number
does, between braces. A reader that goes from character to character, and is always in one of four
states, never takes one for another: it finds where a quotation ends, whatever follows, and which
text was quoted.

* `Text.readQuotedFrom`, `Text.readQuoted?`: the reader.
* `Text.openQuotes`: how many double quotes of a text no backslash escapes.
* `Text.IsQuotation`: what it takes to quote a text, with no control character left in it.
* `Text.isQuotation_quoted`: every text is quoted so.
-/

namespace OperatorShell.Text

/-! ## The reader -/

/-- Where in a quotation a reader is: outside of escapes, after a backslash, before the brace that
opens a number, or in the number, with the value of the digits so far if there are any. -/
inductive QuoteState where
  | plain
  | escape
  | brace
  | number (value : Option Nat)

/-- The character of an escape of one letter. -/
def shortEscape? : Char → Option Char
  | '0' => some '\x00'
  | 't' => some '\t'
  | 'r' => some '\r'
  | 'n' => some '\n'
  | '\'' => some '\''
  | '"' => some '"'
  | '\\' => some '\\'
  | _ => none

/-- Puts a character in front of a text that was read. -/
def withFirst (c : Char) (read : Option (Text × Text)) : Option (Text × Text) :=
  read.map fun (t, rest) => (c :: t, rest)

/-- The text up to the double quote that ends a quotation, and what follows. -/
def readQuotedFrom : QuoteState → Text → Option (Text × Text)
  | _, [] => none
  | .plain, c :: rest =>
    if c = '"' then some ([], rest)
    else if c = '\\' then readQuotedFrom .escape rest
    else withFirst c (readQuotedFrom .plain rest)
  | .escape, c :: rest =>
    if c = 'u' then readQuotedFrom .brace rest
    else (shortEscape? c).bind fun d => withFirst d (readQuotedFrom .plain rest)
  | .brace, c :: rest => if c = '\x7b' then readQuotedFrom (.number none) rest else none
  | .number value, c :: rest =>
    if c = '\x7d' then
      (value.bind (charOf? 0)).bind fun d => withFirst d (readQuotedFrom .plain rest)
    else (hexValue? c).bind fun d => readQuotedFrom (.number (some (16 * value.getD 0 + d))) rest

/-- The text of the quotation at the front of a text, and what follows. -/
def readQuoted? : Text → Option (Text × Text)
  | '"' :: t => readQuotedFrom .plain t
  | _ => none

/-! ## One character -/

theorem escapeChar_cases (c : Char) :
    (∃ letter, escapeChar c = ['\\', letter] ∧ shortEscape? letter = some c ∧
        isControl letter = false) ∨
      (escapeChar c = [c] ∧ c ≠ '"' ∧ c ≠ '\\' ∧ isControl c = false) ∨
      escapeChar c = ['\\', 'u', '\x7b'] ++ hexadecimal c.toNat ++ ['\x7d'] := by
  unfold escapeChar
  split_ifs with hzero ht hr hn hback hquote hprinted
  · exact .inl ⟨'0', rfl, by rw [hzero]; rfl, by decide⟩
  · exact .inl ⟨'t', rfl, by rw [ht]; rfl, by decide⟩
  · exact .inl ⟨'r', rfl, by rw [hr]; rfl, by decide⟩
  · exact .inl ⟨'n', rfl, by rw [hn]; rfl, by decide⟩
  · exact .inl ⟨'\\', rfl, by rw [hback]; rfl, by decide⟩
  · exact .inl ⟨'"', rfl, by rw [hquote]; rfl, by decide⟩
  · have hprintable : isPrintable c = true := (Bool.and_eq_true_iff.1 hprinted).1
    have hcontrol : isControl c = false := by
      unfold isPrintable at hprintable
      simpa using (Bool.and_eq_true_iff.1 hprintable).1
    exact .inr (.inl ⟨rfl, hquote, hback, hcontrol⟩)
  · exact .inr (.inr rfl)

theorem hexValue?_digit {d : Nat} (h : d < 16) : hexValue? (digit d) = some d := by
  have hall : ∀ d : Fin 16, hexValue? (digit d) = some d.val := by decide
  exact hall ⟨d, h⟩

theorem digit_plain {d : Nat} (h : d < 16) :
    isControl (digit d) = false ∧ digit d ≠ '"' ∧ digit d ≠ '\\' ∧ digit d ≠ '\x7d' := by
  have hall : ∀ d : Fin 16, isControl (digit d) = false ∧ digit d ≠ '"' ∧ digit d ≠ '\\' ∧
      digit d ≠ '\x7d' := by decide
  exact hall ⟨d, h⟩

theorem readQuotedFrom_digit {d : Nat} (h : d < 16) (value : Option Nat) (rest : Text) :
    readQuotedFrom (.number value) (digit d :: rest) =
      readQuotedFrom (.number (some (16 * value.getD 0 + d))) rest := by
  obtain ⟨-, -, -, hbrace⟩ := digit_plain h
  rw [readQuotedFrom, if_neg hbrace, hexValue?_digit h, Option.bind_some]

theorem readQuotedFrom_hexadecimal (n : Nat) (rest : Text) :
    readQuotedFrom (.number none) (hexadecimal n ++ rest) =
      readQuotedFrom (.number (some n)) rest := by
  -- all digits but the last are those of a smaller number, so that what follows has to be any text
  unfold hexadecimal
  induction n using Nat.strongRecOn generalizing rest with
  | ind n ih =>
    rw [digits]
    split
    · next hle =>
      have hfront := ih (n / 16) (by omega) (digit (n % 16) :: rest)
      have hlast : n % 16 < 16 := Nat.mod_lt n (by decide)
      rw [List.append_assoc, List.singleton_append, hfront, readQuotedFrom_digit hlast,
        Option.getD_some, Nat.div_add_mod]
    · next hlt =>
      have hn : n < 16 := by omega
      rw [List.singleton_append, readQuotedFrom_digit hn, Option.getD_none, Nat.mul_zero,
        Nat.zero_add]

theorem readQuotedFrom_escapeChar (c : Char) (rest : Text) :
    readQuotedFrom .plain (escapeChar c ++ rest) = withFirst c (readQuotedFrom .plain rest) := by
  obtain ⟨letter, heq, hshort, -⟩ | ⟨heq, hquote, hback, -⟩ | heq := escapeChar_cases c
  · have hletter : letter ≠ 'u' := by
      rintro rfl
      cases hshort
    show readQuotedFrom .plain (escapeChar c ++ rest) = _
    rw [heq, List.cons_append, List.singleton_append, readQuotedFrom, if_neg (by decide),
      if_pos rfl, readQuotedFrom, if_neg hletter, hshort, Option.bind_some]
  · rw [heq, List.singleton_append, readQuotedFrom, if_neg hquote, if_neg hback]
  · have hchar : charOf? 0 c.toNat = some c := charOf?_eq_some_iff.2 ⟨rfl, Nat.zero_le _⟩
    have hopen : readQuotedFrom .plain (escapeChar c ++ rest) =
        readQuotedFrom (.number none) (hexadecimal c.toNat ++ '\x7d' :: rest) := by
      rw [heq, List.append_assoc, List.append_assoc]
      rfl
    rw [hopen, readQuotedFrom_hexadecimal, readQuotedFrom, if_pos rfl, Option.bind_some, hchar,
      Option.bind_some]

/-! ## Double quotes that end a quotation -/

/-- How many double quotes of a text no backslash escapes; `escaped` tells whether a backslash before
the text escapes its first character. -/
def openQuotes (escaped : Bool) : Text → Nat
  | [] => 0
  | c :: rest =>
    if escaped then openQuotes false rest
    else if c = '\\' then openQuotes true rest
    else (if c = '"' then 1 else 0) + openQuotes false rest

theorem openQuotes_append {t : Text} (h : ∀ c ∈ t, c ≠ '"' ∧ c ≠ '\\') (rest : Text) :
    openQuotes false (t ++ rest) = openQuotes false rest := by
  induction t with
  | nil => rfl
  | cons c t ih =>
    obtain ⟨hquote, hback⟩ := h c List.mem_cons_self
    rw [List.cons_append, openQuotes, if_neg (by decide), if_neg hback, if_neg hquote,
      ih fun d hd => h d (List.mem_cons_of_mem _ hd), Nat.zero_add]

theorem openQuotes_escapeChar (c : Char) (rest : Text) :
    openQuotes false (escapeChar c ++ rest) = openQuotes false rest := by
  obtain ⟨letter, heq, -⟩ | ⟨heq, hquote, hback, -⟩ | heq := escapeChar_cases c
  · rw [heq]
    rfl
  · rw [heq]
    exact openQuotes_append (by simpa using ⟨hquote, hback⟩) rest
  · have hbody : ∀ d ∈ '\x7b' :: (hexadecimal c.toNat ++ ['\x7d']), d ≠ '"' ∧ d ≠ '\\' := by
      refine List.forall_mem_cons.2 ⟨by decide, List.forall_mem_append.2 ⟨?_, by simp⟩⟩
      intro d hd
      obtain ⟨value, hvalue, rfl⟩ := exists_digit_of_mem_digits (by decide) hd
      obtain ⟨-, hquote, hback, -⟩ := digit_plain hvalue
      exact ⟨hquote, hback⟩
    rw [heq]
    exact openQuotes_append hbody rest

/-! ## Whole texts -/

/-- No control character is in a text. -/
def NoControl (t : Text) : Prop := ∀ c ∈ t, isControl c = false

instance (t : Text) : Decidable (NoControl t) := List.decidableBAll _ t

/-- A quotation of a text, free of control characters. Only the double quote at its end can end it,
and what was quoted can be read from it whatever follows. -/
structure IsQuotation (quotation t : Text) : Prop where
  delimited : ∃ body, quotation = '"' :: (body ++ ['"']) ∧ openQuotes false body = 0 ∧
    openQuotes false (body ++ ['"']) = 1
  noControl : NoControl quotation
  readBack : ∀ rest, readQuoted? (quotation ++ rest) = some (t, rest)

theorem NoControl.newline_not_mem {t : Text} (h : NoControl t) : '\n' ∉ t :=
  fun hmem => absurd (h _ hmem) (by decide)

theorem noControl_append {t u : Text} : NoControl (t ++ u) ↔ NoControl t ∧ NoControl u :=
  List.forall_mem_append

theorem noControl_cons {c : Char} {t : Text} : NoControl (c :: t) ↔ isControl c = false ∧ NoControl t :=
  List.forall_mem_cons

theorem noControl_digits {base : Nat} (hbase : 2 ≤ base) (hle : base ≤ 16) (n : Nat) :
    NoControl (digits base n) := by
  intro c hc
  obtain ⟨d, hd, rfl⟩ := exists_digit_of_mem_digits hbase hc
  exact (digit_plain (by omega)).1

theorem noControl_escapeChar (c : Char) : NoControl (escapeChar c) := by
  obtain ⟨letter, heq, -, hletter⟩ | ⟨heq, -, -, hcontrol⟩ | heq := escapeChar_cases c
  · rw [heq]
    exact noControl_cons.2 ⟨by decide, noControl_cons.2 ⟨hletter, nofun⟩⟩
  · rw [heq]
    exact noControl_cons.2 ⟨hcontrol, nofun⟩
  · rw [heq, noControl_append, noControl_append]
    exact ⟨⟨by decide, noControl_digits (by decide) (by decide) _⟩, by decide⟩

theorem openQuotes_escaped (t rest : Text) :
    openQuotes false (t.flatMap escapeChar ++ rest) = openQuotes false rest := by
  induction t with
  | nil => rfl
  | cons c t ih => rw [List.flatMap_cons, List.append_assoc, openQuotes_escapeChar, ih]

theorem readQuotedFrom_escaped (t rest : Text) :
    readQuotedFrom .plain (t.flatMap escapeChar ++ '"' :: rest) = some (t, rest) := by
  induction t with
  | nil => rfl
  | cons c t ih =>
    rw [List.flatMap_cons, List.append_assoc, readQuotedFrom_escapeChar, ih]
    rfl

/-- Every text is quoted without control characters, and can be read back. -/
theorem isQuotation_quoted (t : Text) : IsQuotation (quoted t) t := by
  refine ⟨⟨t.flatMap escapeChar, rfl, ?_, openQuotes_escaped t ['"']⟩, ?_, ?_⟩
  · have hnil := openQuotes_escaped t []
    rwa [List.append_nil] at hnil
  · have hbody : NoControl (t.flatMap escapeChar) := by
      intro c hc
      obtain ⟨d, -, hd⟩ := List.mem_flatMap.1 hc
      exact noControl_escapeChar d c hd
    exact noControl_cons.2 ⟨by decide, noControl_append.2 ⟨hbody, by decide⟩⟩
  · intro rest
    have hread := readQuotedFrom_escaped t rest
    unfold quoted
    rw [List.cons_append, List.append_assoc]
    exact hread

theorem eq_of_quoted_append {t t' rest rest' : Text}
    (h : quoted t ++ rest = quoted t' ++ rest') : t = t' ∧ rest = rest' := by
  have hread := (isQuotation_quoted t).readBack rest
  rw [h, (isQuotation_quoted t').readBack rest'] at hread
  obtain ⟨ht, hrest⟩ := Prod.mk.inj (Option.some.inj hread)
  exact ⟨ht.symm, hrest.symm⟩

end OperatorShell.Text
