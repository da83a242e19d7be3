import OperatorShell.Json
import OperatorShell.Proofs.Numeral
import OperatorShell.Proofs.Utf8
import Mathlib.Tactic.SplitIfs

/-!
# Flat JSON objects read back

A reader that shares no code with the renderer: it knows every escape, numerals without needless
zeros, and blanks between tokens, and it refuses control characters inside a text. Tokens are read
from the text, and the object from its tokens.

* `Json.readChar?`, `Json.readText?`, `Json.readToken?`, `Json.tokens?`: from characters to tokens.
* `Json.readObject?`: the fields of an object, in their order.
* `readObject?_renderObject`: a rendered object is read back.
* `freeOfControls_renderObject`: a rendered object has no newline in it, nor any other control.
-/

namespace OperatorShell.Json

/-! ## The reader -/

/-- A code unit in four hexadecimal digits. -/
def unitOf? (a b c d : Char) : Option Nat := do
  let a ← Text.hexValue? a
  let b ← Text.hexValue? b
  let c ← Text.hexValue? c
  let d ← Text.hexValue? d
  return 0x1000 * a + 0x100 * b + 0x10 * c + d

/-- The character of an escape of one letter. -/
def shortEscape? : Char → Option Char
  | '"' => some '"'
  | '\\' => some '\\'
  | '/' => some '/'
  | 'b' => some '\x08'
  | 'f' => some '\x0c'
  | 'n' => some '\n'
  | 'r' => some '\r'
  | 't' => some '\t'
  | _ => none

/-- A character by its code units, after the first: a character beyond the first plane has two. -/
def readUnits? (unit : Nat) (t : Text) : Option (Char × Text) :=
  if 0xD800 ≤ unit ∧ unit < 0xDC00 then
    match t with
    | '\\' :: 'u' :: a :: b :: c :: d :: rest => do
      let low ← unitOf? a b c d
      if 0xDC00 ≤ low ∧ low < 0xE000 then
        return (Char.ofNat (0x10000 + 0x400 * (unit - 0xD800) + (low - 0xDC00)), rest)
      else none
    | _ => none
  else (Text.charOf? 0 unit).map (·, t)

/-- A character inside a text, escaped or not, and what follows. -/
def readChar? : Text → Option (Char × Text)
  | [] => none
  | '\\' :: 'u' :: a :: b :: c :: d :: rest => (unitOf? a b c d).bind (readUnits? · rest)
  | '\\' :: c :: rest => (shortEscape? c).map (·, rest)
  | c :: rest => if c = '"' ∨ c = '\\' ∨ c.toNat < 0x20 then none else some (c, rest)

theorem length_le_of_readUnits? {unit : Nat} {t rest : Text} {c : Char}
    (h : readUnits? unit t = some (c, rest)) : rest.length ≤ t.length := by
  unfold readUnits? at h
  split_ifs at h
  · split at h
    · obtain ⟨low, -, hlow⟩ := Option.bind_eq_some_iff.1 h
      split_ifs at hlow
      obtain ⟨-, rfl⟩ := Prod.mk.inj (Option.some.inj hlow)
      simp only [List.length_cons]
      omega
    · simp at h
  · obtain ⟨_, -, hrest⟩ := Option.map_eq_some_iff.1 h
    obtain ⟨-, rfl⟩ := Prod.mk.inj hrest
    exact Nat.le_refl _

theorem length_lt_of_readChar? {t rest : Text} {c : Char} (h : readChar? t = some (c, rest)) :
    rest.length < t.length := by
  unfold readChar? at h
  split at h
  · simp at h
  · obtain ⟨unit, -, hunits⟩ := Option.bind_eq_some_iff.1 h
    have hle := length_le_of_readUnits? hunits
    simp only [List.length_cons]
    omega
  · obtain ⟨_, -, hrest⟩ := Option.map_eq_some_iff.1 h
    obtain ⟨-, rfl⟩ := Prod.mk.inj hrest
    simp only [List.length_cons]
    omega
  · split_ifs at h
    obtain ⟨-, rfl⟩ := Prod.mk.inj (Option.some.inj h)
    simp

/-- What a quote closes. -/
def closeText? : Text → Option (Text × Text)
  | '"' :: rest => some ([], rest)
  | _ => none

/-- A text after its opening quote, and what follows the closing one. -/
def readText? (t : Text) : Option (Text × Text) :=
  match _h : readChar? t with
  | none => closeText? t
  | some (c, rest) => (readText? rest).map fun (text, rest) => (c :: text, rest)
termination_by t.length
decreasing_by exact length_lt_of_readChar? _h

theorem length_lt_of_readText? {t text rest : Text} (h : readText? t = some (text, rest)) :
    rest.length < t.length := by
  fun_induction readText? t generalizing text rest with
  | case1 t hchar =>
    unfold closeText? at h
    split at h
    · obtain ⟨-, rfl⟩ := Prod.mk.inj (Option.some.inj h)
      simp
    · simp at h
  | case2 t c after hchar ih =>
    obtain ⟨⟨text', rest'⟩, hrest, heq⟩ := Option.map_eq_some_iff.1 h
    obtain ⟨-, rfl⟩ := Prod.mk.inj heq
    have hlt := length_lt_of_readChar? hchar
    have hlt' := ih hrest
    omega

/-- Whether a character is a decimal digit. -/
def isDigit (c : Char) : Bool := (Text.decimalValue? c).isSome

/-- The value of decimal digits. -/
def valueOf (digits : Text) : Nat :=
  digits.foldl (fun n d => 10 * n + (Text.decimalValue? d).getD 0) 0

/-- A numeral without needless zeros, and what follows. -/
def readNumber? (t : Text) : Option (Nat × Text) :=
  let digits := t.takeWhile isDigit
  if digits = [] ∨ digits.head? = some '0' ∧ digits ≠ ['0'] then none
  else some (valueOf digits, t.dropWhile isDigit)

theorem length_lt_of_readNumber? {t rest : Text} {n : Nat} (h : readNumber? t = some (n, rest)) :
    rest.length < t.length := by
  unfold readNumber? at h
  dsimp only at h
  split_ifs at h with hdigits
  obtain ⟨-, rfl⟩ := Prod.mk.inj (Option.some.inj h)
  have hsplit : (t.takeWhile isDigit).length + (t.dropWhile isDigit).length = t.length := by
    rw [← List.length_append, List.takeWhile_append_dropWhile]
  have hpos : 0 < (t.takeWhile isDigit).length :=
    List.length_pos_iff.2 fun hnil => hdigits (.inl hnil)
  omega

/-- What an object is made of. -/
inductive Token where
  | opening
  | closing
  | colon
  | comma
  | value (s : Scalar)
  deriving DecidableEq, Repr

/-- A token, and what follows. -/
def readToken? : Text → Option (Token × Text)
  | '\x7b' :: rest => some (.opening, rest)
  | '\x7d' :: rest => some (.closing, rest)
  | ':' :: rest => some (.colon, rest)
  | ',' :: rest => some (.comma, rest)
  | '"' :: rest => (readText? rest).map fun (t, rest) => (.value (.text t), rest)
  | 'n' :: 'u' :: 'l' :: 'l' :: rest => some (.value .null, rest)
  | t => (readNumber? t).map fun (n, rest) => (.value (.number n), rest)

/-- Whether a character may stand between tokens. -/
def isBlank (c : Char) : Bool := c = ' ' || c = '\t' || c = '\n' || c = '\r'

theorem length_lt_of_readToken? {t rest : Text} {token : Token}
    (h : readToken? t = some (token, rest)) : rest.length < t.length := by
  unfold readToken? at h
  split at h
  case h_5 after =>
    obtain ⟨⟨text, rest'⟩, hread, heq⟩ := Option.map_eq_some_iff.1 h
    obtain ⟨-, rfl⟩ := Prod.mk.inj heq
    have hlt := length_lt_of_readText? hread
    simp only [List.length_cons]
    omega
  case h_7 =>
    obtain ⟨⟨n, rest'⟩, hread, heq⟩ := Option.map_eq_some_iff.1 h
    obtain ⟨-, rfl⟩ := Prod.mk.inj heq
    exact length_lt_of_readNumber? hread
  all_goals
    obtain ⟨-, rfl⟩ := Prod.mk.inj (Option.some.inj h)
    simp only [List.length_cons]
    omega

/-- The tokens of a text. -/
def tokens? (t : Text) : Option (List Token) :=
  if t.dropWhile isBlank = [] then some []
  else
    match _h : readToken? (t.dropWhile isBlank) with
    | none => none
    | some (token, rest) => (tokens? rest).map (token :: ·)
termination_by t.length
decreasing_by
  have hlt := length_lt_of_readToken? _h
  have hle := (List.dropWhile_suffix isBlank (l := t)).length_le
  omega

/-- The fields of an object by its tokens, after those before the first name. -/
def fieldsOf? : List Token → Option (List (Text × Scalar))
  | [.value (.text name), .colon, .value s, .closing] => some [(name, s)]
  | .value (.text name) :: .colon :: .value s :: .comma :: rest =>
    (fieldsOf? rest).map ((name, s) :: ·)
  | _ => none

/-- The fields of an object by its tokens. -/
def objectOf? : List Token → Option (List (Text × Scalar))
  | [.opening, .closing] => some []
  | .opening :: rest => fieldsOf? rest
  | _ => none

/-- The fields of the object that a text is. -/
def readObject? (t : Text) : Option (List (Text × Scalar)) := (tokens? t).bind objectOf?

/-! ## Texts -/

theorem unitOf?_control {n : Nat} (h : n < 0x20) :
    unitOf? '0' '0' (Text.digit (n / 16)) (Text.digit (n % 16)) = some n := by
  have hall : ∀ n : Fin 0x20, unitOf? '0' '0' (Text.digit (n / 16)) (Text.digit (n % 16)) =
      some n.val := by decide +kernel
  exact hall ⟨n, h⟩

theorem readUnits?_toNat {c : Char} (h : c.toNat < 0xD800) (rest : Text) :
    readUnits? c.toNat rest = some (c, rest) := by
  have hchar : Text.charOf? 0 c.toNat = some c := Text.charOf?_eq_some_iff.2 ⟨rfl, Nat.zero_le _⟩
  have hlow : ¬(0xD800 ≤ c.toNat ∧ c.toNat < 0xDC00) := by omega
  unfold readUnits?
  rw [if_neg hlow, hchar, Option.map_some]

theorem readChar?_of_plain {c : Char} (hquote : c ≠ '"') (hback : c ≠ '\\')
    (hcontrol : ¬c.toNat < 0x20) (rest : Text) : readChar? (c :: rest) = some (c, rest) := by
  unfold readChar?
  split
  · contradiction
  · next heq => exact absurd (List.cons.inj heq).1 hback
  · next heq => exact absurd (List.cons.inj heq).1 hback
  · next heq =>
    obtain ⟨rfl, rfl⟩ := List.cons.inj heq
    rw [if_neg (by simp only [hquote, hback, hcontrol, or_self, not_false_eq_true])]

theorem readChar?_of_short {letter c : Char} (h : shortEscape? letter = some c) (rest : Text) :
    readChar? ('\\' :: letter :: rest) = some (c, rest) := by
  unfold readChar?
  split
  · contradiction
  · next heq =>
    obtain ⟨rfl, -⟩ := List.cons.inj (List.cons.inj heq).2
    have hnone : shortEscape? 'u' = none := rfl
    rw [hnone] at h
    cases h
  · next heq =>
    obtain ⟨rfl, rfl⟩ := List.cons.inj (List.cons.inj heq).2
    rw [h, Option.map_some]
  · next hno heq =>
    obtain ⟨rfl, rfl⟩ := List.cons.inj heq
    exact absurd rfl (hno letter rest rfl)

theorem escapeChar_cases (c : Char) :
    (∃ letter, escapeChar c = ['\\', letter] ∧ shortEscape? letter = some c ∧
        0x20 ≤ letter.toNat) ∨
      (escapeChar c =
          ['\\', 'u', '0', '0', Text.digit (c.toNat / 16), Text.digit (c.toNat % 16)] ∧
        c.toNat < 0x20) ∨
      (escapeChar c = [c] ∧ c ≠ '"' ∧ c ≠ '\\' ∧ ¬c.toNat < 0x20) := by
  by_cases hquote : c = '"'
  · exact .inl ⟨'"', by rw [hquote]; rfl, by rw [hquote]; rfl, by decide⟩
  by_cases hback : c = '\\'
  · exact .inl ⟨'\\', by rw [hback]; rfl, by rw [hback]; rfl, by decide⟩
  by_cases hb : c = '\x08'
  · exact .inl ⟨'b', by rw [hb]; rfl, by rw [hb]; rfl, by decide⟩
  by_cases hf : c = '\x0c'
  · exact .inl ⟨'f', by rw [hf]; rfl, by rw [hf]; rfl, by decide⟩
  by_cases hn : c = '\n'
  · exact .inl ⟨'n', by rw [hn]; rfl, by rw [hn]; rfl, by decide⟩
  by_cases hr : c = '\r'
  · exact .inl ⟨'r', by rw [hr]; rfl, by rw [hr]; rfl, by decide⟩
  by_cases ht : c = '\t'
  · exact .inl ⟨'t', by rw [ht]; rfl, by rw [ht]; rfl, by decide⟩
  rw [escapeChar, if_neg hquote, if_neg hback, if_neg hb, if_neg hf, if_neg hn, if_neg hr, if_neg ht]
  by_cases hcontrol : c.toNat < 0x20
  · rw [if_pos hcontrol]
    exact .inr (.inl ⟨rfl, hcontrol⟩)
  · rw [if_neg hcontrol]
    exact .inr (.inr ⟨rfl, hquote, hback, hcontrol⟩)

theorem readChar?_escapeChar (c : Char) (rest : Text) :
    readChar? (escapeChar c ++ rest) = some (c, rest) := by
  obtain ⟨letter, heq, hshort, hletter⟩ | ⟨heq, hcontrol⟩ | ⟨heq, hquote, hback, hcontrol⟩ :=
    escapeChar_cases c
  · rw [heq]
    exact readChar?_of_short hshort rest
  · rw [heq]
    show (unitOf? _ _ _ _).bind (readUnits? · rest) = _
    rw [unitOf?_control hcontrol, Option.bind_some]
    exact readUnits?_toNat (by omega) rest
  · rw [heq]
    exact readChar?_of_plain hquote hback hcontrol rest

theorem readText?_of_readChar? {t rest : Text} {c : Char} (h : readChar? t = some (c, rest)) :
    readText? t = (readText? rest).map fun (text, rest) => (c :: text, rest) := by
  rw [readText?]
  split
  · next hnone => simp [hnone] at h
  · next c' rest' hsome =>
    obtain ⟨rfl, rfl⟩ := Prod.mk.inj (Option.some.inj (hsome.symm.trans h))
    rfl

theorem readText?_quote (rest : Text) : readText? ('"' :: rest) = some ([], rest) := by
  rw [readText?]
  split
  · rfl
  · next c rest' hsome => simp [readChar?] at hsome

theorem readText?_escaped (t rest : Text) :
    readText? (t.flatMap escapeChar ++ '"' :: rest) = some (t, rest) := by
  induction t with
  | nil => exact readText?_quote rest
  | cons c t ih =>
    rw [List.flatMap_cons, List.append_assoc, readText?_of_readChar? (readChar?_escapeChar c _), ih]
    rfl

/-! ## Numerals -/

theorem isDigit_digit {n : Nat} (h : n < 10) : isDigit (Text.digit n) = true := by
  rw [isDigit, Text.decimalValue?_digit h, Option.isSome_some]

theorem valueOf_append_digit {n : Nat} (h : n < 10) (digits : Text) :
    valueOf (digits ++ [Text.digit n]) = 10 * valueOf digits + n := by
  rw [valueOf, List.foldl_append, List.foldl_cons, List.foldl_nil, Text.decimalValue?_digit h,
    Option.getD_some]
  rfl

/-- What the numeral of a number is like: digits, with the number as their value, and no zero in
front of others. -/
structure Numeral (n : Nat) (digits : Text) : Prop where
  ne_nil : digits ≠ []
  isDigit : ∀ c ∈ digits, isDigit c = true
  value : valueOf digits = n
  head : digits.head? = some '0' → n = 0 ∧ digits = ['0']

theorem numeral_decimal (n : Nat) : Numeral n (Text.decimal n) := by
  -- the digits are those of the tenth and one more; only a number below ten starts a numeral
  rw [Text.decimal]
  induction n using Nat.strongRecOn with
  | ind n ih =>
    rw [Text.digits]
    split
    · next hle =>
      obtain ⟨hne, hdigit, hvalue, hhead⟩ := ih (n / 10) (by omega)
      have hlast : n % 10 < 10 := Nat.mod_lt n (by decide)
      refine ⟨by simp, ?_, ?_, ?_⟩
      · intro c hc
        obtain hc | hc := List.mem_append.1 hc
        · exact hdigit c hc
        · obtain rfl := List.mem_singleton.1 hc
          exact isDigit_digit hlast
      · rw [valueOf_append_digit hlast, hvalue, Nat.div_add_mod]
      · intro hzero
        obtain ⟨c, t, hcons⟩ := List.exists_cons_of_ne_nil hne
        rw [hcons] at hzero hhead
        have htenth := (hhead hzero).1
        omega
    · next hlt =>
      have hn : n < 10 := by omega
      refine ⟨by simp, ?_, ?_, ?_⟩
      · intro c hc
        obtain rfl := List.mem_singleton.1 hc
        exact isDigit_digit hn
      · have hvalue := valueOf_append_digit hn []
        simpa [valueOf] using hvalue
      · intro hzero
        have hchar : Text.digit n = '0' := by simpa using hzero
        have hvalue := Text.decimalValue?_digit hn
        rw [hchar] at hvalue
        obtain rfl : 0 = n := by simpa [Text.decimalValue?] using hvalue
        exact ⟨rfl, by rw [hchar]⟩

theorem readNumber?_decimal (n : Nat) {rest : Text} (hrest : ∀ c ∈ rest.head?, isDigit c = false) :
    readNumber? (Text.decimal n ++ rest) = some (n, rest) := by
  obtain ⟨hne, hdigit, hvalue, hhead⟩ := numeral_decimal n
  have htake : (Text.decimal n ++ rest).takeWhile isDigit = Text.decimal n := by
    rw [List.takeWhile_append_of_pos hdigit]
    cases rest with
    | nil => simp
    | cons c rest => simp [hrest c rfl]
  have hdrop : (Text.decimal n ++ rest).dropWhile isDigit = rest := by
    rw [List.dropWhile_append_of_pos hdigit]
    cases rest with
    | nil => rfl
    | cons c rest => simp [hrest c rfl]
  have hstrict : ¬(Text.decimal n = [] ∨
      (Text.decimal n).head? = some '0' ∧ Text.decimal n ≠ ['0']) := by
    rintro (hnil | ⟨hzero, hmore⟩)
    · exact hne hnil
    · exact hmore (hhead hzero).2
  unfold readNumber?
  dsimp only
  rw [htake, hdrop, if_neg hstrict, hvalue]

/-! ## Tokens -/

theorem readToken?_of_isDigit {c : Char} (h : isDigit c = true) (t : Text) :
    readToken? (c :: t) =
      (readNumber? (c :: t)).map fun (n, rest) => (.value (.number n), rest) := by
  unfold readToken?
  split
  case h_7 => rfl
  all_goals
    next heq =>
    obtain ⟨rfl, -⟩ := List.cons.inj heq
    exact absurd h (by decide)

/-- The written form of a token. -/
def Token.render : Token → Text
  | opening => ['\x7b']
  | closing => ['\x7d']
  | colon => [':']
  | comma => [',']
  | value s => s.render

/-- A token ends where it does, whatever follows, but for a numeral before a digit. -/
def Token.EndsBefore : Token → Text → Prop
  | value (.number _), rest => ∀ c ∈ rest.head?, isDigit c = false
  | _, _ => True

theorem Token.endsBefore_value (s : Scalar) {rest : Text}
    (hrest : ∀ c ∈ rest.head?, isDigit c = false) : (value s).EndsBefore rest := by
  cases s with
  | null | text t => trivial
  | number n => exact hrest

theorem readToken?_render (token : Token) {rest : Text} (hrest : token.EndsBefore rest) :
    readToken? (token.render ++ rest) = some (token, rest) := by
  cases token with
  | opening | closing | colon | comma => rfl
  | value s =>
    cases s with
    | null => rfl
    | text t =>
      have hrender : (Token.value (.text t)).render ++ rest =
          '"' :: (t.flatMap escapeChar ++ '"' :: rest) := by
        show '"' :: (t.flatMap escapeChar ++ ['"']) ++ rest = _
        rw [List.cons_append, List.append_assoc]
        rfl
      have hread : readToken? ('"' :: (t.flatMap escapeChar ++ '"' :: rest)) =
          (readText? (t.flatMap escapeChar ++ '"' :: rest)).map
            fun (t, rest) => (.value (.text t), rest) := rfl
      rw [hrender, hread, readText?_escaped]
      rfl
    | number n =>
      obtain ⟨hne, hdigit, -, -⟩ := numeral_decimal n
      obtain ⟨c, t, hcons⟩ := List.exists_cons_of_ne_nil hne
      have hc : isDigit c = true := hdigit c (by rw [hcons]; exact List.mem_cons_self)
      have hread := readNumber?_decimal n hrest
      rw [Token.render, Scalar.render]
      rw [hcons, List.cons_append] at hread ⊢
      rw [readToken?_of_isDigit hc, hread]
      rfl

theorem isBlank_of_isDigit {c : Char} (h : isDigit c = true) : isBlank c = false := by
  rw [Bool.eq_false_iff]
  intro hblank
  simp only [isBlank, Bool.or_eq_true, decide_eq_true_eq] at hblank
  obtain ((rfl | rfl) | rfl) | rfl := hblank
  all_goals exact absurd h (by decide)

theorem exists_cons_of_render (token : Token) :
    ∃ c t, token.render = c :: t ∧ isBlank c = false := by
  cases token with
  | opening => exact ⟨'\x7b', [], rfl, rfl⟩
  | closing => exact ⟨'\x7d', [], rfl, rfl⟩
  | colon => exact ⟨':', [], rfl, rfl⟩
  | comma => exact ⟨',', [], rfl, rfl⟩
  | value s =>
    cases s with
    | null => exact ⟨'n', _, rfl, rfl⟩
    | text t => exact ⟨'"', _, rfl, rfl⟩
    | number n =>
      obtain ⟨hne, hdigit, -, -⟩ := numeral_decimal n
      obtain ⟨c, t, hcons⟩ := List.exists_cons_of_ne_nil hne
      exact ⟨c, t, hcons, isBlank_of_isDigit (hdigit c (by rw [hcons]; exact List.mem_cons_self))⟩

theorem tokens?_render_append (token : Token) {rest : Text} (hrest : token.EndsBefore rest) :
    tokens? (token.render ++ rest) = (tokens? rest).map (token :: ·) := by
  have hread := readToken?_render token hrest
  obtain ⟨c, t, hcons, hblank⟩ := exists_cons_of_render token
  have hdrop : (token.render ++ rest).dropWhile isBlank = token.render ++ rest := by
    rw [hcons, List.cons_append, List.dropWhile_cons_of_neg (by simp [hblank])]
  have hne : token.render ++ rest ≠ [] := by
    rw [hcons]
    exact List.cons_ne_nil _ _
  rw [tokens?, hdrop, if_neg hne]
  split
  · next hnone => simp [hread] at hnone
  · next token' rest' hsome =>
    obtain ⟨rfl, rfl⟩ := Prod.mk.inj (Option.some.inj (hsome.symm.trans hread))
    rfl

theorem tokens?_nil : tokens? [] = some [] := by
  rw [tokens?]
  rfl

/-! ## Objects -/

/-- The tokens of a field. -/
def tokensOfField (field : Text × Scalar) : List Token :=
  [.value (.text field.1), .colon, .value field.2]

/-- The tokens of an object after the first. -/
def tokensOf : List (Text × Scalar) → List Token
  | [] => [.closing]
  | [field] => tokensOfField field ++ [.closing]
  | field :: rest => tokensOfField field ++ .comma :: tokensOf rest

theorem tokens?_renderField (field : Text × Scalar) {rest : Text}
    (hrest : ∀ c ∈ rest.head?, isDigit c = false) :
    tokens? (renderField field ++ rest) = (tokens? rest).map (tokensOfField field ++ ·) := by
  have hrender : renderField field ++ rest =
      (Token.value (.text field.1)).render ++
        (Token.colon.render ++ ((Token.value field.2).render ++ rest)) := by
    show renderText field.1 ++ ':' :: field.2.render ++ rest = _
    rw [List.append_assoc]
    rfl
  rw [hrender, tokens?_render_append (.value (.text field.1)) trivial,
    tokens?_render_append .colon trivial,
    tokens?_render_append (.value field.2) (Token.endsBefore_value field.2 hrest),
    Option.map_map, Option.map_map]
  rfl

theorem tokens?_fields (fields : List (Text × Scalar)) :
    tokens? (Text.intersperse [','] (fields.map renderField) ++ Token.closing.render) =
      some (tokensOf fields) := by
  have hend : tokens? (Token.closing.render ++ []) = some [.closing] := by
    rw [tokens?_render_append .closing trivial, tokens?_nil, Option.map_some]
  rw [List.append_nil] at hend
  fun_induction tokensOf fields with
  | case1 => exact hend
  | case2 field =>
    have hclosing : ∀ c ∈ Token.closing.render.head?, isDigit c = false := by
      rintro c ⟨⟩
      decide
    show tokens? (renderField field ++ Token.closing.render) = _
    rw [tokens?_renderField field hclosing, hend, Option.map_some]
  | case3 field rest hrest ih =>
    obtain ⟨next, fields, rfl⟩ := List.exists_cons_of_ne_nil hrest
    have hcomma : ∀ t, ∀ c ∈ (Token.comma.render ++ t).head?, isDigit c = false := by
      rintro t c ⟨⟩
      decide
    show tokens? (renderField field ++ [','] ++
      Text.intersperse [','] ((next :: fields).map renderField) ++ Token.closing.render) = _
    rw [List.append_assoc, List.append_assoc]
    refine (tokens?_renderField field (hcomma _)).trans ?_
    rw [tokens?_render_append .comma trivial, ih]
    rfl

theorem tokens?_renderObject (fields : List (Text × Scalar)) :
    tokens? (renderObject fields) = some (.opening :: tokensOf fields) := by
  have hrender : renderObject fields = Token.opening.render ++
      (Text.intersperse [','] (fields.map renderField) ++ Token.closing.render) := rfl
  rw [hrender, tokens?_render_append .opening trivial, tokens?_fields, Option.map_some]

theorem fieldsOf?_tokensOf {fields : List (Text × Scalar)} (h : fields ≠ []) :
    fieldsOf? (tokensOf fields) = some fields := by
  fun_induction tokensOf fields with
  | case1 => contradiction
  | case2 field => rfl
  | case3 field rest hrest ih =>
    have hne : rest ≠ [] := by
      rintro rfl
      exact hrest rfl
    show (fieldsOf? (tokensOf rest)).map _ = _
    rw [ih hne]
    rfl

theorem objectOf?_tokensOf (fields : List (Text × Scalar)) :
    objectOf? (.opening :: tokensOf fields) = some fields := by
  cases fields with
  | nil => rfl
  | cons field rest =>
    have hfields : fieldsOf? (tokensOf (field :: rest)) = some (field :: rest) :=
      fieldsOf?_tokensOf (List.cons_ne_nil _ _)
    -- the first token after the brace is a name, so the object is not the empty one
    cases rest <;> exact hfields

/-- **Reading an object back.** The reader takes a rendered object apart into its fields, as they
were and in their order, whatever texts they hold. -/
theorem readObject?_renderObject (fields : List (Text × Scalar)) :
    readObject? (renderObject fields) = some fields := by
  rw [readObject?, tokens?_renderObject, Option.bind_some, objectOf?_tokensOf]

/-! ## Control characters -/

/-- A text without control characters, of which the newline is one. -/
def FreeOfControls (t : Text) : Prop := ∀ c ∈ t, 0x20 ≤ c.toNat

instance (t : Text) : Decidable (FreeOfControls t) := List.decidableBAll _ t

theorem FreeOfControls.append {t u : Text} (ht : FreeOfControls t) (hu : FreeOfControls u) :
    FreeOfControls (t ++ u) := by
  intro c hc
  obtain hc | hc := List.mem_append.1 hc
  · exact ht c hc
  · exact hu c hc

theorem FreeOfControls.cons {c : Char} {t : Text} (hc : 0x20 ≤ c.toNat) (ht : FreeOfControls t) :
    FreeOfControls (c :: t) :=
  List.forall_mem_cons.2 ⟨hc, ht⟩

theorem freeOfControls_escapeChar (c : Char) : FreeOfControls (escapeChar c) := by
  obtain ⟨letter, heq, hshort, hletter⟩ | ⟨heq, hcontrol⟩ | ⟨heq, hquote, hback, hcontrol⟩ :=
    escapeChar_cases c
  · rw [heq]
    exact .cons (by decide) (.cons hletter nofun)
  · have hall : ∀ n : Fin 0x20, FreeOfControls
        ['\\', 'u', '0', '0', Text.digit (n / 16), Text.digit (n % 16)] := by decide +kernel
    rw [heq]
    exact hall ⟨c.toNat, hcontrol⟩
  · rw [heq]
    exact .cons (Nat.le_of_not_lt hcontrol) nofun

theorem freeOfControls_renderText (t : Text) : FreeOfControls (renderText t) := by
  have hescaped : FreeOfControls (t.flatMap escapeChar) := by
    intro c hc
    obtain ⟨d, -, hd⟩ := List.mem_flatMap.1 hc
    exact freeOfControls_escapeChar d c hd
  exact .cons (by decide) (hescaped.append (by decide))

theorem freeOfControls_render (s : Scalar) : FreeOfControls s.render := by
  cases s with
  | null => exact (by decide +kernel : FreeOfControls "null".toList)
  | text t => exact freeOfControls_renderText t
  | number n =>
    intro c hc
    have hdigit := (numeral_decimal n).isDigit c hc
    unfold isDigit Text.decimalValue? at hdigit
    split_ifs at hdigit with hrange
    · have hzero : '0'.toNat ≤ c.toNat := UInt32.le_iff_toNat_le.1 hrange.1
      exact Nat.le_trans (by decide) hzero
    · exact absurd hdigit (by decide)

theorem freeOfControls_renderField (field : Text × Scalar) : FreeOfControls (renderField field) :=
  (freeOfControls_renderText field.1).append (.cons (by decide) (freeOfControls_render field.2))

theorem freeOfControls_intersperse {texts : List Text} (h : ∀ t ∈ texts, FreeOfControls t) :
    FreeOfControls (Text.intersperse [','] texts) := by
  fun_induction Text.intersperse [','] texts with
  | case1 => exact nofun
  | case2 t => exact h t List.mem_cons_self
  | case3 t rest hrest ih =>
    have ht : FreeOfControls t := h t List.mem_cons_self
    exact (ht.append (by decide)).append (ih fun u hu => h u (List.mem_cons_of_mem _ hu))

theorem freeOfControls_renderObject (fields : List (Text × Scalar)) :
    FreeOfControls (renderObject fields) := by
  have hfields : ∀ t ∈ fields.map renderField, FreeOfControls t := by
    intro t ht
    obtain ⟨field, -, rfl⟩ := List.mem_map.1 ht
    exact freeOfControls_renderField field
  exact .cons (by decide) ((freeOfControls_intersperse hfields).append (by decide))

theorem FreeOfControls.newline_not_mem {t : Text} (h : FreeOfControls t) : '\n' ∉ t :=
  fun hmem => absurd (h _ hmem) (by decide)

theorem FreeOfControls.return_not_mem {t : Text} (h : FreeOfControls t) : '\r' ∉ t :=
  fun hmem => absurd (h _ hmem) (by decide)

end OperatorShell.Json
