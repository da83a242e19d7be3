/-!
# Text and bytes

Texts are lists of characters and byte strings are lists of bytes, so that every definition on them
is a recursion on a list.

* `byteLength`: how many bytes a text takes in UTF-8.
* `splitAtByte?`: a text cut at a byte offset, which fails between the bytes of one character.
* `splitOn`, `intersperse`: a text cut at its separators, and texts joined by one.
-/

namespace OperatorShell

/-- A text: its characters in order. -/
abbrev Text := List Char

/-- A byte string. -/
abbrev Bytes := List UInt8

namespace Text

/-- The number of bytes of the UTF-8 form of a text. -/
def byteLength : Text → Nat
  | [] => 0
  | c :: t => c.utf8Size + byteLength t

/-- Cuts a text at a byte offset. There is no answer past the end of the text, nor at an offset that
falls inside a character. -/
def splitAtByte? : Text → Nat → Option (Text × Text)
  | t, 0 => some ([], t)
  | [], _ + 1 => none
  | c :: t, n + 1 =>
    if c.utf8Size ≤ n + 1 then
      (splitAtByte? t (n + 1 - c.utf8Size)).map fun (before, after) => (c :: before, after)
    else
      none

/-- Whether a text occurs inside another. -/
def hasPart (part : Text) : Text → Bool
  | [] => part.isEmpty
  | c :: t => part.isPrefixOf (c :: t) || hasPart part t

/-- The parts of a text between separators; `part` is the part so far, last character first. -/
def splitParts (separator : Char) (part : Text) : Text → List Text
  | [] => [part.reverse]
  | c :: t =>
    if c = separator then part.reverse :: splitParts separator [] t
    else splitParts separator (c :: part) t

/-- The parts of a text between separators. A text without one is its only part. -/
def splitOn (separator : Char) (t : Text) : List Text := splitParts separator [] t

/-- Texts joined by a separator. -/
def intersperse (separator : Text) : List Text → Text
  | [] => []
  | [t] => t
  | t :: rest => t ++ separator ++ intersperse separator rest

/-- A text with its newline. -/
def line (t : Text) : Text := t ++ ['\n']

/-! ## Laws -/

@[simp] theorem byteLength_append (s t : Text) :
    byteLength (s ++ t) = byteLength s + byteLength t := by
  induction s with
  | nil => simp [byteLength]
  | cons c s ih => simp [byteLength, ih, Nat.add_assoc]

theorem byteLength_eq_zero_iff {t : Text} : byteLength t = 0 ↔ t = [] := by
  cases t with
  | nil => simp [byteLength]
  | cons c t =>
    have hpos := c.utf8Size_pos
    simp only [byteLength, reduceCtorEq, iff_false]
    omega

theorem splitParts_ne_nil (separator : Char) (part t : Text) :
    splitParts separator part t ≠ [] := by
  induction t generalizing part with
  | nil => simp [splitParts]
  | cons c t ih => by_cases h : c = separator <;> simp [splitParts, h, ih]

theorem intersperse_splitParts (separator : Char) (part t : Text) :
    intersperse [separator] (splitParts separator part t) = part.reverse ++ t := by
  induction t generalizing part with
  | nil => simp [splitParts, intersperse]
  | cons c t ih =>
    by_cases h : c = separator
    · obtain ⟨p, ps, hp⟩ := List.exists_cons_of_ne_nil (splitParts_ne_nil separator [] t)
      have := ih []
      simp_all [splitParts, intersperse]
    · simp [splitParts, h, ih]

theorem intersperse_splitOn (separator : Char) (t : Text) :
    intersperse [separator] (splitOn separator t) = t := by
  simp [splitOn, intersperse_splitParts]

theorem append_of_splitAtByte? {t before after : Text} {n : Nat}
    (h : splitAtByte? t n = some (before, after)) : before ++ after = t := by
  fun_induction splitAtByte? t n generalizing before after with
  | case1 t => simp_all
  | case2 => simp at h
  | case3 c t n hn ih =>
    obtain ⟨⟨b, a⟩, hb, he⟩ := Option.map_eq_some_iff.1 h
    obtain ⟨rfl, rfl⟩ := Prod.mk.inj he
    simp [ih hb]
  | case4 => simp at h

end Text

end OperatorShell
