import OperatorShell.Document.Blank

/-!
# Texts in a document

Texts stand between double quotes, where a backslash begins an escape, or between single quotes,
where every character stands for itself. Between three quotes a text may run over several lines.

* `readQuoted`, `readVerbatim`: texts on one line, after the opening quote.
* `readLongQuoted`, `readLongVerbatim`: texts on several lines, after the opening quotes.
* `readText`: any of them.
-/

namespace OperatorShell.Document

/-- Characters that stand for themselves in every text: tabs, and all but the controls. -/
def isPlainChar (c : Char) : Bool := c = '\t' || (0x20 ≤ c.toNat && c.toNat ≠ 0x7F)

/-- The character of a code point in hexadecimal digits. -/
def charOfHex? (digits : Text) : Option Char :=
  (digits.foldl
    (fun (value : Option Nat) d => do return 16 * (← value) + (← Text.hexValue? d)) (some 0)).bind
    (Text.charOf? 0)

/-- The character of a short escape. -/
def shortEscape? : Char → Option Char
  | 'b' => some '\x08'
  | 't' => some '\t'
  | 'n' => some '\n'
  | 'f' => some '\x0c'
  | 'r' => some '\r'
  | '"' => some '"'
  | '\\' => some '\\'
  | _ => none

/-- A character before a text that was read. -/
def consChar (c : Char) (r : Option (Text × Text)) : Option (Text × Text) :=
  r.map fun (t, rest) => (c :: t, rest)

/-- The rest of a text on one line with escapes. -/
def readQuoted : Text → Option (Text × Text)
  | [] => none
  | '"' :: rest => some ([], rest)
  | '\\' :: 'u' :: a :: b :: c :: d :: rest => do
    consChar (← charOfHex? [a, b, c, d]) (readQuoted rest)
  | '\\' :: 'U' :: a :: b :: c :: d :: e :: f :: g :: h :: rest => do
    consChar (← charOfHex? [a, b, c, d, e, f, g, h]) (readQuoted rest)
  | '\\' :: c :: rest => do consChar (← shortEscape? c) (readQuoted rest)
  | c :: rest => if isPlainChar c then consChar c (readQuoted rest) else none

/-- The rest of a text on one line without escapes. -/
def readVerbatim : Text → Option (Text × Text)
  | [] => none
  | '\'' :: rest => some ([], rest)
  | c :: rest => if isPlainChar c then consChar c (readVerbatim rest) else none

/-- The end of a text on several lines: up to two more quotes belong to the text. -/
def closeLong (quote : Char) : Text → Text × Text
  | a :: b :: rest =>
    if a ≠ quote then ([], a :: b :: rest)
    else if b ≠ quote then ([a], b :: rest)
    else ([a, b], rest)
  | [a] => if a = quote then ([a], []) else ([], [a])
  | [] => ([], [])

/-- Whether a line ends here but for spaces, so that a backslash joins it to the next. -/
def endsLine (t : Text) : Bool := (newline? (skipSpaces t)).isSome

/-- The rest of a text on several lines with escapes. While `joining`, spaces and newlines are
passed over. -/
def readLongQuoted (joining : Bool) : Text → Option (Text × Text)
  | [] => none
  | '\r' :: '\n' :: rest =>
    if joining then readLongQuoted true rest else consChar '\n' (readLongQuoted false rest)
  | '"' :: '"' :: '"' :: rest => some (closeLong '"' rest)
  | '\\' :: 'u' :: a :: b :: c :: d :: rest => do
    consChar (← charOfHex? [a, b, c, d]) (readLongQuoted false rest)
  | '\\' :: 'U' :: a :: b :: c :: d :: e :: f :: g :: h :: rest => do
    consChar (← charOfHex? [a, b, c, d, e, f, g, h]) (readLongQuoted false rest)
  | '\\' :: c :: rest =>
    if endsLine (c :: rest) then readLongQuoted true (c :: rest)
    else do consChar (← shortEscape? c) (readLongQuoted false rest)
  | c :: rest =>
    if joining && (isSpace c || c = '\n') then readLongQuoted true rest
    else if c ≠ '\\' && (c = '\n' || isPlainChar c) then consChar c (readLongQuoted false rest)
    else none

/-- The rest of a text on several lines without escapes. -/
def readLongVerbatim : Text → Option (Text × Text)
  | [] => none
  | '\r' :: '\n' :: rest => consChar '\n' (readLongVerbatim rest)
  | '\'' :: '\'' :: '\'' :: rest => some (closeLong '\'' rest)
  | c :: rest =>
    if c = '\n' || isPlainChar c then consChar c (readLongVerbatim rest) else none

/-- The text after a newline, if there is one. -/
def dropNewline (t : Text) : Text := (newline? t).getD t

/-- A text in any of its four forms. -/
def readText : Text → Option (Text × Text)
  | '"' :: '"' :: '"' :: rest => readLongQuoted false (dropNewline rest)
  | '\'' :: '\'' :: '\'' :: rest => readLongVerbatim (dropNewline rest)
  | '"' :: rest => readQuoted rest
  | '\'' :: rest => readVerbatim rest
  | _ => none

end OperatorShell.Document
