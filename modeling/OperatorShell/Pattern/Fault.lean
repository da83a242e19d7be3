import OperatorShell.Text.Layout
import OperatorShell.Text.Numeral

/-!
# Faults of patterns

A pattern that cannot be read is shown with carets under the part that is at fault.

* `Mark`, `Span`: places and parts of a pattern.
* `Refusal.message`: a pattern with its fault pointed out.
-/

namespace OperatorShell.Pattern

/-- A place in a pattern: how many characters come before it, and its line and column from one. -/
structure Mark where
  offset : Nat := 0
  line : Nat := 1
  column : Nat := 1
  deriving DecidableEq, Repr

/-- The place after a character. -/
def Mark.after (m : Mark) (c : Char) : Mark :=
  if c = '\n' then ⟨m.offset + 1, m.line + 1, 1⟩ else ⟨m.offset + 1, m.line, m.column + 1⟩

/-- A part of a pattern. -/
structure Span where
  start : Mark
  stop : Mark
  deriving DecidableEq, Repr

namespace Span

/-- The part between the start of one part and the end of another. -/
def join (first last : Span) : Span := ⟨first.start, last.stop⟩

/-- Whether a part begins before another, or at the same place and ends no later. -/
def before (a b : Span) : Bool :=
  a.start.offset < b.start.offset ||
    (a.start.offset == b.start.offset && a.stop.offset ≤ b.stop.offset)

/-- Whether a part lies in one line. -/
def isOneLine (s : Span) : Bool := s.start.line == s.stop.line

/-- How many carets a part takes. An empty part takes one. -/
def width (s : Span) : Nat := max 1 (s.stop.column - s.start.column)

end Span

/-- Why a pattern cannot be used. -/
inductive Fault where
  | classEscape
  | classRange
  | classRangeEnd
  | classUnclosed
  | decimalInvalid
  | hexEmpty
  | hexInvalid
  | hexDigit
  | escapeEnd
  | escapeUnknown
  | flagDangling
  | flagDuplicate
  | flagNegatedTwice
  | flagEnd
  | flagUnknown
  | nameDuplicate
  | nameEmpty
  | nameInvalid
  | nameEnd
  | groupUnclosed
  | groupUnopened
  | nesting (limit : Nat)
  | countRange
  | countEmpty
  | countUnclosed
  | nothingRepeated
  | edgeUnclosed
  | edgeUnknown
  | edgeEnd
  | propertyInvalid
  | backreference
  | lookAround
  | unicodeForbidden
  | notUtf8
  | propertyUnknown
  | propertyValueUnknown
  | perlClassUnknown
  | caseUnknown
  deriving DecidableEq, Repr

/-- The deepest that groups and classes are nested. -/
def maxNesting : Nat := 250

/-- The wording of a pattern's fault. -/
def Fault.message : Fault → Text
  | classEscape => "invalid escape sequence found in character class".toList
  | classRange => "invalid character class range, the start must be <= the end".toList
  | classRangeEnd => "invalid range boundary, must be a literal".toList
  | classUnclosed => "unclosed character class".toList
  | decimalInvalid => "decimal literal invalid".toList
  | hexEmpty => "hexadecimal literal empty".toList
  | hexInvalid => "hexadecimal literal is not a Unicode scalar value".toList
  | hexDigit => "invalid hexadecimal digit".toList
  | escapeEnd => "incomplete escape sequence, reached end of pattern prematurely".toList
  | escapeUnknown => "unrecognized escape sequence".toList
  | flagDangling => "dangling flag negation operator".toList
  | flagDuplicate => "duplicate flag".toList
  | flagNegatedTwice => "flag negation operator repeated".toList
  | flagEnd => "expected flag but got end of regex".toList
  | flagUnknown => "unrecognized flag".toList
  | nameDuplicate => "duplicate capture group name".toList
  | nameEmpty => "empty capture group name".toList
  | nameInvalid => "invalid capture group character".toList
  | nameEnd => "unclosed capture group name".toList
  | groupUnclosed => "unclosed group".toList
  | groupUnopened => "unopened group".toList
  | nesting limit =>
    "exceed the maximum number of nested parentheses/brackets (".toList ++ Text.decimal limit ++
      [')']
  | countRange => "invalid repetition count range, the start must be <= the end".toList
  | countEmpty => "repetition quantifier expects a valid decimal".toList
  | countUnclosed => "unclosed counted repetition".toList
  | nothingRepeated => "repetition operator missing expression".toList
  | edgeUnclosed =>
    "special word boundary assertion is either unclosed or contains an invalid character".toList
  | edgeUnknown =>
    "unrecognized special word boundary assertion, valid choices are: ".toList ++
      "start, end, start-half or end-half".toList
  | edgeEnd =>
    "found either the beginning of a special word boundary or a bounded repetition on a ".toList ++
      "\\b with an opening brace, but no closing brace".toList
  | propertyInvalid => "invalid Unicode character class".toList
  | backreference => "backreferences are not supported".toList
  | lookAround =>
    "look-around, including look-ahead and look-behind, is not supported".toList
  | unicodeForbidden => "Unicode not allowed here".toList
  | notUtf8 => "pattern can match invalid UTF-8".toList
  | propertyUnknown => "Unicode property not found".toList
  | propertyValueUnknown => "Unicode property value not found".toList
  | perlClassUnknown =>
    "Unicode-aware Perl class not found (make sure the unicode-perl feature is enabled)".toList
  | caseUnknown =>
    "Unicode-aware case insensitivity matching is not available ".toList ++
      "(make sure the unicode-case feature is enabled)".toList

/-- A fault, the part of the pattern that has it, and the earlier part that it repeats. -/
structure Refusal where
  fault : Fault
  span : Span
  earlier : Option Span := none
  deriving DecidableEq, Repr

namespace Refusal

/-- The parts that are pointed out, in order. -/
def spans (r : Refusal) : List Span :=
  match r.earlier with
  | none => [r.span]
  | some s => if s.before r.span then [s, r.span] else [r.span, s]

/-- Carets under parts of one line, from a column on. -/
def carets (column : Nat) : List Span → Text
  | [] => []
  | s :: rest =>
    Text.spaces (s.start.column - column) ++ List.replicate s.width '^' ++
      carets (max column s.start.column + s.width) rest

/-- A line of a pattern, with the carets under it. The number of the line is padded to a width; a
width of zero leaves it out. -/
def notateLine (r : Refusal) (width : Nat) (line : Text × Nat) : Text :=
  let (t, n) := line
  let label :=
    if width = 0 then Text.spaces 4
    else
      let number := Text.decimal n
      Text.spaces (width - number.length) ++ number ++ [':', ' ']
  let own := r.spans.filter fun s => s.isOneLine && s.start.line == n
  Text.line (label ++ t) ++
    if own = [] then [] else Text.line (Text.spaces label.length ++ carets 1 own)

/-- Where a part begins and ends that covers several lines. -/
def notateSpan (s : Span) : Text :=
  let place (line column : Nat) : Text :=
    "line ".toList ++ Text.decimal line ++ " (column ".toList ++ Text.decimal column ++ [')']
  Text.line ("on ".toList ++ place s.start.line s.start.column ++ " through ".toList ++
    place s.stop.line (s.stop.column - 1))

/-- A pattern with its fault pointed out. Patterns of several lines stand between dividers. -/
def message (r : Refusal) (pattern : Text) : Text :=
  let lines := Text.lines pattern
  let last := if pattern.getLast? = some '\n' then lines.length + 1 else lines.length
  let width := if last ≤ 1 then 0 else (Text.decimal last).length
  let divider := if pattern.contains '\n' then Text.line (List.replicate 79 '~') else []
  let further := if pattern.contains '\n' then r.spans.filter fun s => !s.isOneLine else []
  "regex parse error:\n".toList ++ divider ++ (lines.zipIdx 1).flatMap (r.notateLine width) ++
    divider ++ further.flatMap notateSpan ++ "error: ".toList ++ r.fault.message

end Refusal

end OperatorShell.Pattern
