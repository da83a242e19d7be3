import OperatorShell.Text.Blank

/-!
# Completion of the verb

While the cursor is on the first word of a line, or on the blanks before it, the verbs that extend
what is typed are offered. Past the first word there is nothing to offer.

* `Completion.at?`: the candidates for a cursor, and the byte offset from which they replace the
  line.
-/

namespace OperatorShell

/-- Candidates, and the byte offset of the text that each of them would replace. -/
structure Completion where
  start : Nat
  candidates : List Text
  deriving DecidableEq, Repr

namespace Completion

/-- The completion for the text before the cursor, which is at byte `cursor`. -/
def ofTyped (verbs : List Text) (typed : Text) (cursor : Nat) : Completion :=
  let word := Text.trimStart typed
  if word.any Text.isBlank then
    ⟨cursor, []⟩
  else
    ⟨Text.byteLength typed - Text.byteLength word, verbs.filter word.isPrefixOf⟩

/-- The completion for a line with the cursor at a byte offset. There is none when the offset is
past the end of the line or inside a character. -/
def at? (verbs : List Text) (line : Text) (cursor : Nat) : Option Completion :=
  (Text.splitAtByte? line cursor).map fun (typed, _) => ofTyped verbs typed cursor

end Completion

end OperatorShell
