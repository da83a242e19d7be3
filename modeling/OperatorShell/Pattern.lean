import OperatorShell.Pattern.Match
import OperatorShell.Pattern.Meaning
import OperatorShell.Pattern.Reader
import OperatorShell.Pattern.Size

/-!
# Patterns from texts

* `Pattern.ofText`: the pattern that a text is, or why it is none.
-/

namespace OperatorShell

/-- Why a text is no pattern that can be used. -/
inductive PatternError where
  | refused (text : Text) (r : Pattern.Refusal)
  | needsUnicodeWords
  | tooLarge
  deriving DecidableEq, Repr

/-- The wording of a pattern's error. -/
def PatternError.message : PatternError → Text
  | refused text r => r.message text
  | needsUnicodeWords => "error building NFA".toList
  | tooLarge =>
    "Compiled regex exceeds size limit of ".toList ++ Text.decimal Pattern.maxBytes ++
      " bytes.".toList

/-- The pattern that a text is. -/
def Pattern.ofText (t : Text) : Except PatternError Pattern :=
  match do
      let form ← readForm t
      form.meaning {} with
  | .error r => .error (.refused t r)
  | .ok (p, _) =>
    if p.needsUnicodeWords then .error .needsUnicodeWords
    else if p.isTooLarge then .error .tooLarge
    else .ok p

end OperatorShell
