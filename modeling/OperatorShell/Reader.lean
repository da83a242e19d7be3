import OperatorShell.Text.Basic

/-!
# Reading lines

A reader gives one event at a time from a script. After the script comes the end of input, as often
as it is asked for. It also keeps the history, which only the shell adds to.

* `Reader.read`, `Reader.remember`: the two operations.
-/

namespace OperatorShell

/-- What one attempt to read a line ends with. -/
inductive ReadEvent where
  | line (text : Text)
  | interrupted
  | endOfInput
  deriving DecidableEq, Repr

/-- The events still to come, the history, oldest first, and how many prompts were shown. -/
structure Reader where
  script : List ReadEvent := []
  history : List Text := []
  prompts : Nat := 0
  deriving DecidableEq, Repr

namespace Reader

/-- A reader of these lines. -/
def ofLines (lines : List Text) : Reader := { script := lines.map .line }

/-- Shows a prompt and gives the next event. -/
def read (r : Reader) : ReadEvent × Reader :=
  (r.script.headD .endOfInput, { r with script := r.script.tail, prompts := r.prompts + 1 })

/-- Adds a line to the history. -/
def remember (r : Reader) (line : Text) : Reader := { r with history := r.history ++ [line] }

end Reader

end OperatorShell
