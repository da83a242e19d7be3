import OperatorShell.Reader
import OperatorShell.Text.Cluster
import OperatorShell.Text.Utf8

/-!
# Lines of piped input

Input that comes through a pipe is cut into lines, each decoded by itself. A line that is no text
ends the input. Backspaces are applied to each line in whole clusters; the sizes of clusters are
kept modulo 256, so a backspace after a very long cluster can fall inside a character, and that
breaks the line editor.

* `LineInput.events`: the lines of an input, and how it ends.
-/

namespace OperatorShell.LineInput

/-- The backspace. -/
def backspace : Char := '\x08'

/-- How many sizes of clusters are told apart. -/
def sizes : Nat := 0x100

/-- A text that has its last character first, without its last bytes; nothing if the cut would fall
inside a character. -/
def dropBytes : Nat → Text → Option Text
  | 0, t => some t
  | _, [] => none
  | n + 1, c :: t => if c.utf8Size ≤ n + 1 then dropBytes (n + 1 - c.utf8Size) t else none

/-- Types clusters after `typed`, which has the last character first, as have the `taken` sizes of
its clusters. A backspace takes back as many bytes as the size of the cluster before it; where that
cannot be done, there is no line. -/
def retype (typed : Text) (taken : List Nat) : List Text → Option Text
  | [] => some typed.reverse
  | c :: rest =>
    if c = [backspace] then
      match dropBytes (taken.headD 0) typed with
      | none => none
      | some typed => retype typed taken.tail rest
    else retype (c.reverse ++ typed) (Text.byteLength c % sizes :: taken) rest

/-- The lines of an input in bytes, with whether each ends with a newline; `line` is the line so
far, last byte first. -/
def cutLines (line : Bytes) : Bytes → List (Bytes × Bool)
  | [] => if line = [] then [] else [(line.reverse, false)]
  | b :: rest =>
    if b = 0x0A then (line.reverse, true) :: cutLines [] rest else cutLines (b :: line) rest

/-- A line without the carriage return before its newline. -/
def dropReturn (ended : Bool) (t : Text) : Text :=
  if ended && t.getLast? = some '\r' then t.dropLast else t

/-- A line as it is read. -/
def edited? (ended : Bool) (t : Text) : Option Text :=
  retype [] [] (Text.clusters (dropReturn ended t))

/-- How an input ends. -/
inductive Ending where
  /-- After its last line. -/
  | closed
  /-- At a line that is no text. -/
  | notText
  /-- At a line that breaks the line editor. -/
  | broken
  deriving DecidableEq, Repr

/-- The events of lines, and how they end. -/
def eventsOfLines : List (Bytes × Bool) → List ReadEvent × Ending
  | [] => ([], .closed)
  | (bytes, ended) :: rest =>
    match Text.decodeUtf8? bytes with
    | none => ([], .notText)
    | some t =>
      match edited? ended t with
      | none => ([], .broken)
      | some line =>
        let (events, ending) := eventsOfLines rest
        (.line line :: events, ending)

/-- The events of an input, and how it ends. -/
def events (input : Bytes) : List ReadEvent × Ending := eventsOfLines (cutLines [] input)

end OperatorShell.LineInput
