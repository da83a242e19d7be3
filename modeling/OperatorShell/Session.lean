import OperatorShell.Audit
import OperatorShell.Display
import OperatorShell.Reader

/-!
# Sessions

A session reads lines until the operator quits or the input ends. A line whose first word is a verb
of the catalog is sent to the agent exactly as it was typed, and what comes back is printed.

* `Session.handleLine`: one line.
* `Session.serve`, `Session.finish`, `Session.run`: the loop, its end, and both.
-/

namespace OperatorShell

/-- Why a session ends. -/
inductive ExitReason where
  | quit
  | endOfInput
  deriving DecidableEq, Repr

/-- The name of a reason in records. -/
def ExitReason.name : ExitReason → Text
  | quit => "quit".toList
  | endOfInput => "end_of_input".toList

/-- The prompt of a session that is given no other. -/
def defaultPrompt : Text := "JP4Agent> ".toList

/-- Everything that lives as long as one session. The stopwatch gives the milliseconds that the n-th
dispatch takes; the diagnostics are in order of time. -/
structure Session (α ω : Type) where
  agent : α
  reader : Reader
  catalog : Catalog
  display : Display ω
  prompt : Text := defaultPrompt
  /-- What is noted each time a line is awaited. -/
  awaiting : List Diagnostic := []
  audit : AuditLog := .disabled []
  stopwatch : Nat → Nat := fun _ => 0
  dispatches : Nat := 0
  diagnostics : List Diagnostic := []

namespace Session

variable {α ω : Type} [Agent α] [Writer ω]

/-- Notes diagnostics. -/
def note (s : Session α ω) (ds : List Diagnostic) : Session α ω :=
  { s with diagnostics := s.diagnostics ++ ds }

/-- Prints what a dispatch ended with. -/
def showOutcome (c : Catalog) (d : Display ω) : Outcome → Display ω
  | .ok reply => d.emitReply c.replyPrefix reply
  | .error e => d.emitError e

/-- Sends a line to the agent, records it and prints what came of it. -/
def dispatch (s : Session α ω) (line : Text) : Session α ω :=
  let answer := Agent.send s.agent line
  { s with
    agent := answer.agent
    dispatches := s.dispatches + 1
    audit := s.audit.append (.dispatch line answer.outcome (s.stopwatch s.dispatches))
    display := showOutcome s.catalog s.display answer.outcome
    diagnostics := s.diagnostics ++ answer.diagnostics }

/-- Adds a line to the history. -/
def remember (s : Session α ω) (line : Text) : Session α ω :=
  { s with reader := s.reader.remember line }

/-- Handles a line. There is a reason to end the session only when the operator quits. -/
def handleLine (s : Session α ω) (line : Text) : Option ExitReason × Session α ω :=
  match Input.classify s.catalog line with
  | .blank => (none, s)
  | .help => (none, { s.remember line with display := s.display.emitListing s.catalog })
  | .quit => (some .quit, s.remember line)
  | .unknown verb =>
    (none, ({ s.remember line with display := s.display.emitUnknown verb s.catalog }).note
      [.rejectedVerb verb])
  | .command command => (none, (s.remember line).dispatch command)

/-- Handles an event. -/
def handleEvent (s : Session α ω) : ReadEvent → Option ExitReason × Session α ω
  | .line text => s.handleLine text
  | .interrupted => (none, s)
  | .endOfInput => (some .endOfInput, s)

/-- Shows the prompt and takes the next event from the reader. -/
def awaitEvent (s : Session α ω) : ReadEvent × Session α ω :=
  let (event, reader) := s.reader.read
  (event, { s with reader, display := s.display.prompt s.prompt }.note s.awaiting)

/-- Handles event after event until one ends the session. The number bounds the events; one more
than the reader's script has is enough, because past its script a reader gives the end of input. -/
def serveUpTo : Nat → Session α ω → ExitReason × Session α ω
  | 0, s => (.endOfInput, s)
  | n + 1, s =>
    let (event, s) := s.awaitEvent
    match s.handleEvent event with
    | (some reason, s) => (reason, s)
    | (none, s) => serveUpTo n s

/-- Handles the reader's events until one ends the session. -/
def serve (s : Session α ω) : ExitReason × Session α ω := serveUpTo (s.reader.script.length + 1) s

/-- Ends a session: the notice, the last record and the last diagnostic. -/
def finish (s : Session α ω) (reason : ExitReason) : Session α ω :=
  ({ s with
    display := s.display.emitExit
    audit := s.audit.append (.exit reason.name s.dispatches) }).note
      [.sessionEnded reason.name s.dispatches]

/-- Runs a session to its end. -/
def run (s : Session α ω) : ExitReason × Session α ω :=
  let (reason, s) := s.serve
  (reason, s.finish reason)

end Session

end OperatorShell
