import OperatorShell.Json
import OperatorShell.Outcome

/-!
# The audit log

One line for every dispatched command and one for the end of a session. A line is a JSON object
with its names in alphabetical order; the log only ever grows at its end.

* `AuditRecord.line`: the line of a record.
* `AuditLog.append`: what an event does to a log. A log that keeps nothing, or that cannot be
  written, takes every event all the same.
-/

namespace OperatorShell

/-- What is worth a record. -/
inductive AuditEvent where
  /-- A command went out, and what came of it after so many milliseconds. -/
  | dispatch (command : Text) (outcome : Outcome) (duration : Nat)
  /-- A session ended for a reason, after so many dispatches. -/
  | exit (reason : Text) (dispatches : Nat)

/-- The name under which an outcome is recorded. -/
def Outcome.recordName : Outcome → Text
  | .ok _ => "ok".toList
  | .error e => e.kind

/-- The details that are recorded with an outcome: those of the agent's own errors. -/
def Outcome.recordDetail : Outcome → Json.Scalar
  | .error (.remote details) => .text details
  | _ => .null

/-- An event, the session it belongs to, and the second at which it happened. -/
structure AuditRecord where
  event : AuditEvent
  session : Text
  second : Nat

namespace AuditRecord

/-- The fields of a record, sorted by name. -/
def fields (r : AuditRecord) : List (Text × Json.Scalar) :=
  match r.event with
  | .dispatch command outcome duration => [
      ("command".toList, .text command),
      ("detail".toList, outcome.recordDetail),
      ("duration_ms".toList, .number duration),
      ("outcome".toList, .text outcome.recordName),
      ("session".toList, .text r.session),
      ("ts".toList, .number r.second),
      ("type".toList, .text "dispatch".toList)]
  | .exit reason dispatches => [
      ("dispatches".toList, .number dispatches),
      ("reason".toList, .text reason),
      ("session".toList, .text r.session),
      ("ts".toList, .number r.second),
      ("type".toList, .text "exit".toList)]

/-- The line of a record. -/
def line (r : AuditRecord) : Text := Text.line (Json.renderObject r.fields)

end AuditRecord

/-- Where records go. -/
inductive AuditSink where
  /-- Nowhere. -/
  | off
  /-- To the end of a file that holds this text. -/
  | file (text : Text)
  /-- To a file that refuses every write. -/
  | failing
  deriving DecidableEq, Repr

/-- The log of one session. Its clock gives the second of the n-th event. -/
structure AuditLog where
  sink : AuditSink
  session : Text
  clock : Nat → Nat := fun _ => 0
  events : Nat := 0

/-- The id of a session that a process starts at a second: both numbers in one 32-bit word. -/
def sessionId (process second : Nat) : Text :=
  's' :: Text.hexadecimal ((process ^^^ second) % 0x100000000)

namespace AuditLog

/-- A log that keeps nothing. -/
def disabled (session : Text) : AuditLog := { sink := .off, session }

/-- A log at the end of a file that holds this text. -/
def onFile (text session : Text) : AuditLog := { sink := .file text, session }

/-- Whether records are to be kept. -/
def isEnabled (log : AuditLog) : Bool := log.sink ≠ .off

/-- The text of the file, where there is one. -/
def text (log : AuditLog) : Text :=
  match log.sink with
  | .file text => text
  | _ => []

/-- The record of the next event. -/
def recordOf (log : AuditLog) (event : AuditEvent) : AuditRecord :=
  ⟨event, log.session, log.clock log.events⟩

/-- Takes an event. -/
def append (log : AuditLog) (event : AuditEvent) : AuditLog where
  sink :=
    match log.sink with
    | .file text => .file (text ++ (log.recordOf event).line)
    | sink => sink
  session := log.session
  clock := log.clock
  events := log.events + 1

end AuditLog

end OperatorShell
