import OperatorShell.Diagnostic
import OperatorShell.Status

/-!
# Agents and outcomes

An agent is whatever answers command lines: a state and one step, which takes a line and gives its
outcome, the diagnostics noted on the way, and the agent afterwards. A command ends with a reply
text or with an error of one of four kinds. The wording of an error is what the operator reads; its
kind is what the audit log records.

* `Span.millis`: the whole milliseconds of a span of time, cut off and not rounded.
* `DispatchError.message`, `DispatchError.kind`: wording and kind.
* `DispatchError.ofStatus`: the error that a status of the agent amounts to.
* `Agent`: something that answers command lines.
-/

namespace OperatorShell

/-- A span of time: whole seconds, and nanoseconds below 10^9. -/
structure Span where
  seconds : Nat
  nanos : Nat
  deriving DecidableEq, Repr

namespace Span

/-- The span of a number of milliseconds. -/
def ofMillis (ms : Nat) : Span := ⟨ms / 1000, ms % 1000 * 1000000⟩

/-- The whole milliseconds of a span. -/
def millis (s : Span) : Nat := s.seconds * 1000 + s.nanos / 1000000

theorem millis_ofMillis (ms : Nat) : (ofMillis ms).millis = ms := by
  simp only [millis, ofMillis]; omega

end Span

/-- Why a dispatch brought no reply. -/
inductive DispatchError where
  /-- The agent could not be reached. -/
  | unavailable
  /-- The agent answered with a status; these are its details. -/
  | remote (details : Text)
  /-- No answer came within the limit. -/
  | timeout (limit : Span)
  /-- The operator interrupted the command. -/
  | cancelled
  deriving DecidableEq, Repr

/-- What a dispatch ends with: the reply text or an error. -/
abbrev Outcome := Except DispatchError Text

namespace DispatchError

/-- What the operator reads when the agent cannot be reached. -/
def unavailableMessage : Text :=
  "Couldn't connect to JP4Agent. Please ensure JP4Agent is up and running.".toList

/-- The wording of an error, exactly as the shell prints it. -/
def message : DispatchError → Text
  | .unavailable => unavailableMessage
  | .remote details => details
  | .timeout limit =>
    "JP4Agent did not respond within ".toList ++ Text.decimal limit.millis ++ " ms.".toList
  | .cancelled => "Command cancelled.".toList

/-- The kind of an error, as recorded in the audit log. -/
def kind : DispatchError → Text
  | .unavailable => "unavailable".toList
  | .remote _ => "remote_error".toList
  | .timeout _ => "timeout".toList
  | .cancelled => "cancelled".toList

/-- The error that a status amounts to: an absent agent has a code of its own, whatever the message;
every other status is the agent's own answer. -/
def ofStatus (s : Status) : DispatchError :=
  if s.code = .unavailable then .unavailable else .remote s.message

end DispatchError

/-! ## Agents -/

/-- What one command leads to. -/
structure Answer (α : Type) where
  outcome : Outcome
  agent : α
  diagnostics : List Diagnostic := []

/-- Something that answers command lines. -/
class Agent (α : Type) where
  /-- Sends one line. -/
  send : α → Text → Answer α

end OperatorShell
