import OperatorShell.Outcome

/-!
# Scripted agents

An agent that answers from a list of responses, in order, and with one fallback response when the
list is used up. It keeps every line it was sent.

* `ScriptedAgent.unreachable`, `ScriptedAgent.replying`, `ScriptedAgent.rejecting`: common scripts.
-/

namespace OperatorShell

/-- One scripted response. -/
inductive Response where
  /-- Reply with a text. -/
  | output (text : Text)
  /-- Reply by repeating the command. -/
  | echo
  | unavailable
  | remote (details : Text)
  /-- Time out after so many milliseconds. -/
  | timeout (ms : Nat)
  | cancelled
  deriving DecidableEq, Repr

/-- The reply of an agent that repeats a command. -/
def echoOf (command : Text) : Text := "Output for ".toList ++ command

/-- The outcome of a response to a command. -/
def Response.resolve (command : Text) : Response → Outcome
  | .output text => .ok text
  | .echo => .ok (echoOf command)
  | .unavailable => .error .unavailable
  | .remote details => .error (.remote details)
  | .timeout ms => .error (.timeout (.ofMillis ms))
  | .cancelled => .error .cancelled

/-- An agent with the responses still to give, the fallback, and the lines sent so far, oldest
first. -/
structure ScriptedAgent where
  responses : List Response := []
  fallback : Response := .echo
  sent : List Text := []
  deriving DecidableEq, Repr

namespace ScriptedAgent

/-- The response to the next line. -/
def next (a : ScriptedAgent) : Response := a.responses.headD a.fallback

/-- Answers one line. -/
def send (a : ScriptedAgent) (command : Text) : Answer ScriptedAgent where
  outcome := a.next.resolve command
  agent := { a with responses := a.responses.tail, sent := a.sent ++ [command] }

instance : Agent ScriptedAgent where
  send := send

/-- An agent that is never reachable. -/
def unreachable : ScriptedAgent := { fallback := .unavailable }

/-- An agent that answers with these texts in order, and then repeats commands. -/
def replying (texts : List Text) : ScriptedAgent := { responses := texts.map .output }

/-- An agent that rejects every command with the same details. -/
def rejecting (details : Text) : ScriptedAgent := { fallback := .remote details }

end ScriptedAgent

end OperatorShell
