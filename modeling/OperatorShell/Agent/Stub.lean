import OperatorShell.Agent.Scripted

/-!
# The stub agent

A stand-in for an agent: it keeps the commands it receives, and answers each from the front of a
queue of replies, or by repeating the command when the queue is empty. Serving a command takes two
steps, each on its own part of the state, so that commands served at once can overtake each other
between them.

* `StubAgent.receive`, `StubAgent.take`, `StubAgent.push`: the steps.
* `StubAgent.serve`: both steps of one command, one after the other.
-/

namespace OperatorShell

/-- How the stub agent answers one command. -/
inductive StubReply where
  /-- By repeating the command. -/
  | echo
  | text (text : Text)
  | status (status : Status)
  deriving DecidableEq, Repr

/-- The answer that a reply gives to a command. -/
def StubReply.resolve (command : Text) : StubReply → Except Status Text
  | .echo => .ok (echoOf command)
  | .text reply => .ok reply
  | .status answer => .error answer

/-- The replies still queued, and the commands received so far, oldest first. -/
structure StubAgent where
  script : List StubReply := []
  received : List Text := []
  deriving DecidableEq, Repr

namespace StubAgent

/-- Queues a reply for a later command. -/
def push (a : StubAgent) (reply : StubReply) : StubAgent :=
  { a with script := a.script ++ [reply] }

/-- Keeps a command. -/
def receive (a : StubAgent) (command : Text) : StubAgent :=
  { a with received := a.received ++ [command] }

/-- Takes the reply at the front of the queue; an empty queue stands for an echo. -/
def take (a : StubAgent) : StubReply × StubAgent :=
  (a.script.headD .echo, { a with script := a.script.tail })

/-- Serves one command. -/
def serve (a : StubAgent) (command : Text) : Except Status Text × StubAgent :=
  let (reply, a) := (a.receive command).take
  (reply.resolve command, a)

end StubAgent

end OperatorShell
