import OperatorShell.Channel.Exchange
import OperatorShell.Channel.Settings

/-!
# Channels

A channel is an agent at the other end of a link. The link can be down, the agent behind it can stay
silent, and the operator can interrupt a command under way.

* `Channel.connect`: a channel, set up with or without contacting the agent.
* `Channel.send`: the outcome of a command over the channel.
-/

namespace OperatorShell

/-- The way to an agent, and what happens on it. -/
structure Link where
  /-- The agent at the far end. -/
  server : StubAgent := {}
  /-- Why nothing gets through, if nothing does; causes go from the outermost inwards. -/
  fault : Option (List Text) := none
  /-- Commands that the agent never answers. -/
  silent : List Text := []
  /-- Commands that the agent never answers, and that the operator interrupts. -/
  interrupted : List Text := []

/-- A link without a network to go over. -/
def Link.unreachable : Link where
  fault := some ["transport error".toList, "tcp connect error".toList, "tcp connect error".toList,
    "Network is unreachable (os error 101)".toList]

/-- What can happen while a command is under way. -/
inductive Happening where
  | answered (outcome : Outcome)
  | limitReached
  | interrupted

/-- The outcome of a command, by the first happening that ends the wait for it. A limit that is not
set and an interrupt that is not listened to end nothing; a link that is lost does. -/
def ChannelSettings.settle (s : ChannelSettings) : List Happening → Outcome
  | [] => .error .unavailable
  | .answered outcome :: _ => outcome
  | .limitReached :: rest =>
    match s.timeout with
    | some limit => .error (.timeout limit)
    | none => s.settle rest
  | .interrupted :: rest => if s.cancelOnInterrupt then .error .cancelled else s.settle rest

/-- What happens to a command on a link, and the link afterwards. -/
def Link.carry (l : Link) (command : Text) : List Happening × Link :=
  if l.fault.isSome then ([], l)
  else if l.interrupted.contains command then ([.interrupted, .limitReached], l)
  else if l.silent.contains command then ([.limitReached], l)
  else
    let (outcome, server) := Exchange.run l.server command
    ([.answered outcome], { l with server })

/-- A channel: its settings and its link. -/
structure Channel where
  settings : ChannelSettings
  link : Link

namespace Channel

/-- Sets up a channel. An eager one contacts the agent at once. -/
def connect (settings : ChannelSettings) (link : Link) (eager : Bool) :
    Except ConnectError (Channel × List Diagnostic) :=
  match settings.endpoint with
  | .error e => .error e
  | .ok _ =>
    if eager then
      match link.fault with
      | some causes => .error (.unreachable settings.address causes)
      | none => .ok (⟨settings, link⟩, [.connected settings.endpointUri])
    else .ok (⟨settings, link⟩, [.lazyChannel settings.endpointUri])

/-- What is noted about an outcome. -/
def noteOf : Outcome → Diagnostic
  | .ok reply => .replied (Text.byteLength reply) 0
  | .error e => .dispatchFailed 0 e.kind

/-- Sends a command. -/
def send (c : Channel) (command : Text) : Answer Channel :=
  let (happenings, link) := c.link.carry command
  let outcome := c.settings.settle happenings
  { outcome
    agent := { c with link }
    diagnostics := [.dispatching command c.settings.address, noteOf outcome] }

instance : Agent Channel where
  send := send

end Channel

end OperatorShell
