import OperatorShell.Service

/-!
# One exchange with the service

A command goes out in a request, and the response is read as an outcome. Only the agent's own
answers come out of an exchange: a reply, an error of the agent, or its absence.

* `Exchange.requestOf`: the request of a command.
* `Exchange.outcomeOf`: the outcome of a response.
* `Exchange.run`: one exchange with a stub agent.
-/

namespace OperatorShell.Exchange

/-- The request that carries a command. -/
def requestOf (command : Text) : Service.Request where
  path := Service.commandPath
  headers := [Service.contentType, ("te".toList, "trailers".toList)]
  body := Wire.Frame.encode (Wire.MessageKind.request.encode command)

/-- The status that is told in place of one with a message that is no text. -/
def illegible (fault : Text.Utf8Fault) : Status :=
  ⟨.unknown, "Error deserializing status message header: ".toList ++ fault.message⟩

/-- The status in headers, if they hold one. -/
def statusOf? (hs : Headers) : Option Status :=
  (hs.get? "grpc-status".toList).map fun number =>
    match Wire.StatusText.decode ((hs.get? "grpc-message".toList).getD []) with
    | .ok message => ⟨StatusCode.ofNumeral number, message⟩
    | .error fault => illegible fault

/-- An answer without a message. -/
def missingMessage : Outcome := .error (.remote "Missing response message.".toList)

/-- The outcome of a status that no message came with. -/
def outcomeOfStatus (s : Status) : Outcome :=
  if s.code = .ok then missingMessage else .error (.ofStatus s)

/-- The outcome of a reply, unless the status after it says otherwise. -/
def outcomeOfReply (reply : Text) (after : Option Status) : Outcome :=
  match after with
  | some s => if s.code = .ok then .ok reply else .error (.ofStatus s)
  | none => .ok reply

/-- The outcome of a response. -/
def outcomeOf (r : Service.Response) : Outcome :=
  match statusOf? r.headers with
  | some status => outcomeOfStatus status
  | none =>
    let after := statusOf? (r.trailers.getD [])
    match Wire.Frame.decode r.body with
    | .error e => .error (.ofStatus (e.status .response))
    | .ok none => (after.map outcomeOfStatus).getD missingMessage
    | .ok (some (message, _)) =>
      match Wire.MessageKind.reply.decode message with
      | .error e => .error (.remote (Wire.MessageKind.reply.describe e))
      | .ok reply => outcomeOfReply reply after

/-- One exchange with a stub agent. -/
def run (a : StubAgent) (command : Text) : Outcome × StubAgent :=
  let turn := Service.respond a (requestOf command)
  (outcomeOf turn.response, turn.agent)

end OperatorShell.Exchange
