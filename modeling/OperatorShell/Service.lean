import OperatorShell.Agent.Stub
import OperatorShell.Diagnostic
import OperatorShell.Uri
import OperatorShell.Wire.Frame
import OperatorShell.Wire.Message
import OperatorShell.Wire.StatusText

/-!
# The command service

The stub agent behind the one method of its service. A request is refused before the agent hears of
it unless it names the method, is not compressed, and carries a whole first message that can be
read.

* `Service.commandOf`: the command of a request, or the refusal.
* `Service.respond`: the response to a request, and the agent afterwards.
-/

namespace OperatorShell

/-- Whether a text can be the name of a method or a header. -/
def isToken (t : Text) : Bool :=
  t ≠ [] && t.all fun c => c.isAlphanum || "!#$%&'*+-.^_`|~".toList.contains c

/-- Headers, in order. -/
abbrev Headers := List (Text × Text)

namespace Headers

/-- Whether a text can be the value of a header: no control of ASCII but the tab is in it. -/
def isValue (t : Text) : Bool := t.all fun c => (0x20 ≤ c.toNat && c.toNat ≠ 0x7F) || c = '\t'

/-- The first value under a name, which is compared without letter case. -/
def get? (hs : Headers) (name : Text) : Option Text :=
  (hs.find? fun h => h.1.map Char.toLower = name).map (·.2)

end Headers

namespace Service

/-- A request: the path of its target, its headers and its body. -/
structure Request where
  path : Text
  headers : Headers := []
  body : Bytes := []
  deriving DecidableEq, Repr

/-- The request with a target, a method and headers, if all of them are well-formed. The method
makes no further difference. -/
def Request.ofParts? (target method : Text) (headers : Headers) (body : Bytes) : Option Request :=
  match Uri.parse target with
  | .error _ => none
  | .ok uri =>
    if isToken method && headers.all fun h => isToken h.1 && Headers.isValue h.2 then
      some ⟨uri.pathOrRoot, headers, body⟩
    else
      none

/-- A response. Without trailers, the headers tell how the request ended. -/
structure Response where
  code : Nat := 200
  headers : Headers
  body : Bytes := []
  trailers : Option Headers := none
  deriving DecidableEq, Repr

/-- The name of the service. -/
def name : Text := "jp4cli.CmdHandler".toList

/-- The path of the method that takes a command. -/
def commandPath : Text := '/' :: name ++ "/SendCmd".toList

/-- A status as headers. -/
def statusHeaders (s : Status) : Headers :=
  (if s.message = [] then []
    else [("grpc-message".toList, Wire.StatusText.encode s.message)]) ++
  [("grpc-status".toList, Text.decimal s.code.number)]

/-- The header of every response. -/
def contentType : Text × Text := ("content-type".toList, "application/grpc".toList)

/-- The response that ends a request with a status. -/
def Response.ofStatus (s : Status) (more : Headers := []) : Response :=
  { headers := contentType :: more ++ statusHeaders s }

/-- The response that carries a reply. -/
def Response.ofReply (reply : Text) : Response where
  headers := [contentType]
  body := Wire.Frame.encode (Wire.MessageKind.reply.encode reply)
  trailers := some (statusHeaders ⟨.ok, []⟩)

/-- The one encoding of messages that is understood. -/
def identity : Text := "identity".toList

/-- The name of an encoding that is not understood, if a request asks for one. -/
def foreignEncoding? (r : Request) : Option Text :=
  (r.headers.get? "grpc-encoding".toList).filter (· ≠ identity)

/-- The refusal of an encoding. -/
def encodingRefusal (encoding : Text) : Response :=
  .ofStatus ⟨.unimplemented, "Content is compressed with `".toList ++ encoding ++
    "` which isn't supported".toList⟩ [("grpc-accept-encoding".toList, identity)]

/-- The texts of the request messages in a body, to its end. -/
def readCommands (body : Bytes) : Except Status (List Text) :=
  match _h : Wire.Frame.decode body with
  | .error e => .error (e.status .request)
  | .ok none => .ok []
  | .ok (some (message, rest)) =>
    match Wire.MessageKind.request.decode message with
    | .error e => .error ⟨.internal, Wire.MessageKind.request.describe e⟩
    | .ok command => (readCommands rest).map (command :: ·)
termination_by body.length
decreasing_by exact Wire.Frame.length_lt_of_decode _h

/-- The command of a request. A body is read to its end, but only its first message counts. -/
def commandOf (r : Request) : Except Response Text :=
  if r.path ≠ commandPath then .error (.ofStatus ⟨.unimplemented, []⟩)
  else
    match foreignEncoding? r with
    | some encoding => .error (encodingRefusal encoding)
    | none =>
      match readCommands r.body with
      | .error status => .error (.ofStatus status)
      | .ok [] => .error (.ofStatus ⟨.internal, "Missing request message.".toList⟩)
      | .ok (command :: _) => .ok command

/-- What a request leads to. -/
structure Turn where
  response : Response
  agent : StubAgent
  diagnostics : List Diagnostic := []

/-- The response to a request. -/
def respond (a : StubAgent) (r : Request) : Turn :=
  match commandOf r with
  | .error response => ⟨response, a, []⟩
  | .ok command =>
    let (answer, a) := a.serve command
    let response :=
      match answer with
      | .ok reply => .ofReply reply
      | .error status => .ofStatus status
    ⟨response, a, [.received command]⟩

/-- The responses to requests, one after the other. -/
def respondAll (a : StubAgent) : List Request → List Response × StubAgent × List Diagnostic
  | [] => ([], a, [])
  | r :: rest =>
    let turn := respond a r
    let (responses, a, ds) := respondAll turn.agent rest
    (turn.response :: responses, a, turn.diagnostics ++ ds)

end Service

end OperatorShell
