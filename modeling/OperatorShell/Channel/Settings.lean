import OperatorShell.Outcome
import OperatorShell.Text.Blank
import OperatorShell.Uri

/-!
# Channel settings

Where the agent is, and how long to wait for it.

* `ChannelSettings.endpointUri`: the URI of an address. A plain `host:port` is given a scheme.
* `ChannelSettings.endpoint`: that URI in parts, or why nothing can be there.
-/

namespace OperatorShell

/-- How to reach the agent. Without a timeout a dispatch waits for ever. -/
structure ChannelSettings where
  address : Text
  timeout : Option Span
  connectTimeout : Span
  cancelOnInterrupt : Bool
  deriving DecidableEq, Repr

/-- Why there is no channel to the agent. -/
inductive ConnectError where
  | invalidAddress (address : Text) (cause : UriError)
  /-- The agent does not answer; the causes go from the outermost inwards. -/
  | unreachable (address : Text) (causes : List Text)
  deriving DecidableEq, Repr

namespace ConnectError

/-- The causes of an error, from the outermost inwards. -/
def causes : ConnectError → List Text
  | invalidAddress _ cause => ["invalid URI".toList, cause.message]
  | unreachable _ causes => causes

/-- The wording of an error, with its outermost cause only. -/
def message : ConnectError → Text
  | invalidAddress address _ =>
    "invalid agent address '".toList ++ address ++ "': invalid URI".toList
  | unreachable address _ =>
    "couldn't connect to JP4Agent at ".toList ++ address ++ ": transport error".toList

end ConnectError

namespace ChannelSettings

/-- The address of an agent on the same host. -/
def defaultAddress : Text := "localhost:53421".toList

/-- The settings for an address: half a minute for a dispatch, five seconds for a connection. -/
def ofAddress (address : Text) : ChannelSettings where
  address := address
  timeout := some (.ofMillis 30000)
  connectTimeout := .ofMillis 5000
  cancelOnInterrupt := true

/-- The settings when nothing else is said. -/
def standard : ChannelSettings := ofAddress defaultAddress

/-- What sets a scheme apart from the rest of a URI. -/
def schemeSeparator : Text := "://".toList

/-- The URI of the address. Blanks around an address do not count. -/
def endpointUri (s : ChannelSettings) : Text :=
  let address := Text.trim s.address
  if Text.hasPart schemeSeparator address then address else "http://".toList ++ address

/-- The endpoint that the address names. -/
def endpoint (s : ChannelSettings) : Except ConnectError Uri :=
  (Uri.parse s.endpointUri).mapError (.invalidAddress s.address)

end ChannelSettings

end OperatorShell
