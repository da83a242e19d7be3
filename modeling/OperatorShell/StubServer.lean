import OperatorShell.Arguments
import OperatorShell.Diagnostic.Filter
import OperatorShell.Listener

/-!
# The stub server as a program

The stub agent can be served by a program of its own, which listens at an address until it is
stopped.

* `StubServer.run`: what the program prints and how it exits, up to the first command.
-/

namespace OperatorShell.StubServer

/-- The address that is listened at when no other is given. -/
def defaultListen : Text := "0.0.0.0:53421".toList

/-- The command line of the server. -/
def command : CommandSpec where
  name := "jp4-stub-agent".toList
  version := "0.1.0".toList
  about := "Echo agent for exercising the JP4Agent CLI without a dataplane".toList
  options := [
    { long := "listen".toList, short := none
      help := "Address to listen on".toList
      role := .value "LISTEN".toList .anyText none (some defaultListen) },
    { long := "verbose".toList, short := some 'v'
      help := "Enable verbose logging".toList
      role := .switch },
    { long := "help".toList, short := some 'h'
      help := "Print help".toList
      role := .help },
    { long := "version".toList, short := some 'V'
      help := "Print version".toList
      role := .version }]

/-- The state of the server after it has started: it listens, or it has ended with a status. -/
structure Start where
  exitCode : Option Nat
  output : Text := []
  report : Text := []
  deriving DecidableEq, Repr

/-- The directives that choose the diagnostics of the server. -/
def directivesOf (env : Environment) (g : Given) : Text :=
  env.logDirectives?.getD
    (if g.has "verbose".toList then "debug".toList else "info".toList)

/-- The report that nothing can listen at an address. -/
def bindReport (address : Text) (fault : ListenError) : Text :=
  Text.line ("Error: failed to bind ".toList ++ address) ++ "\nCaused by:\n".toList ++
    Text.line (Text.spaces 4 ++ fault.message)

/-- Starts the server. At an address that can be listened at, it does so at `bound`. -/
def run (env : Environment) (bound : Text) (arguments : List Text) : Start :=
  match command.parse env arguments with
  | .error fault =>
    { exitCode := some 2, report := Text.line (Arguments.printed env fault.colored) }
  | .ok (.shown text) => { exitCode := some 0, output := Arguments.printed env text }
  | .ok (.given g) =>
    let (_, complaints) := DiagnosticFilter.parse (directivesOf env g)
    let warnings := complaints.flatMap DiagnosticFilter.complaintLine
    let address := (g.value? "listen".toList).getD defaultListen
    match Listener.fault? address with
    | some fault => { exitCode := some 1, report := warnings ++ bindReport address fault }
    | none =>
      { exitCode := none
        output := Text.line ("CLI Server listening on ".toList ++ bound)
        report := warnings }

end OperatorShell.StubServer
