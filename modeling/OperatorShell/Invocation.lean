import OperatorShell.Arguments
import OperatorShell.Settings.Load

/-!
# Invocations of the shell

The options of the shell's command line. An option wins over the settings of the file.

* `Invocation.parse`: the invocation that arguments ask for.
* `Invocation.applyTo`: settings with the options of an invocation.
* `Invocation.loadSettings`: the settings that an invocation runs with.
-/

namespace OperatorShell

/-- The command line of the shell. -/
def shellCommand : CommandSpec where
  name := "jp4cli".toList
  version := "0.1.0".toList
  about := "Interactive command shell for JP4Agent".toList
  options := [
    { long := "config".toList, short := none
      help := "Config file (default: $XDG_CONFIG_HOME/jp4cli/config.toml)".toList
      role := .value "PATH".toList .nonEmpty none none },
    { long := "addr".toList, short := none
      help := "Agent address as host:port".toList
      role := .value "HOST:PORT".toList .anyText (some "JP4AGENT_ADDR".toList) none },
    { long := "catalog".toList, short := none
      help := "Built-in command vocabulary".toList
      role := .value "CATALOG".toList (.choice [
        ⟨Vocabulary.packet.name, "Packet injection and routing commands".toList⟩,
        ⟨Vocabulary.table.name, "AFI table management commands".toList⟩]) none none },
    { long := "timeout-ms".toList, short := none
      help := "Per-command timeout in milliseconds, 0 to wait forever".toList
      role := .value "MS".toList (.number Text.maxWord64) none none },
    { long := "fail-fast".toList, short := none
      help := "Connect at startup and exit if the agent is unreachable".toList
      role := .switch },
    { long := "audit".toList, short := none
      help := "Append a JSONL record of every dispatched command".toList
      role := .switch },
    { long := "no-color".toList, short := none
      help := "Disable colored output".toList
      role := .switch },
    { long := "verbose".toList, short := some 'v'
      help := "Debug logging on stderr".toList
      role := .switch },
    { long := "help".toList, short := some 'h'
      help := "Print help".toList
      role := .help },
    { long := "version".toList, short := some 'V'
      help := "Print version".toList
      role := .version }]

/-- The options of one run of the shell. -/
structure Invocation where
  config : Option Text := none
  address : Option Text := none
  vocabulary : Option Vocabulary := none
  timeout : Option Nat := none
  failFast : Bool := false
  audit : Bool := false
  noColor : Bool := false
  verbose : Bool := false
  deriving DecidableEq, Repr

namespace Invocation

/-- The invocation of options that were given. -/
def ofGiven (g : Given) : Invocation where
  config := g.value? "config".toList
  address := g.value? "addr".toList
  vocabulary := (g.value? "catalog".toList).bind Vocabulary.ofName?
  timeout := (g.value? "timeout-ms".toList).bind fun t =>
    (Text.readBounded Text.maxWord64 t).toOption
  failFast := g.has "fail-fast".toList
  audit := g.has "audit".toList
  noColor := g.has "no-color".toList
  verbose := g.has "verbose".toList

/-- What a command line asks for. -/
inductive Asked where
  | invocation (i : Invocation)
  /-- A text to show instead of running. -/
  | shown (text : Text)
  deriving DecidableEq, Repr

/-- What arguments ask for. -/
def parse (env : Environment) (arguments : List Text) : Except ArgumentError Asked :=
  (shellCommand.parse env arguments).map fun
    | .given g => .invocation (ofGiven g)
    | .shown text => .shown text

/-- A vocabulary that was asked for wins over commands and a prefix of the file. -/
def chooseVocabulary (v : Option Vocabulary) (c : CatalogSettings) : CatalogSettings :=
  match v with
  | some v => { vocabulary := v }
  | none => c

/-- Settings with the options of an invocation. -/
def applyTo (i : Invocation) (s : Settings) : Settings where
  agent := { s.agent with
    address := i.address.getD s.agent.address
    timeout := i.timeout.getD s.agent.timeout
    failFast := i.failFast || s.agent.failFast }
  catalog := chooseVocabulary i.vocabulary s.catalog
  shell := { s.shell with color := !i.noColor && s.shell.color }
  audit := { s.audit with enabled := i.audit || s.audit.enabled }

/-- The settings that an invocation runs with, and the fault for which the default file was passed
over. A file that is named has to hold settings. -/
def loadSettings (i : Invocation) (fs : Files) (env : Environment) :
    Except Settings.LoadError (Settings × Option Settings.LoadError) :=
  match i.config with
  | some path => (Settings.load fs path).map fun s => (i.applyTo s, none)
  | none =>
    let (s, fault) := Settings.loadOrStandard fs env
    .ok (i.applyTo s, fault)

/-- The directives for diagnostics when the environment has none. -/
def logDirectives (i : Invocation) : Text :=
  if i.verbose then "jp4_cli=debug,jp4_dispatch=debug,warn".toList else "warn".toList

end Invocation

end OperatorShell
