import OperatorShell.Catalog
import OperatorShell.Channel.Settings
import OperatorShell.Files
import OperatorShell.Session

/-!
# Settings

What the operator can choose: the agent and how long to wait for it, the vocabulary, the look of the
shell, and the audit log.

* `Settings.standard`: the settings when nothing is chosen.
* `CatalogSettings.build`: the catalog of a vocabulary.
* `AgentSettings.channel`: the channel settings of an agent.
* `AuditSettings.resolvePath`, `Settings.defaultPath`: where files are.
-/

namespace OperatorShell

/-- The agent. A timeout of zero milliseconds stands for none. -/
structure AgentSettings where
  address : Text := ChannelSettings.defaultAddress
  timeout : Nat := 30000
  connectTimeout : Nat := 5000
  failFast : Bool := false
  cancelOnInterrupt : Bool := true
  deriving DecidableEq, Repr

/-- The vocabulary: one that comes with the shell, unless commands of its own are given. -/
structure CatalogSettings where
  vocabulary : Vocabulary := .packet
  replyPrefix : Option Text := none
  commands : List CatalogEntry := []
  deriving DecidableEq, Repr

/-- The look of the shell. -/
structure ShellSettings where
  prompt : Text := defaultPrompt
  color : Bool := true
  deriving DecidableEq, Repr

/-- The audit log. -/
structure AuditSettings where
  enabled : Bool := false
  path : Option Text := none
  deriving DecidableEq, Repr

/-- Everything that can be chosen. -/
structure Settings where
  agent : AgentSettings := {}
  catalog : CatalogSettings := {}
  shell : ShellSettings := {}
  audit : AuditSettings := {}
  deriving DecidableEq, Repr

/-- The settings when nothing is chosen. -/
def Settings.standard : Settings := {}

/-- How to reach the agent. -/
def AgentSettings.channel (a : AgentSettings) : ChannelSettings where
  address := a.address
  timeout := if a.timeout = 0 then none else some (.ofMillis a.timeout)
  connectTimeout := .ofMillis a.connectTimeout
  cancelOnInterrupt := a.cancelOnInterrupt

/-- The catalog. A prefix that is given wins over that of the vocabulary, also when it is empty. -/
def CatalogSettings.build (c : CatalogSettings) : Except CatalogError Catalog :=
  Catalog.ofEntries? (if c.commands = [] then c.vocabulary.entries else c.commands)
    (c.replyPrefix.getD c.vocabulary.replyPrefix)

/-! ## Places of files -/

/-- The operator's own directory. -/
def Environment.home (env : Environment) : Text := (env.get? "HOME".toList).getD Path.here

/-- The directory that a variable names, or one inside the operator's own directory. -/
def Environment.baseDir (env : Environment) (variableName : String) (inHome : List String) : Text :=
  (env.get? variableName.toList).getD <|
    inHome.foldl (fun path name => Path.join path name.toList) env.home

/-- Where the settings are when no other file is named. -/
def Settings.defaultPath (env : Environment) : Text :=
  Path.join (Path.join (env.baseDir "XDG_CONFIG_HOME" [".config"]) "jp4cli".toList)
    "config.toml".toList

/-- Where the audit log is. -/
def AuditSettings.resolvePath (a : AuditSettings) (env : Environment) : Text :=
  a.path.getD <|
    Path.join (Path.join (env.baseDir "XDG_DATA_HOME" [".local", "share"]) "jp4cli".toList)
      "audit.jsonl".toList

end OperatorShell
