import OperatorShell.Text.Printable

/-!
# Diagnostics

What the program notes about its own work, apart from what the operator reads. Each diagnostic has
a level, the part of the program that makes it, and one line of text. Texts from outside are
quoted, so that none of them can look like a diagnostic of its own.

* `Diagnostic.message`: the line of a diagnostic.
-/

namespace OperatorShell

/-- How urgent a diagnostic is. -/
inductive Level where
  | error
  | warn
  | info
  | debug
  | trace
  deriving DecidableEq, Repr

namespace Level

/-- The levels from most to least urgent. -/
def all : List Level := [error, warn, info, debug, trace]

/-- The place of a level among all, from one. -/
def rank (l : Level) : Nat := all.idxOf l + 1

/-- The name of a level. -/
def name : Level → Text
  | error => "ERROR".toList
  | warn => "WARN".toList
  | info => "INFO".toList
  | debug => "DEBUG".toList
  | trace => "TRACE".toList

end Level

/-- The part of the program that makes a diagnostic. -/
inductive Origin where
  | session
  | settings
  | lineInput
  | terminal
  | startup
  | channel
  | stubAgent
  deriving DecidableEq, Repr

/-- The name of a part, by which diagnostics are filtered. -/
def Origin.path : Origin → Text
  | session => "jp4_cli::session".toList
  | settings => "jp4_cli::config".toList
  | lineInput => "jp4_cli::editor".toList
  | terminal => "rustyline".toList
  | startup => "jp4cli".toList
  | channel => "jp4_dispatch::grpc".toList
  | stubAgent => "jp4_dispatch::stub".toList

/-- The diagnostics of the program. Spans of time are in milliseconds. -/
inductive Diagnostic where
  /-- The session refused a line for its verb. -/
  | rejectedVerb (verb : Text)
  /-- A session ended for a reason, after so many dispatches. -/
  | sessionEnded (reason : Text) (dispatches : Nat)
  /-- The settings file was passed over for a fault. -/
  | settingsIgnored (path fault : Text)
  /-- The input failed. -/
  | inputFailed (fault : Text)
  /-- A line is awaited from a terminal that cannot edit lines. -/
  | plainTerminal
  /-- A line is awaited from an input that is no terminal. -/
  | noTerminal
  /-- The audit log could not be opened. -/
  | auditDisabled (path fault : Text)
  /-- The session is about to start. -/
  | usingCatalog (vocabulary : Text) (verbs : Nat) (address : Text)
  /-- A channel was set up without contacting the agent. -/
  | lazyChannel (uri : Text)
  /-- A channel was set up and the agent contacted. -/
  | connected (uri : Text)
  /-- A command goes out. -/
  | dispatching (command address : Text)
  /-- A reply of so many bytes came back. -/
  | replied (bytes elapsed : Nat)
  /-- A command came to nothing. -/
  | dispatchFailed (elapsed : Nat) (kind : Text)
  /-- The stub agent received a command. -/
  | received (command : Text)
  deriving DecidableEq, Repr

namespace Diagnostic

/-- The level of a diagnostic. -/
def level : Diagnostic → Level
  | settingsIgnored .. | inputFailed .. | auditDisabled .. => .warn
  | received .. => .info
  | _ => .debug

/-- The part of the program that makes a diagnostic. -/
def origin : Diagnostic → Origin
  | rejectedVerb .. | sessionEnded .. => .session
  | settingsIgnored .. => .settings
  | inputFailed .. => .lineInput
  | plainTerminal | noTerminal => .terminal
  | auditDisabled .. | usingCatalog .. => .startup
  | received .. => .stubAgent
  | lazyChannel .. | connected .. | dispatching .. | replied .. | dispatchFailed .. => .channel

/-- The line of a diagnostic, with its spans of time written by `span`. -/
def messageWith (span : Nat → Text) : Diagnostic → Text
  | rejectedVerb verb => "rejected unknown verb ".toList ++ Text.quoted verb
  | sessionEnded reason dispatches =>
    "session ended (".toList ++ reason ++ ") after ".toList ++ Text.decimal dispatches ++
      " dispatches".toList
  | settingsIgnored path fault =>
    "failed to parse ".toList ++ path ++ ": ".toList ++ fault ++ "; using defaults".toList
  | inputFailed fault => "input error, treating as end of input: ".toList ++ fault
  | plainTerminal => "unsupported terminal".toList
  | noTerminal => "stdin is not a tty".toList
  | auditDisabled path fault =>
    "audit log disabled, cannot open ".toList ++ path ++ ": ".toList ++ fault
  | usingCatalog vocabulary verbs address =>
    "using ".toList ++ vocabulary ++ " catalog (".toList ++ Text.decimal verbs ++
      " verbs) against ".toList ++ address
  | lazyChannel uri => "lazy channel to ".toList ++ uri
  | connected uri => "connected to ".toList ++ uri
  | dispatching command address =>
    "dispatching ".toList ++ Text.quoted command ++ " to ".toList ++ address
  | replied bytes elapsed =>
    "reply (".toList ++ Text.decimal bytes ++ " bytes) in ".toList ++ span elapsed ++ " ms".toList
  | dispatchFailed elapsed kind =>
    "dispatch failed after ".toList ++ span elapsed ++ " ms: ".toList ++ kind
  | received command => "Received cmd: ".toList ++ command

/-- The line of a diagnostic. -/
def message (d : Diagnostic) : Text := d.messageWith Text.decimal

end Diagnostic

end OperatorShell
