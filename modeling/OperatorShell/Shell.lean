import OperatorShell.Channel
import OperatorShell.Diagnostic.Filter
import OperatorShell.Invocation
import OperatorShell.LineInput

/-!
# The shell as a program

From the arguments, the environment, the files and the input to what the program prints and how it
exits. The program works on one `Shell.World` from its first step to its last, and a step that fails
leaves what the steps before it have done.

* `Shell.prepare`: the steps to the session that is to run.
* `Shell.conduct`: a session on piped input, to its end.
* `Shell.run`: the whole program.
-/

namespace OperatorShell

/-- The output of the program. A terminal that cannot edit lines is shown the prompts; otherwise
they are left out, since no one types after them. -/
structure Console where
  text : Text := []
  showsPrompts : Bool := false
  deriving DecidableEq, Repr

instance : Writer Console where
  write w t := ({ w with text := w.text ++ t }, true)
  flush w := (w, true)
  prompt w t := if w.showsPrompts then { w with text := w.text ++ t } else w

namespace Shell

/-- What the program is started with. -/
structure Launch where
  environment : Environment := []
  files : Files := {}
  input : Bytes := []
  link : Link := Link.unreachable
  /-- Whether the output is a terminal. -/
  terminal : Bool := false
  /-- The id of the session in the audit log. -/
  session : Text := []

/-- Why no session starts. -/
inductive StartError where
  | settings (e : Settings.LoadError)
  | catalog (e : CatalogError)
  | connect (e : ConnectError)
  deriving DecidableEq, Repr

namespace StartError

/-- The causes of an error from the outermost inwards, with the fault of a settings text worded by
`wording`. -/
def chain (wording : Settings.TextError → Text) : StartError → List Text
  | settings e =>
    ["failed to load configuration".toList, e.messageWith wording, e.causeWith wording]
  | catalog e => ["invalid command catalog".toList, e.message]
  | connect e => e.message :: e.causes

/-- The line that reports an error. -/
def report (wording : Settings.TextError → Text) (e : StartError) : Text :=
  "error: ".toList ++ Text.intersperse ": ".toList (e.chain wording)

end StartError

/-- Names of terminals that cannot edit lines. -/
def plainTerminals : List Text := ["dumb".toList, "cons25".toList, "emacs".toList]

/-- Whether the operator's terminal cannot edit lines. -/
def isPlainTerminal (env : Environment) : Bool :=
  (env.get? "TERM".toList).any fun t => plainTerminals.contains (t.map Char.toLower)

/-- What is noted each time a line is awaited through a pipe. -/
def awaitingNote (env : Environment) : Diagnostic :=
  if isPlainTerminal env then .plainTerminal else .noTerminal

/-! ## The start -/

/-- What the program works on, and what it has noted and asked for so far. -/
structure World where
  files : Files
  link : Link
  console : Console := {}
  diagnostics : List Diagnostic := []
  /-- How often a line was asked for. -/
  reads : Nat := 0

/-- The world of a launch. -/
def Launch.world (l : Launch) : World where
  files := l.files
  link := l.link
  console := { showsPrompts := isPlainTerminal l.environment }

/-- The world with more diagnostics. -/
def World.note (w : World) (ds : List Diagnostic) : World :=
  { w with diagnostics := w.diagnostics ++ ds }

/-- A step of the start. One that fails says why, and leaves the world as it is by then. -/
abbrev Start := ExceptT StartError (StateM World)

/-- What a step comes to in a world, and the world after it. -/
def Start.on {α : Type} (x : Start α) (w : World) : Except StartError α × World := x.run.run w

/-- Notes diagnostics. -/
def note (ds : List Diagnostic) : Start Unit := modify fun w => w.note ds

/-- The diagnostic for a default file that was passed over. -/
def noteOfFault : Settings.LoadError → Diagnostic
  | .unreadable path fault => .settingsIgnored path fault.message
  | .unparsable path fault => .settingsIgnored path fault.message

/-- Loads the settings. A default file that is passed over is noted. -/
def loadSettings (l : Launch) (i : Invocation) : Start Settings := do
  match i.loadSettings (← get).files l.environment with
  | .error e => throw (.settings e)
  | .ok (settings, fault) =>
    note (fault.toList.map noteOfFault)
    return settings

/-- Builds the catalog. -/
def buildCatalog (s : CatalogSettings) : Start Catalog :=
  match s.build with
  | .error e => throw (.catalog e)
  | .ok catalog => return catalog

/-- Sets up the channel over the link. -/
def connect (s : AgentSettings) : Start Channel := do
  match Channel.connect s.channel (← get).link s.failFast with
  | .error e => throw (.connect e)
  | .ok (channel, connected) =>
    note connected
    return channel

/-- The file of an audit log: its path, and its place among the files. -/
structure AuditFile where
  path : Text
  place : Place

/-- Opens the audit log, if the settings ask for one. A log that cannot be opened is passed over. -/
def openAudit (l : Launch) (s : AuditSettings) : Start (Option AuditFile × AuditLog) := do
  if s.enabled then
    let path := s.resolvePath l.environment
    let (files, opened) := (← get).files.openForAppend path
    modify fun w => { w with files }
    match opened with
    | .ok place => return (some ⟨path, place⟩, .onFile [] l.session)
    | .error fault =>
      note [.auditDisabled path fault.message]
      return (none, .disabled l.session)
  else
    return (none, .disabled l.session)

/-- The style that the settings ask for. -/
def styleOf (l : Launch) (s : ShellSettings) : Style :=
  .preferred s.color l.environment.allowsColor l.terminal

/-- A session that is to run, and the file of its audit log, if it has one. -/
structure Prepared where
  session : Session Channel Console
  auditFile : Option AuditFile

/-- The steps to the session. The audit log is opened last, when nothing can fail any more. -/
def prepare (l : Launch) (i : Invocation) : Start Prepared := do
  let settings ← loadSettings l i
  let catalog ← buildCatalog settings.catalog
  let channel ← connect settings.agent
  note [.usingCatalog settings.catalog.vocabulary.name catalog.size settings.agent.address]
  let (auditFile, audit) ← openAudit l settings.audit
  let w ← get
  let session : Session Channel Console :=
    { agent := channel
      reader := { prompts := w.reads }
      catalog
      display := ⟨w.console, styleOf l settings.shell⟩
      prompt := settings.shell.prompt
      awaiting := [awaitingNote l.environment]
      audit
      diagnostics := w.diagnostics }
  return ⟨session, auditFile⟩

/-! ## The run -/

/-- How a run of the program ends. -/
inductive Ending where
  /-- The arguments were refused. -/
  | refused (fault : ArgumentError)
  /-- A text was shown instead. -/
  | shown
  | failed (e : StartError)
  | completed
  /-- The line editor broke. -/
  | crashed
  deriving DecidableEq, Repr

/-- The status that the program exits with. -/
def Ending.exitCode : Ending → Nat
  | refused _ => 2
  | failed _ => 1
  | shown | completed => 0
  | crashed => 101

/-- Runs a session on piped input to its end. An input that ends with a fault is noted, unless the
operator quits before it. A line editor that breaks takes the session with it. -/
def conduct (s : Session Channel Console) (input : Bytes) : Ending × Session Channel Console :=
  let (events, ending) := LineInput.events input
  let (reason, s) := { s with reader := { s.reader with script := events } }.serve
  match reason, ending with
  | .endOfInput, .broken => (.crashed, s)
  | .endOfInput, .notText =>
    (.completed, (s.note [.inputFailed FileError.notUtf8.message]).finish reason)
  | _, _ => (.completed, s.finish reason)

/-- The world that a session leaves. -/
def World.after (w : World) (s : Session Channel Console) (auditFile : Option AuditFile) :
    World where
  files :=
    match auditFile with
    | some file => w.files.append file.place (Text.encodeUtf8 s.audit.text)
    | none => w.files
  link := s.agent.link
  console := s.display.writer
  diagnostics := s.diagnostics
  reads := s.reader.prompts

/-- What a run of the program leaves behind. -/
structure Outcome where
  ending : Ending
  output : Text := []
  diagnostics : List Diagnostic := []
  files : Files
  link : Link
  /-- How often a line was asked for. -/
  reads : Nat := 0

/-- The outcome of a run that ends in a world. -/
def World.outcome (w : World) (ending : Ending) : Outcome where
  ending
  output := w.console.text
  diagnostics := w.diagnostics
  files := w.files
  link := w.link
  reads := w.reads

/-- Runs the program for an invocation. -/
def runInvocation (l : Launch) (i : Invocation) : Outcome :=
  match (prepare l i).on l.world with
  | (.error e, w) => w.outcome (.failed e)
  | (.ok p, w) =>
    let (ending, s) := conduct p.session l.input
    (w.after s p.auditFile).outcome ending

/-- Runs the program. -/
def run (l : Launch) (arguments : List Text) : Outcome :=
  match Invocation.parse l.environment arguments with
  | .error fault => l.world.outcome (.refused fault)
  | .ok (.shown text) =>
    let console := { l.world.console with text := Arguments.printed l.environment text }
    { l.world with console }.outcome .shown
  | .ok (.invocation i) => runInvocation l i

/-! ## Reports -/

/-- The directives that choose the diagnostics of an invocation. -/
def directivesOf (env : Environment) (i : Invocation) : Text :=
  env.logDirectives?.getD i.logDirectives

/-- How far further lines of a message are indented. -/
def recordIndent : Nat := 4

/-- The record of a diagnostic, with its spans of time written by `span`. Codes in its texts are
left out. -/
def recordText (span : Nat → Text) (d : Diagnostic) : Text :=
  Text.visible <| Text.line <|
    '[' :: Text.padTo 5 d.level.name ++ ' ' :: d.origin.path ++ "] ".toList ++
      Text.indented recordIndent (d.messageWith span)

/-- The report on a run for an invocation: complaints, the records that are shown, and the error
that kept the session from starting. -/
def reportText (span : Nat → Text) (wording : Settings.TextError → Text) (env : Environment)
    (i : Invocation) (diagnostics : List Diagnostic) (ending : Ending) : Text :=
  let (filter, complaints) := DiagnosticFilter.parse (directivesOf env i)
  complaints.flatMap DiagnosticFilter.complaintLine ++
    (diagnostics.filter filter.shows).flatMap (recordText span) ++
    match ending with
    | .failed e => Text.line (e.report wording)
    | _ => []

end Shell

end OperatorShell
