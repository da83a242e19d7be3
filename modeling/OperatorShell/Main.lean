import OperatorShell.Shell

/-!
# The command line

Reads arguments, variables, the settings file and lines, and prints. The session itself is
`OperatorShell.Session`; no network is linked in, so its link is one over which nothing gets
through.
-/

namespace OperatorShell.Main

/-- The variables that the program looks at. -/
def variableNames : List String :=
  ["JP4AGENT_ADDR", "NO_COLOR", "CLICOLOR_FORCE", "XDG_CONFIG_HOME", "XDG_DATA_HOME", "HOME",
    "RUST_LOG", "TERM"]

/-- The variables that are set. -/
def readEnvironment : IO Environment :=
  variableNames.filterMapM fun name => do
    return (← IO.getEnv name).map fun value => (name.toList, value.toList)

/-- The files of a program that reads a single one. -/
def readFiles (path : Text) : IO Files := do
  try
    let bytes ← IO.FS.readBinFile (String.ofList path)
    match ({} : Files).openForAppend path with
    | (fs, .ok place) => return fs.append place bytes.toList
    | _ => return {}
  catch _ => return {}

/-- The next event, and how the input ends if this is its end. -/
def readEvent (input : IO.FS.Stream) : IO (ReadEvent × LineInput.Ending) := do
  try
    let line ← input.getLine
    let (events, ending) := LineInput.events (Text.encodeUtf8 line.toList)
    return (events.headD .endOfInput, ending)
  catch _ => return (.endOfInput, .notText)

/-- Prints what a session has written, and forgets it. -/
def flushConsole (s : Session Channel Console) : IO (Session Channel Console) := do
  let output ← IO.getStdout
  output.putStr (String.ofList s.display.writer.text)
  output.flush
  return { s with display := { s.display with writer := { s.display.writer with text := [] } } }

/-- Prints the diagnostics of a session that are shown, and forgets them. -/
def flushDiagnostics (filter : DiagnosticFilter) (s : Session Channel Console) :
    IO (Session Channel Console) := do
  for d in s.diagnostics.filter filter.shows do
    IO.eprint (String.ofList (Shell.recordText Text.decimal d))
  return { s with diagnostics := [] }

/-- Opens the audit file, with the directories above it, if a session has one. -/
def openAudit : Option Shell.AuditFile → IO (Except Text (Option IO.FS.Handle))
  | none => return .ok none
  | some file => do
    try
      let parent := (Path.parent? file.path).getD []
      if parent ≠ [] then IO.FS.createDirAll (String.ofList parent)
      return .ok (some (← IO.FS.Handle.mk (String.ofList file.path) .append))
    catch e => return .error e.toString.toList

/-- Writes the new records of a session to the end of the audit file, and forgets them. -/
def flushAudit (file : Option IO.FS.Handle) (s : Session Channel Console) :
    IO (Session Channel Console) := do
  match file with
  | none => return s
  | some file =>
    try
      file.putStr (String.ofList s.audit.text)
      file.flush
    catch _ => pure ()
    return { s with audit := { s.audit with sink := .file [] } }

/-- Handles events until one ends the session, or the line editor breaks. -/
partial def loop (input : IO.FS.Stream)
    (flush : Session Channel Console → IO (Session Channel Console))
    (s : Session Channel Console) : IO Shell.Ending := do
  let s ← flush ({ s with display := s.display.prompt s.prompt }.note s.awaiting)
  let (event, ending) ← readEvent input
  if ending = .broken then return .crashed
  let s := if ending = .notText then s.note [.inputFailed FileError.notUtf8.message] else s
  match s.handleEvent event with
  | (none, s) => loop input flush (← flush s)
  | (some reason, s) =>
    discard <| flush (s.finish reason)
    return .completed

/-- Runs an invocation. -/
def runInvocation (env : Environment) (i : Invocation) : IO UInt32 := do
  let files ← readFiles (i.config.getD (Settings.defaultPath env))
  let terminal ← (← IO.getStdout).isTty
  let launch : Shell.Launch :=
    { environment := env, files, terminal
      session := sessionId 0 ((← IO.monoMsNow) / 1000) }
  let (filter, complaints) := DiagnosticFilter.parse (Shell.directivesOf env i)
  for c in complaints do
    IO.eprint (String.ofList (DiagnosticFilter.complaintLine c))
  match (Shell.prepare launch i).on launch.world with
  | (.error e, w) =>
    for d in w.diagnostics.filter filter.shows do
      IO.eprint (String.ofList (Shell.recordText Text.decimal d))
    IO.eprintln (String.ofList (e.report Settings.TextError.message))
    return UInt32.ofNat (Shell.Ending.failed e).exitCode
  | (.ok p, _) =>
    let input ← IO.getStdin
    let typed ← input.isTty
    let display := p.session.display
    let writer := { display.writer with showsPrompts := typed || display.writer.showsPrompts }
    let awaiting := if typed && !Shell.isPlainTerminal env then [] else p.session.awaiting
    let session := { p.session with display := { display with writer }, awaiting }
    let (file, session) ←
      match ← openAudit p.auditFile with
      | .ok file => pure (file, session)
      | .error fault =>
        let path := (p.auditFile.map Shell.AuditFile.path).getD []
        pure (none, { session with audit := .disabled launch.session }.note
          [.auditDisabled path fault])
    let flush s := do
      flushAudit file (← flushDiagnostics filter (← flushConsole s))
    return UInt32.ofNat (← loop input flush session).exitCode

end OperatorShell.Main

open OperatorShell in
/-- Runs the shell. -/
def main (arguments : List String) : IO UInt32 := do
  let env ← Main.readEnvironment
  match Invocation.parse env (arguments.map String.toList) with
  | .error fault =>
    IO.eprintln (String.ofList (Arguments.printed env fault.colored))
    return UInt32.ofNat (Shell.Ending.refused fault).exitCode
  | .ok (.shown text) =>
    IO.print (String.ofList (Arguments.printed env text))
    return UInt32.ofNat Shell.Ending.shown.exitCode
  | .ok (.invocation i) => Main.runInvocation env i
