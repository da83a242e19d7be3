import OperatorShell.Files
import OperatorShell.Settings
import OperatorShell.Settings.Record

/-!
# Loading settings

A file is read as a document, and the document as settings. What a document does not say keeps its
default.

* `Settings.ofText`: the settings of a text.
* `Settings.load`: the settings of a file, or why there are none.
* `Settings.loadOrStandard`: the settings of the default file, or else those of no file at all.
-/

namespace OperatorShell.Settings

open Document (Node)

/-- Why a text holds no settings. -/
inductive TextError where
  | malformed
  | misshapen (fault : ShapeError)
  deriving DecidableEq, Repr

/-- The wording of a text's fault. -/
def TextError.message : TextError → Text
  | .malformed => "malformed document".toList
  | .misshapen fault => fault.message

/-- Why a file holds no settings. -/
inductive LoadError where
  | unreadable (path : Text) (fault : FileError)
  | unparsable (path : Text) (fault : TextError)
  deriving DecidableEq, Repr

namespace LoadError

/-- The innermost cause of an error, with the fault of a text worded by `wording`. -/
def causeWith (wording : TextError → Text) : LoadError → Text
  | unreadable _ fault => fault.message
  | unparsable _ fault => wording fault

/-- The wording of an error, with the fault of a text worded by `wording`. -/
def messageWith (wording : TextError → Text) : LoadError → Text
  | unreadable path fault => "failed to read ".toList ++ path ++ ": ".toList ++ fault.message
  | unparsable path fault => "failed to parse ".toList ++ path ++ ": ".toList ++ wording fault

/-- The wording of an error. -/
def message (e : LoadError) : Text := e.messageWith TextError.message

end LoadError

/-! ## Fields -/

/-- The fields of the agent. -/
def agentFields : List (Field AgentSettings) := [
  .of "address" readText fun v a => { a with address := v },
  .of "timeout_ms" readNatural fun v a => { a with timeout := v },
  .of "connect_timeout_ms" readNatural fun v a => { a with connectTimeout := v },
  .of "fail_fast" readFlag fun v a => { a with failFast := v },
  .of "cancel_on_interrupt" readFlag fun v a => { a with cancelOnInterrupt := v }]

/-- The agent. -/
def readAgent (node : Node) : Except ShapeError AgentSettings :=
  readRecord "struct AgentConfig" agentFields {} node

/-- The vocabulary of a name. -/
def readVocabularyName (name : Text) : Except ShapeError Vocabulary :=
  match Vocabulary.ofName? name with
  | some v => .ok v
  | none => .error (.unknownChoice name [Vocabulary.packet.name, Vocabulary.table.name])

/-- Whether a value holds nothing. -/
def isVoid : Node → Bool
  | .array [] | .table _ [] => true
  | _ => false

/-- A vocabulary: its name, or a table with the name as its only key and nothing under it. -/
def readVocabulary : Node → Except ShapeError Vocabulary
  | .text name => readVocabularyName name
  | .table _ [(name, node)] => do
    let v ← readVocabularyName name
    if isVoid node then return v else throw .notChosen
  | _ => .error .notChosen

/-- The fields of a command, which has no verb to begin with. -/
def commandFields : List (Field (Option Text × Text)) := [
  .of "verb" readText fun v c => (some v, c.2),
  .of "usage" readText fun v c => (c.1, v)]

/-- A command. Its usage may be left out, its verb may not. -/
def readCommand (node : Node) : Except ShapeError CatalogEntry := do
  match ← readRecord "struct CatalogEntry" commandFields (none, []) node with
  | (some verb, usage) => return ⟨verb, usage⟩
  | (none, _) =>
    if itemsOf? node = none then throw (.missing "verb".toList)
    else throw (.tooShort 0 "struct CatalogEntry with 2 elements".toList)

/-- The fields of the vocabulary. -/
def catalogFields : List (Field CatalogSettings) := [
  .of "variant" readVocabulary fun v c => { c with vocabulary := v },
  .of "output_prefix" readText fun v c => { c with replyPrefix := some v },
  .of "commands" (readList readCommand) fun v c => { c with commands := v }]

/-- The vocabulary and its commands. -/
def readCatalog (node : Node) : Except ShapeError CatalogSettings :=
  readRecord "struct CatalogConfig" catalogFields {} node

/-- The fields of the shell. -/
def shellFields : List (Field ShellSettings) := [
  .of "prompt" readText fun v s => { s with prompt := v },
  .of "color" readFlag fun v s => { s with color := v }]

/-- The look of the shell. -/
def readShell (node : Node) : Except ShapeError ShellSettings :=
  readRecord "struct ShellConfig" shellFields {} node

/-- The fields of the audit log. -/
def auditFields : List (Field AuditSettings) := [
  .of "enabled" readFlag fun v a => { a with enabled := v },
  .of "path" readText fun v a => { a with path := some v }]

/-- The audit log. -/
def readAudit (node : Node) : Except ShapeError AuditSettings :=
  readRecord "struct AuditConfig" auditFields {} node

/-- The sections of a document. -/
def sections : List (Field Settings) := [
  .of "agent" readAgent fun v s => { s with agent := v },
  .of "catalog" readCatalog fun v s => { s with catalog := v },
  .of "shell" readShell fun v s => { s with shell := v },
  .of "audit" readAudit fun v s => { s with audit := v }]

/-- The settings of a document. -/
def ofDocument (document : Document.Entries) : Except ShapeError Settings :=
  document.foldlM (readKeyed sections) standard

/-! ## Files -/

/-- The settings of a text. The whole text is read before its parts are looked at. -/
def ofText (t : Text) : Except TextError Settings :=
  match Document.parse t with
  | none => .error .malformed
  | some document => (ofDocument document).mapError .misshapen

/-- The settings of a file. -/
def load (fs : Files) (path : Text) : Except LoadError Settings :=
  match fs.readText path with
  | .error fault => .error (.unreadable path fault)
  | .ok text => (ofText text).mapError (.unparsable path)

/-- The settings of the default file; without such a file, or with one that holds none, the standard
ones. A file that can be read but holds none is given back as well. -/
def loadOrStandard (fs : Files) (env : Environment) : Settings × Option LoadError :=
  match load fs (defaultPath env) with
  | .ok settings => (settings, none)
  | .error (.unreadable ..) => (standard, none)
  | .error e => (standard, some e)

end OperatorShell.Settings
