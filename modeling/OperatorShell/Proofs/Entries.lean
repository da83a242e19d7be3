import OperatorShell.Audit
import OperatorShell.Proofs.Json
import OperatorShell.Text.Layout

/-!
# Entries of the audit file

A line of the audit file is read on its own, as an object, and says what happened and in which
session. It does not matter how the line came about.

* `LogEntry.ofLine?`: what a line of the file says.
* `LogEntry.Tells`: the entry of a line that was sent.
* `AuditLog.sink_foldl_append`: events add one line each, which says what happened.
-/

namespace OperatorShell

/-! ## Entries -/

/-- What a line of the audit file says, with the session it belongs to. -/
inductive LogEntry where
  | dispatch (session command outcome : Text) (detail : Option Text) (duration : Nat)
  | exit (session reason : Text) (dispatches : Nat)
  deriving DecidableEq, Repr

namespace LogEntry

/-- The command of an entry. -/
def command? : LogEntry → Option Text
  | dispatch _ command .. => some command
  | exit .. => none

/-- The entry of an event in a session. Only the agent's own errors have details. -/
def of (session : Text) : AuditEvent → LogEntry
  | .dispatch command (.ok _) duration => dispatch session command "ok".toList none duration
  | .dispatch command (.error .unavailable) duration =>
    dispatch session command "unavailable".toList none duration
  | .dispatch command (.error (.remote details)) duration =>
    dispatch session command "remote_error".toList (some details) duration
  | .dispatch command (.error (.timeout _)) duration =>
    dispatch session command "timeout".toList none duration
  | .dispatch command (.error .cancelled) duration =>
    dispatch session command "cancelled".toList none duration
  | .exit reason dispatches => exit session reason dispatches

/-- The text under a name. -/
def text? (fields : List (Text × Json.Scalar)) (name : String) : Option Text :=
  match fields.lookup name.toList with
  | some (.text t) => some t
  | _ => none

/-- The number under a name. -/
def number? (fields : List (Text × Json.Scalar)) (name : String) : Option Nat :=
  match fields.lookup name.toList with
  | some (.number n) => some n
  | _ => none

/-- The text or the null under a name. -/
def detail? (fields : List (Text × Json.Scalar)) (name : String) : Option (Option Text) :=
  match fields.lookup name.toList with
  | some (.text t) => some (some t)
  | some .null => some none
  | _ => none

/-- The entry that fields make up. Every entry has the second at which it was made. -/
def ofFields? (fields : List (Text × Json.Scalar)) : Option LogEntry := do
  let session ← text? fields "session"
  let _ ← number? fields "ts"
  let type ← text? fields "type"
  if type = "dispatch".toList then
    return dispatch session (← text? fields "command") (← text? fields "outcome")
      (← detail? fields "detail") (← number? fields "duration_ms")
  else if type = "exit".toList then
    return exit session (← text? fields "reason") (← number? fields "dispatches")
  else none

/-- The entry of a line. -/
def ofLine? (line : Text) : Option LogEntry := (Json.readObject? line).bind ofFields?

theorem ofFields?_fields (r : AuditRecord) : ofFields? r.fields = some (of r.session r.event) := by
  obtain ⟨event, session, second⟩ := r
  cases event with
  | exit reason dispatches => rfl
  | dispatch command outcome duration =>
    rcases outcome with (_ | _ | _ | _) | reply <;> rfl

theorem ofLine?_record (r : AuditRecord) :
    ofLine? (Json.renderObject r.fields) = some (of r.session r.event) := by
  rw [ofLine?, Json.readObject?_renderObject, Option.bind_some, ofFields?_fields]

/-- The entry of a line sent in a session, which had this outcome, for which this text was
printed. Where there is a detail, it is the line that was printed. -/
inductive Tells (session line : Text) (outcome : Outcome) (printed : Text) : LogEntry → Prop where
  | dispatch {name : Text} {detail : Option Text} {duration : Nat}
      (ok_iff : name = "ok".toList ↔ ∃ reply, outcome = .ok reply)
      (kind : ∀ e, outcome = .error e → name = e.kind)
      (detail_iff : detail ≠ none ↔ name = "remote_error".toList)
      (printed_eq : ∀ details, detail = some details → printed = Text.line details) :
      Tells session line outcome printed (.dispatch session line name detail duration)

end LogEntry

/-! ## Lines of a text -/

namespace Text

theorem dropLineEnd_line {body : Text} (hbody : '\r' ∉ body) : dropLineEnd (line body) = body := by
  have hlast : ¬body.getLast? = some '\r' := fun h => hbody (List.mem_of_getLast? h)
  simp [dropLineEnd, line, hlast]

theorem lines_flatMap_line {bodies : List Text}
    (h : ∀ body ∈ bodies, Json.FreeOfControls body) : lines (bodies.flatMap line) = bodies := by
  rw [lines, cutLines_flatMap_line fun body hbody => (h body hbody).newline_not_mem, List.map_map]
  have hends : ∀ body ∈ bodies, (dropLineEnd ∘ line) body = id body :=
    fun body hbody => dropLineEnd_line (h body hbody).return_not_mem
  exact (List.map_congr_left hends).trans (List.map_id bodies)

end Text

/-! ## Lines of a log -/

namespace AuditLog

variable {log : AuditLog} {text : Text}

/-- Events leave the file of a log as it was, with one line for each after it, which says what
happened. -/
theorem sink_foldl_append (hfile : log.sink = .file text) (events : List AuditEvent) :
    ∃ bodies : List Text,
      (events.foldl append log).sink = .file (text ++ bodies.flatMap Text.line) ∧
      (∀ body ∈ bodies, '\n' ∉ body) ∧
      bodies.map LogEntry.ofLine? = (events.map (LogEntry.of log.session)).map some := by
  induction events generalizing log text with
  | nil => exact ⟨[], by simpa using hfile, nofun, rfl⟩
  | cons event rest ih =>
    have hnext : (log.append event).sink = .file (text ++ (log.recordOf event).line) := by
      simp only [append, hfile]
    obtain ⟨bodies, hsink, hbodies, hread⟩ := ih hnext
    refine ⟨Json.renderObject (log.recordOf event).fields :: bodies, ?_, ?_, ?_⟩
    · rw [List.foldl_cons, hsink, List.flatMap_cons, List.append_assoc, AuditRecord.line]
    · rintro body (_ | ⟨_, hmem⟩)
      · exact (Json.freeOfControls_renderObject _).newline_not_mem
      · exact hbodies body hmem
    · rw [List.map_cons, LogEntry.ofLine?_record, hread]
      rfl

end AuditLog

end OperatorShell
