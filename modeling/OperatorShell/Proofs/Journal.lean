import OperatorShell.Proofs.Entries
import OperatorShell.Proofs.Opening

/-!
# The audit file as a journal

Sessions come and go, several at once perhaps, and all of them keep their log at the end of one
file. Whatever their commands, their reasons and the details of their errors say, every event adds
one line to what the file had, and the lines, cut apart and read, are the events.

* `LogBook`, `LogAction`: logs that are open on one file, and what happens to them.
* `LogAction.entries`: what happened, in order, without the file.
* `LogBook.run_reads_back`: the file grows line by line, and reads as what happened.
-/

namespace OperatorShell

/-! ## Logs that are open on one file -/

/-- A log that is open, and the place of its file. -/
structure OpenLog where
  log : AuditLog
  place : Place

/-- Files, and the logs that were opened on them, in that order. -/
structure LogBook where
  files : Files
  logs : List OpenLog := []

/-- What happens to a log book. -/
inductive LogAction where
  /-- A session opens its log. -/
  | opened (session : Text) (clock : Nat → Nat)
  /-- The log that was opened after `n` others takes an event. -/
  | event (n : Nat) (e : AuditEvent)

namespace LogBook

/-- The text that an action adds to the file. -/
def added (b : LogBook) : LogAction → Text
  | .opened _ _ => []
  | .event n e =>
    match b.logs[n]? with
    | some l => (l.log.append e).text.drop l.log.text.length
    | none => []

/-- One action on the file of a path. A log writes what its event adds at the end of the file. -/
def step (path : Text) (b : LogBook) : LogAction → LogBook
  | .opened session clock =>
    match b.files.openForAppend path with
    | (files, .ok place) =>
      { files, logs := b.logs ++ [⟨{ AuditLog.onFile [] session with clock }, place⟩] }
    | (files, .error _) => { b with files }
  | .event n e =>
    match b.logs[n]? with
    | some l =>
      { files := b.files.append l.place (Text.encodeUtf8 (b.added (.event n e)))
        logs := b.logs.set n { l with log := l.log.append e } }
    | none => b

/-- Actions, one after another. -/
def run (path : Text) (b : LogBook) (actions : List LogAction) : LogBook :=
  actions.foldl (step path) b

end LogBook

/-- The entries of actions, where these sessions have opened their logs before. -/
def LogAction.entries : List Text → List LogAction → List LogEntry
  | _, [] => []
  | sessions, .opened session _ :: rest => entries (sessions ++ [session]) rest
  | sessions, .event n e :: rest =>
    match sessions[n]? with
    | some session => .of session e :: entries sessions rest
    | none => entries sessions rest

namespace LogBook

variable {path : Text} {place : Place} {b : LogBook} {sessions bodies : List Text}

/-- The logs of these sessions are open at one place, and the file there has these lines. -/
structure Holds (path : Text) (place : Place) (b : LogBook) (sessions bodies : List Text) :
    Prop where
  leadsTo : b.files.LeadsTo path place
  file : b.files.at? place = some (.file (Text.encodeUtf8 (bodies.flatMap Text.line)))
  sessions : b.logs.map (fun l => l.log.session) = sessions
  logs : ∀ l ∈ b.logs, l.place = place ∧ ∃ text, l.log.sink = .file text
  free : ∀ body ∈ bodies, Json.FreeOfControls body

theorem Holds.readText (h : Holds path place b sessions bodies) :
    b.files.readText path = .ok (bodies.flatMap Text.line) := by
  have hread := (h.leadsTo b.files _ (.refl _) h.file).2
  have hdecode : Text.decodeUtf8? (Text.encodeUtf8 (bodies.flatMap Text.line)) =
      some (bodies.flatMap Text.line) := Text.decodeUtf8?_eq_some_iff.2 rfl
  simp [Files.readText, hread, hdecode, bind, Except.bind, pure, Except.pure]

theorem Holds.opened (h : Holds path place b sessions bodies) (session : Text)
    (clock : Nat → Nat) :
    Holds path place (b.step path (.opened session clock)) (sessions ++ [session]) bodies := by
  have hopen := (h.leadsTo b.files _ (.refl _) h.file).1
  rw [step, hopen]
  refine ⟨h.leadsTo, h.file, ?_, ?_, h.free⟩
  · rw [List.map_append, h.sessions]
    rfl
  · intro l hl
    obtain hl | hl := List.mem_append.1 hl
    · exact h.logs l hl
    · obtain rfl := List.mem_singleton.1 hl
      exact ⟨rfl, [], rfl⟩

theorem added_event {n : Nat} {l : OpenLog} {text : Text} (hl : b.logs[n]? = some l)
    (hfile : l.log.sink = .file text) (e : AuditEvent) :
    b.added (.event n e) = (l.log.recordOf e).line := by
  have hbefore : l.log.text = text := by rw [AuditLog.text, hfile]
  have hafter : (l.log.append e).text = text ++ (l.log.recordOf e).line := by
    simp only [AuditLog.text, AuditLog.append, hfile]
  simp only [added, hl]
  rw [hafter, hbefore, List.drop_left]

theorem Holds.event (h : Holds path place b sessions bodies) {n : Nat} {session : Text}
    (hsession : sessions[n]? = some session) (e : AuditEvent) :
    ∃ body, LogEntry.ofLine? body = some (.of session e) ∧
      b.added (.event n e) = Text.line body ∧
      Holds path place (b.step path (.event n e)) sessions (bodies ++ [body]) := by
  rw [← h.sessions, List.getElem?_map] at hsession
  obtain ⟨l, hl, rfl⟩ := Option.map_eq_some_iff.1 hsession
  obtain ⟨hplace, text, hsink⟩ := h.logs l (List.mem_of_getElem? hl)
  have hadded : b.added (.event n e) = (l.log.recordOf e).line := added_event hl hsink e
  have hstep : b.step path (.event n e) =
      { files := b.files.append place (Text.encodeUtf8 (l.log.recordOf e).line)
        logs := b.logs.set n { l with log := l.log.append e } } := by
    simp only [step, hl, hplace, hadded]
  refine ⟨Json.renderObject (l.log.recordOf e).fields, LogEntry.ofLine?_record (l.log.recordOf e),
    hadded, ?_⟩
  rw [hstep]
  refine ⟨h.leadsTo.of_keeps (Files.keeps_append _ _ _), ?_, ?_, ?_, ?_⟩
  · rw [Files.at?_append _ h.file, List.flatMap_append, Text.encodeUtf8_append]
    simp [AuditRecord.line]
  · have hget : (b.logs.map fun l => l.log.session)[n]? = some l.log.session := by
      rw [List.getElem?_map, hl, Option.map_some]
    obtain ⟨hn, hsession⟩ := List.getElem?_eq_some_iff.1 hget
    rw [List.map_set, ← h.sessions, show (l.log.append e).session = _ from hsession.symm,
      List.set_getElem_self]
  · intro l' hl'
    obtain hl' | rfl := List.mem_or_eq_of_mem_set hl'
    · exact h.logs l' hl'
    · exact ⟨hplace, text ++ (l.log.recordOf e).line, by simp only [AuditLog.append, hsink]⟩
  · intro body hbody
    obtain hbody | hbody := List.mem_append.1 hbody
    · exact h.free body hbody
    · rw [List.mem_singleton.1 hbody]
      exact Json.freeOfControls_renderObject _

theorem Holds.event_of_none (h : Holds path place b sessions bodies) {n : Nat}
    (hsession : sessions[n]? = none) (e : AuditEvent) :
    b.added (.event n e) = [] ∧ b.step path (.event n e) = b := by
  rw [← h.sessions, List.getElem?_map, Option.map_eq_none_iff] at hsession
  simp only [added, step, hsession, and_self]

/-- Whatever happens, the file has one more line for each entry, which says what the entry says. -/
theorem Holds.run (h : Holds path place b sessions bodies) (actions : List LogAction) :
    ∃ sessions' added, Holds path place (run path b actions) sessions' (bodies ++ added) ∧
      added.map LogEntry.ofLine? = (LogAction.entries sessions actions).map some := by
  -- the sessions grow with each opening and the lines with each event of an open log
  induction actions generalizing b sessions bodies with
  | nil => exact ⟨sessions, [], by rwa [List.append_nil], rfl⟩
  | cons action rest ih =>
    cases action with
    | opened session clock => exact ih (h.opened session clock)
    | event n e =>
      rw [LogBook.run, List.foldl_cons, ← LogBook.run]
      cases hsession : sessions[n]? with
      | none =>
        rw [(h.event_of_none hsession e).2]
        simp only [LogAction.entries, hsession]
        exact ih h
      | some session =>
        obtain ⟨body, hread, -, hnext⟩ := h.event hsession e
        obtain ⟨sessions', added, hlast, hentries⟩ := ih hnext
        refine ⟨sessions', body :: added, ?_, ?_⟩
        · rw [List.append_cons]
          exact hlast
        · simp only [LogAction.entries, hsession, List.map_cons, hread, hentries]

theorem holds_opened {fs files : Files} (hcwd : fs.IsDir fs.cwd)
    (hopen : fs.openForAppend path = (files, .ok place))
    (hempty : fs.at? place = none ∨ fs.at? place = some (.file [])) (session : Text)
    (clock : Nat → Nat) :
    Holds path place (step path ⟨fs, []⟩ (.opened session clock)) [session] [] := by
  obtain ⟨hleads, content, hfile, hcontent⟩ := Files.openForAppend_eq_ok hcwd hopen
  have hnil : content = [] := by
    obtain hbefore | hnil := hcontent
    · obtain hnone | hempty := hempty
      · simp [hnone] at hbefore
      · simpa [hempty] using hbefore.symm
    · exact hnil
  rw [step, hopen]
  refine ⟨hleads, by rw [hfile, hnil]; rfl, rfl, ?_, nofun⟩
  intro l hl
  obtain rfl := List.mem_singleton.1 hl
  exact ⟨rfl, [], rfl⟩

/-- An action leaves the file of a path as it was, with what it adds after it. What an event of an
open log adds is one line, with no newline but its last character. -/
structure Appends (path : Text) (b : LogBook) (action : LogAction) : Prop where
  grows : ∃ text, b.files.readText path = .ok text ∧
    (b.step path action).files.readText path = .ok (text ++ b.added action)
  line : ∀ n e l, action = .event n e → b.logs[n]? = some l →
    ∃ body, b.added action = Text.line body ∧ '\n' ∉ body ∧
      LogEntry.ofLine? body = some (.of l.log.session e)

theorem Holds.appends (h : Holds path place b sessions bodies) (action : LogAction) :
    Appends path b action := by
  cases action with
  | opened session clock =>
    refine ⟨⟨_, h.readText, ?_⟩, nofun⟩
    rw [added, List.append_nil]
    exact (h.opened session clock).readText
  | event n e =>
    cases hsession : sessions[n]? with
    | none =>
      obtain ⟨hadded, hstep⟩ := h.event_of_none hsession e
      refine ⟨⟨_, h.readText, ?_⟩, ?_⟩
      · rw [hadded, hstep, List.append_nil]
        exact h.readText
      · rintro n' e' l ⟨⟩ hl
        rw [← h.sessions, List.getElem?_map, hl] at hsession
        simp at hsession
    | some session =>
      obtain ⟨body, hread, hadded, hnext⟩ := h.event hsession e
      refine ⟨⟨_, h.readText, ?_⟩, ?_⟩
      · rw [hadded, hnext.readText, List.flatMap_append]
        simp
      · rintro n' e' l ⟨⟩ hl
        have hbody : Json.FreeOfControls body := hnext.free body (by simp)
        rw [← h.sessions, List.getElem?_map, hl, Option.map_some, Option.some_inj] at hsession
        exact ⟨body, hadded, hbody.newline_not_mem, hsession ▸ hread⟩

/-- **The audit file reads back as what happened.** Logs are opened one after another on one file,
which was not there before the first or was empty, and take events in any order. Each event adds one
line at the end of the file. The lines of the file, each read as an object, are the events in the
order in which they happened, each with its own data and with the session of its log. -/
theorem run_reads_back {fs files : Files} (hcwd : fs.IsDir fs.cwd)
    (hopen : fs.openForAppend path = (files, .ok place))
    (hempty : fs.at? place = none ∨ fs.at? place = some (.file [])) (session : Text)
    (clock : Nat → Nat) (actions : List LogAction) :
    (∀ before action after, actions = before ++ action :: after →
      Appends path (run path ⟨fs, []⟩ (.opened session clock :: before)) action) ∧
    ∃ text, (run path ⟨fs, []⟩ (.opened session clock :: actions)).files.readText path = .ok text ∧
      (Text.lines text).map LogEntry.ofLine? =
        (LogAction.entries [] (.opened session clock :: actions)).map some := by
  have hfirst := holds_opened hcwd hopen hempty session clock
  constructor
  · rintro before action after rfl
    obtain ⟨sessions, bodies, hbefore, -⟩ := hfirst.run before
    exact hbefore.appends action
  · obtain ⟨sessions, bodies, hlast, hentries⟩ := hfirst.run actions
    rw [List.nil_append] at hlast
    refine ⟨bodies.flatMap Text.line, hlast.readText, ?_⟩
    rw [Text.lines_flatMap_line hlast.free]
    exact hentries

/-- Two sessions at once, with quotes, backslashes, newlines and controls in what they record. -/
theorem run_reads_back_two_sessions :
    let fs := Files.onlyDir ["work".toList]
    let path := "logs/audit.jsonl".toList
    let place := ["work".toList, "logs".toList, "audit.jsonl".toList]
    let actions : List LogAction := [
      .event 0 (.dispatch "say \"a\\n\"\n".toList (.ok "done".toList) 3),
      .opened "s2".toList id,
      .event 1 (.dispatch "go".toList
        (.error (.remote "\x01\n\x7b\"type\":\"exit\"\x7d\n".toList)) 0),
      .event 0 (.exit "quit".toList 1),
      .event 1 (.dispatch "\u20ac".toList (.error .cancelled) 12)]
    fs.IsDir fs.cwd ∧ (fs.openForAppend path).2 = .ok place ∧ fs.at? place = none ∧
      ∃ text,
        (run path ⟨fs, []⟩ (.opened "s1".toList id :: actions)).files.readText path = .ok text ∧
        (Text.lines text).map LogEntry.ofLine? = [
          some (.dispatch "s1".toList "say \"a\\n\"\n".toList "ok".toList none 3),
          some (.dispatch "s2".toList "go".toList "remote_error".toList
            (some "\x01\n\x7b\"type\":\"exit\"\x7d\n".toList) 0),
          some (.exit "s1".toList "quit".toList 1),
          some (.dispatch "s2".toList "\u20ac".toList "cancelled".toList none 12)] := by
  intro fs path place actions
  have hcwd : fs.IsDir fs.cwd := ⟨_, rfl⟩
  have hplace : (fs.openForAppend path).2 = .ok place := rfl
  have habsent : fs.at? place = none := rfl
  have hopen : fs.openForAppend path = ((fs.openForAppend path).1, .ok place) := by rw [← hplace]
  obtain ⟨-, text, htext, hlines⟩ :=
    run_reads_back hcwd hopen (.inl habsent) "s1".toList id actions
  exact ⟨hcwd, hplace, habsent, text, htext, hlines⟩

end LogBook

end OperatorShell
