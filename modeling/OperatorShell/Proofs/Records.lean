import OperatorShell.Proofs.Entries
import OperatorShell.Proofs.Run

/-!
# What a run leaves in the audit log

The audit file, the count of dispatches and what the operator reads are written at different places
of the loop, and agree: one entry for each line sent, with the outcome that was printed for it, and
one entry for the end.

* `Audited`: what events print, side by side with the entries that they leave.
* `Session.run_audits`: what the file of a log reads as after a run.
-/

namespace OperatorShell

namespace DispatchError

variable {e : DispatchError}

theorem kind_ne_ok (e : DispatchError) : e.kind ≠ "ok".toList := by
  cases e with
  | unavailable => exact (by decide +kernel : "unavailable".toList ≠ "ok".toList)
  | remote details => exact (by decide +kernel : "remote_error".toList ≠ "ok".toList)
  | timeout limit => exact (by decide +kernel : "timeout".toList ≠ "ok".toList)
  | cancelled => exact (by decide +kernel : "cancelled".toList ≠ "ok".toList)

theorem kind_eq_remote_iff : e.kind = "remote_error".toList ↔ ∃ details, e = .remote details := by
  constructor
  · intro hkind
    cases e with
    | unavailable => exact absurd hkind (by decide +kernel :
        "unavailable".toList ≠ "remote_error".toList)
    | remote details => exact ⟨details, rfl⟩
    | timeout limit => exact absurd hkind (by decide +kernel :
        "timeout".toList ≠ "remote_error".toList)
    | cancelled => exact absurd hkind (by decide +kernel :
        "cancelled".toList ≠ "remote_error".toList)
  · rintro ⟨details, rfl⟩
    rfl

end DispatchError

namespace Outcome

variable {outcome : Outcome}

theorem recordName_eq_ok_iff : outcome.recordName = "ok".toList ↔ ∃ reply, outcome = .ok reply := by
  cases outcome with
  | ok reply => exact ⟨fun _ => ⟨reply, rfl⟩, fun _ => rfl⟩
  | error e =>
    refine ⟨fun h => absurd h e.kind_ne_ok, ?_⟩
    rintro ⟨reply, ⟨⟩⟩

theorem recordName_eq_remote_iff :
    outcome.recordName = "remote_error".toList ↔ ∃ details, outcome = .error (.remote details) := by
  cases outcome with
  | ok reply =>
    have hname : "ok".toList ≠ "remote_error".toList := by decide +kernel
    refine ⟨fun h => absurd h hname, ?_⟩
    rintro ⟨details, ⟨⟩⟩
  | error e =>
    simp only [Except.error.injEq]
    exact DispatchError.kind_eq_remote_iff

/-- The details of the agent's own errors. -/
def recordDetail? : Outcome → Option Text
  | .error (.remote details) => some details
  | _ => none

end Outcome

theorem LogEntry.tells_of_dispatch (c : Catalog) (session line : Text) (outcome : Outcome)
    (duration : Nat) :
    Tells session line outcome (WriterCall.outcomeLine c outcome)
      (.of session (.dispatch line outcome duration)) := by
  have hentry : LogEntry.of session (.dispatch line outcome duration) =
      .dispatch session line outcome.recordName outcome.recordDetail? duration := by
    rcases outcome with (_ | _ | _ | _) | reply <;> rfl
  rw [hentry]
  refine .dispatch Outcome.recordName_eq_ok_iff ?_ ?_ ?_
  · rintro e rfl
    rfl
  · rw [Outcome.recordName_eq_remote_iff]
    rcases outcome with (_ | _ | _ | _) | reply <;> simp [Outcome.recordDetail?]
  · rintro details hdetail
    rcases outcome with (_ | _ | _ | _) | reply <;> cases hdetail
    rfl

/-! ## What is printed and what is recorded -/

section

variable {α : Type} [Agent α] {st : Style} {c : Catalog} {session : Text}

/-- In a session with an agent, events that do not end it print a text and leave entries. -/
inductive Audited (st : Style) (c : Catalog) (session : Text) :
    α → List ReadEvent → Text → List LogEntry → Prop where
  | nil {a : α} : Audited st c session a [] [] []
  /-- Only a line that is sent leaves an entry. -/
  | sent {a : α} {line : Text} {events : List ReadEvent} {text : Text} {entry : LogEntry}
      {entries : List LogEntry} (hline : Line.isCommand c line = true)
      (tells : entry.Tells session line (Agent.send a line).outcome
        (WriterCall.outcomeLine c (Agent.send a line).outcome))
      (rest : Audited st c session (Agent.send a line).agent events text entries) :
      Audited st c session a (.line line :: events)
        (WriterCall.outcomeLine c (Agent.send a line).outcome ++ text) (entry :: entries)
  | interrupted {a : α} {events : List ReadEvent} {text : Text} {entries : List LogEntry}
      (rest : Audited st c session a events text entries) :
      Audited st c session a (.interrupted :: events) text entries
  | blank {a : α} {line : Text} {events : List ReadEvent} {text : Text}
      {entries : List LogEntry} (hline : Text.isAllBlank line = true)
      (rest : Audited st c session a events text entries) :
      Audited st c session a (.line line :: events) text entries
  | help {a : α} {line : Text} {events : List ReadEvent} {text : Text}
      {entries : List LogEntry} (hline : Line.isHelp line = true)
      (rest : Audited st c session a events text entries) :
      Audited st c session a (.line line :: events) (WriterCall.listingText st c ++ text) entries
  | unknown {a : α} {line verb : Text} {events : List ReadEvent} {text : Text}
      {entries : List LogEntry} (hline : Line.isUnknown c line = true)
      (hverb : Text.firstWord? line = some verb)
      (rest : Audited st c session a events text entries) :
      Audited st c session a (.line line :: events)
        (unknownLine st verb ++ WriterCall.listingText st c ++ text) entries

theorem Audited.commands {a : α} {events : List ReadEvent} {text : Text}
    {entries : List LogEntry} (h : Audited st c session a events text entries) :
    entries.map LogEntry.command? = (Script.commandsIn c events).map some := by
  induction h with
  | nil => rfl
  | @sent a line events text entry entries hline tells _ ih =>
    have hclass : Input.classify c line = .command line := by
      simpa [Line.isCommand_eq] using hline
    cases tells
    rw [Script.commandsIn_line_cons, if_pos hclass, List.map_cons, List.map_cons, ih]
    rfl
  | interrupted _ ih => exact ih
  | @blank a line events text entries hline _ ih =>
    have hclass : Input.classify c line ≠ .command line := by
      intro hclass
      simp [Line.isAllBlank_eq c, hclass] at hline
    rw [Script.commandsIn_line_cons, if_neg hclass, ih]
  | @help a line events text entries hline _ ih =>
    have hclass : Input.classify c line ≠ .command line := by
      intro hclass
      simp [Line.isHelp_eq c, hclass] at hline
    rw [Script.commandsIn_line_cons, if_neg hclass, ih]
  | @unknown a line verb events text entries hline _ _ ih =>
    have hclass : Input.classify c line ≠ .command line := by
      intro hclass
      simp [Line.isUnknown_eq, hclass] at hline
    rw [Script.commandsIn_line_cons, if_neg hclass, ih]

namespace Session

/-- Turn by turn, what is printed and what is recorded stay side by side. -/
theorem audited_turns {events : List ReadEvent} (hcontinue : ∀ e ∈ events, e.ends = false)
    (stopwatch : Nat → Nat) (k : Nat) (a : α) :
    Audited st c session a events (WriterCall.textOf (callsOfTurns st c (turns c a events)))
      ((dispatchEvents stopwatch k (Agent.exchanges a (Script.commandsIn c events))).map
        (LogEntry.of session)) := by
  -- a line that is sent changes the agent and the count; any other event changes nothing
  induction events generalizing a k with
  | nil => exact .nil
  | cons e rest ih =>
    have hrest : ∀ e ∈ rest, e.ends = false := fun e he => hcontinue e (List.mem_cons_of_mem _ he)
    rw [turns, textOf_callsOfTurns_cons]
    cases e with
    | endOfInput => simpa [ReadEvent.ends] using hcontinue .endOfInput List.mem_cons_self
    | interrupted => exact .interrupted (ih hrest k a)
    | line line =>
      rw [Script.commandsIn_line_cons, turn]
      cases hclass : Input.classify c line with
      | quit =>
        have hquit : Line.isQuit line = false := hcontinue (.line line) List.mem_cons_self
        simp [Line.isQuit_eq c, hclass] at hquit
      | blank =>
        have hline : Text.isAllBlank line = true := by simp [Line.isAllBlank_eq c, hclass]
        exact .blank hline (ih hrest k a)
      | help =>
        have hline : Line.isHelp line = true := by simp [Line.isHelp_eq c, hclass]
        have hne : Input.help ≠ .command line := by simp
        dsimp only
        rw [Turn.calls, WriterCall.textOf_listing, if_neg hne]
        exact .help hline (ih hrest k a)
      | unknown verb =>
        have hline : Line.isUnknown c line = true := by simp [Line.isUnknown_eq, hclass]
        have hne : Input.unknown verb ≠ .command line := by simp
        dsimp only
        rw [Turn.calls, WriterCall.textOf_unknown, if_neg hne]
        exact .unknown hline (Line.firstWord_of_classify_unknown hclass) (ih hrest k a)
      | command command =>
        obtain rfl := Line.eq_of_classify_command hclass
        have hline : Line.isCommand c command = true := by simp [Line.isCommand_eq, hclass]
        dsimp only
        rw [Turn.calls, WriterCall.textOf_lineCalls, if_pos rfl, Agent.exchanges_cons,
          dispatchEvents, List.map_cons]
        exact .sent hline (LogEntry.tells_of_dispatch c session command _ _)
          (ih hrest (k + 1) (Agent.send a command).agent)

/-- The events that the log of a session takes in a run. -/
def auditEvents {ω : Type} [Writer ω] (s : Session α ω) : List AuditEvent :=
  dispatchEvents s.stopwatch s.dispatches (Agent.exchanges s.agent s.commands) ++
    [.exit s.run.1.name (s.dispatches + s.commands.length)]

theorem audit_run {ω : Type} [Writer ω] (s : Session α ω) :
    s.run.2.audit = s.auditEvents.foldl AuditLog.append s.audit := by
  rw [auditEvents, List.foldl_append, run_eq]
  rfl

end Session

end

namespace Session

variable {ω : Type} [Writer ω]

/-- **What a run leaves in the audit log.** A session with a log on a file appends one line for
each line that it sends, in the order in which they are sent, and one for its end. Each of them is
read back as an entry. Each event before the end stands beside what is printed for it, and only a
line that is sent has an entry, which tells its outcome. The last entry counts the others. What the
writer does with the text that it is given has no part in this. -/
theorem run_audits (s : Session ScriptedAgent ω) {text : Text}
    (hfile : s.audit.sink = .file text) :
    ∃ (printed : Text) (entries : List LogEntry) (bodies lines : List Text) (calls : List WriterCall),
      Audited s.display.style s.catalog s.audit.session s.agent (Script.before s.reader.script)
        printed entries ∧
      s.run.2.display.writer = WriterCall.applyAll s.display.writer calls ∧
      WriterCall.textOf calls = printed ++ Text.line exitNotice ∧
      s.run.2.audit.sink = .file (text ++ bodies.flatMap Text.line) ∧
      (∀ body ∈ bodies, '\n' ∉ body) ∧
      bodies.map LogEntry.ofLine? =
        (entries ++
          [LogEntry.exit s.audit.session s.run.1.name (s.dispatches + entries.length)]).map some ∧
      s.run.2.agent.sent = s.agent.sent ++ lines ∧
      entries.map LogEntry.command? = lines.map some ∧
      s.run.2.dispatches = s.dispatches + entries.length := by
  let entries := (dispatchEvents s.stopwatch s.dispatches
    (Agent.exchanges s.agent s.commands)).map (LogEntry.of s.audit.session)
  have haudited : Audited s.display.style s.catalog s.audit.session s.agent
      (Script.before s.reader.script) (WriterCall.textOf s.callsOf) entries := by
    rw [(written_callsOf s).1]
    exact audited_turns (fun e he => Script.continues_of_mem_before he) _ _ _
  have hcommands : entries.map LogEntry.command? = s.commands.map some := haudited.commands
  have hlength : entries.length = s.commands.length := by
    simpa using congrArg List.length hcommands
  obtain ⟨bodies, hsink, hbodies, hread⟩ := AuditLog.sink_foldl_append hfile s.auditEvents
  refine ⟨_, entries, bodies, s.commands, _, haudited, writer_run s, ?_, ?_, hbodies, ?_, ?_,
    hcommands, ?_⟩
  · rw [WriterCall.textOf_append, WriterCall.textOf_lineCalls]
  · rw [audit_run, hsink]
  · rw [hread, auditEvents, List.map_append, hlength]
    rfl
  · rw [agent_run, ScriptedAgent.after_eq]
  · rw [hlength, run_eq]
    rfl

/-- A session with every kind of line and every kind of outcome, and a file that has a line. -/
theorem run_audits_every_kind :
    let s : Session ScriptedAgent Transcript :=
      { agent :=
          { responses := [.output "ok".toList, .remote "no \"go\"".toList, .timeout 500, .cancelled]
            fallback := .unavailable }
        reader :=
          { script := [.line "go 1".toList, .interrupted, .line "go 2".toList, .line " ".toList,
              .line "x y".toList, .line "go\t3".toList, .line "? go".toList, .line "go".toList,
              .line " go 5".toList, .line "quit".toList, .line "go 6".toList] }
        catalog := ⟨[⟨"go".toList, []⟩], "> ".toList⟩
        display := ⟨{}, .plain⟩
        audit := .onFile "{}\n".toList "s1".toList }
    let dispatched (command detail outcome : String) : Text :=
      "\x7b\"command\":".toList ++ command.toList ++ ",\"detail\":".toList ++ detail.toList ++
        ",\"duration_ms\":0,\"outcome\":".toList ++ outcome.toList ++
        ",\"session\":\"s1\",\"ts\":0,\"type\":\"dispatch\"\x7d\n".toList
    let added : Text :=
      dispatched "\"go 1\"" "null" "\"ok\"" ++
      dispatched "\"go 2\"" "\"no \\\"go\\\"\"" "\"remote_error\"" ++
      dispatched "\"go\\t3\"" "null" "\"timeout\"" ++
      dispatched "\"go\"" "null" "\"cancelled\"" ++
      dispatched "\" go 5\"" "null" "\"unavailable\"" ++
      "\x7b\"dispatches\":5,\"reason\":\"quit\",\"session\":\"s1\",\"ts\":0,".toList ++
        "\"type\":\"exit\"\x7d\n".toList
    s.audit.sink = .file "{}\n".toList ∧
      s.run.2.audit.sink = .file ("{}\n".toList ++ added) ∧
      ∃ (printed : Text) (entries : List LogEntry) (bodies : List Text),
        Audited .plain s.catalog "s1".toList s.agent (Script.before s.reader.script)
          printed entries ∧
        s.run.2.display.writer.text = printed ++ Text.line exitNotice ∧
        bodies.flatMap Text.line = added ∧
        bodies.map LogEntry.ofLine? =
          (entries ++ [LogEntry.exit "s1".toList "quit".toList 5]).map some := by
  intro s dispatched added
  obtain ⟨printed, entries, bodies, lines, calls, haudited, hwriter, hprinted, hsink, -, hread, -,
    -, hcount⟩ := run_audits s rfl
  have htext : s.run.2.display.writer.text = printed ++ Text.line exitNotice := by
    rw [hwriter, Transcript.applyAll_eq rfl, hprinted]
    rfl
  have hadded : s.run.2.audit.sink = .file ("{}\n".toList ++ added) := by
    decide +kernel
  have hbodies : bodies.flatMap Text.line = added :=
    List.append_cancel_left (AuditSink.file.inj (hsink.symm.trans hadded))
  have hlength : entries.length = 5 := by
    have hdispatches : s.run.2.dispatches = 5 := by decide +kernel
    rw [hcount] at hdispatches
    exact (Nat.zero_add _).symm.trans hdispatches
  have hreason : s.run.1 = .quit := by decide +kernel
  rw [hreason, hlength] at hread
  exact ⟨rfl, hadded, printed, entries, bodies, haudited, htext, hbodies, hread⟩

end Session

end OperatorShell
