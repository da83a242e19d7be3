import OperatorShell.Proofs.Course

/-!
# What a run of a session does

A run is the loop and its end. Its course is known, so what it sends, prints, and leaves of its
reader can be said in full, for every script and every catalog.

* `run_sends_commands`: what is sent to a scripted agent, and which response answers it.
* `run_prints`: the text of a transcript, and how often it is flushed.
* `run_accounts_for_script`: the reason, the prompts, the history and the events left over.
-/

namespace OperatorShell

namespace Session

variable {α ω : Type} [Agent α] [Writer ω]

theorem run_eq (s : Session α ω) :
    s.run = (Script.exit s.reader.script, s.course.finish (Script.exit s.reader.script)) := by
  rw [run, serve_eq]

theorem agent_run (s : Session α ω) : s.run.2.agent = Agent.after s.agent s.commands := by
  rw [run_eq]
  rfl

/-! ## What is sent -/

/-- The session with its agent tapped. -/
def tapped (s : Session α ω) : Session (Tapped α) ω := { s with agent := ⟨s.agent, []⟩ }

theorem tapped_run (s : Session α ω) :
    s.tapped.run.2.agent = ⟨s.run.2.agent, Agent.exchanges s.agent s.commands⟩ := by
  have htapped : s.tapped.run.2.agent = Agent.after ⟨s.agent, []⟩ s.commands :=
    agent_run s.tapped
  rw [htapped, Tapped.after_eq, agent_run, List.nil_append]

/-- **What a session sends.** The loop ends by itself. Up to the first event that ends it, the lines
that start with a verb of the catalog that is not reserved are sent as they were typed, in order,
and nothing else is; each counts as one dispatch. A tap on the agent shows that the k-th of them is
answered by the k-th response, or by the fallback once the responses are used up. -/
theorem run_sends_commands (s : Session ScriptedAgent ω) :
    (∃ reason t, s.Ends reason t ∧ s.run = (reason, t.finish reason)) ∧
      s.run.2.agent.sent = s.agent.sent ++ s.commands ∧
      s.run.2.dispatches = s.dispatches + s.commands.length ∧
      s.run.2.agent.responses = s.agent.responses.drop s.commands.length ∧
      s.tapped.run.2.agent =
        ⟨s.run.2.agent,
          s.commands.mapIdx fun k line => (line, (s.agent.responseTo k).resolve line)⟩ := by
  have hagent : s.run.2.agent = Agent.after s.agent s.commands := by rw [run_eq]; rfl
  have htapped : s.tapped.run.2.agent = Agent.after ⟨s.agent, []⟩ s.commands := by rw [run_eq]; rfl
  refine ⟨⟨_, _, s.ends_serve, rfl⟩, ?_, ?_, ?_, ?_⟩
  · rw [hagent, ScriptedAgent.after_eq]
  · rw [run_eq]
    rfl
  · rw [hagent, ScriptedAgent.after_eq]
  · rw [htapped, hagent, Tapped.after_eq, ScriptedAgent.exchanges_eq, List.nil_append]

/-! ## What is printed -/

/-- What is printed for a line that does not end the session, where `outcome` is what comes back if
the line is sent. -/
def lineText (st : Style) (c : Catalog) (outcome : Outcome) (line : Text) : Text :=
  match Text.firstWord? line with
  | none => []
  | some verb =>
    if ["help".toList, "h".toList, "?".toList].contains verb then WriterCall.listingText st c
    else if c.verbs.contains verb then WriterCall.outcomeLine c outcome
    else unknownLine st verb ++ WriterCall.listingText st c

/-- What is printed for lines that come after `k` commands, where `answer` gives the outcome of a
command by the number of commands before it. -/
def printed (st : Style) (c : Catalog) (answer : Nat → Text → Outcome) : Nat → List Text → Text
  | _, [] => []
  | k, line :: rest =>
    lineText st c (answer k line) line ++
      printed st c answer (if Line.isCommand c line then k + 1 else k) rest

variable {st : Style} {c : Catalog}

/-- The calls of the writer in turns, without the prompts. -/
def callsOfTurns (st : Style) (c : Catalog) (turns : List Turn) : List WriterCall :=
  turns.flatMap fun t => t.calls st c

theorem textOf_callsOfTurns_cons (t : Turn) (turns : List Turn) :
    WriterCall.textOf (callsOfTurns st c (t :: turns)) =
      WriterCall.textOf (t.calls st c) ++ WriterCall.textOf (callsOfTurns st c turns) := by
  rw [callsOfTurns, List.flatMap_cons, WriterCall.textOf_append, ← callsOfTurns]

theorem textOf_turn {a : α} {line : Text} (h : Line.isQuit line = false) :
    WriterCall.textOf ((turn c a (.line line)).1.calls st c) =
      lineText st c (Agent.send a line).outcome line := by
  rw [lineText, turn]
  cases hword : Text.firstWord? line with
  | none => rw [Line.classify_of_allBlank c hword]; rfl
  | some verb =>
    have hquit : ¬quitWords.contains verb = true := by
      rw [← Line.isQuit_of_firstWord hword, h]
      exact Bool.false_ne_true
    rw [Line.classify_of_firstWord c hword, if_neg hquit, c.contains_eq, helpWords]
    dsimp only
    split_ifs <;> simp [Turn.calls]

theorem responseTo_turn (a : ScriptedAgent) (line : Text) (i : Nat) :
    (turn c a (.line line)).2.responseTo i =
      a.responseTo (if Line.isCommand c line then i + 1 else i) := by
  rw [turn_snd, Script.commandsIn_line]
  split_ifs
  · exact (a.responseTo_succ line i).symm
  · rfl

/-- Turns that start after `k` commands print what the lines of their events are to print, if the
agent answers the next commands as `answer` says of those from the k-th on. -/
theorem textOf_callsOfTurns {answer : Nat → Text → Outcome} {events : List ReadEvent}
    {a : ScriptedAgent} {k : Nat} (hcontinue : ∀ e ∈ events, e.ends = false)
    (hanswer : ∀ i line, answer (k + i) line = (a.responseTo i).resolve line) :
    WriterCall.textOf (callsOfTurns st c (turns c a events)) =
      printed st c answer k (Script.lines events) := by
  -- the agent and the number of commands change with every command, and stay in step
  induction events generalizing a k with
  | nil => rfl
  | cons e rest ih =>
    have hrest : ∀ e ∈ rest, e.ends = false := fun e he => hcontinue e (List.mem_cons_of_mem _ he)
    rw [turns, textOf_callsOfTurns_cons]
    cases e with
    | endOfInput => simpa [ReadEvent.ends] using hcontinue .endOfInput List.mem_cons_self
    | interrupted => exact ih hrest hanswer
    | line text =>
      have houtcome : answer k text = (Agent.send a text).outcome := by
        rw [show Agent.send a text = a.send text from rfl, ScriptedAgent.send, ← a.responseTo_zero]
        exact hanswer 0 text
      have hnext : ∀ i line, answer ((if Line.isCommand c text then k + 1 else k) + i) line =
          ((turn c a (.line text)).2.responseTo i).resolve line := by
        intro i line
        rw [responseTo_turn, ← hanswer]
        split_ifs
        · rw [Nat.add_assoc, Nat.add_comm 1]
        · rfl
      rw [Script.lines_line, printed, textOf_turn (hcontinue (.line text) List.mem_cons_self),
        houtcome, ih hrest hnext]

theorem flushesOf_turn {a : α} {line : Text} :
    WriterCall.flushesOf ((turn c a (.line line)).1.calls st c) =
      (if Line.isHelp line then 1 else 0) + (if Line.isUnknown c line then 1 else 0) +
        (if Line.isCommand c line then 1 else 0) := by
  rw [turn, Line.isHelp_eq c, Line.isUnknown_eq, Line.isCommand_eq]
  cases hclass : Input.classify c line with
  | command command =>
    obtain rfl := Line.eq_of_classify_command hclass
    simp [Turn.calls]
  | blank | help | quit | unknown => simp [Turn.calls]

theorem flushesOf_callsOfTurns (a : α) (events : List ReadEvent) :
    WriterCall.flushesOf (callsOfTurns st c (turns c a events)) =
      (Script.lines events).countP Line.isHelp + (Script.lines events).countP (Line.isUnknown c) +
        (Script.lines events).countP (Line.isCommand c) := by
  induction events generalizing a with
  | nil => rfl
  | cons e rest ih =>
    rw [turns, callsOfTurns, List.flatMap_cons, WriterCall.flushesOf_append, ← callsOfTurns, ih]
    cases e with
    | endOfInput | interrupted => simp [turn, Turn.calls]
    | line text =>
      rw [flushesOf_turn, Script.lines_line, List.countP_cons, List.countP_cons, List.countP_cons]
      omega

omit [Writer ω] in
theorem written_callsOf (s : Session α ω) :
    WriterCall.textOf s.callsOf =
        WriterCall.textOf (callsOfTurns s.display.style s.catalog s.turnsBefore) ∧
      WriterCall.flushesOf s.callsOf =
        WriterCall.flushesOf (callsOfTurns s.display.style s.catalog s.turnsBefore) := by
  rw [callsOf, callsOfTurns]
  induction s.turnsBefore with
  | nil => exact ⟨rfl, rfl⟩
  | cons t turns ih => simpa [WriterCall.text] using ih

/-- The display after a run: the loop, and the notice. -/
theorem display_run (s : Session α ω) :
    s.run.2.display =
      s.display.call (s.callsOf ++ WriterCall.lineCalls (Text.line exitNotice)) := by
  rw [run_eq]
  simp [finish, note, course, Display.emitExit_eq]

theorem writer_run (s : Session α ω) :
    s.run.2.display.writer = WriterCall.applyAll s.display.writer
      (s.callsOf ++ WriterCall.lineCalls (Text.line exitNotice)) := by
  rw [display_run, Display.writer_call]

/-- **What a session prints.** To a writer that works, a run writes what is to be printed for each
line before the event that ends it, with the k-th command answered by the k-th response, and then
one notice. It flushes once for each line that asks for help, is refused or is sent, and once for
the notice. -/
theorem run_prints (s : Session ScriptedAgent Transcript)
    (working : s.display.writer.broken = false) :
    let lines := Script.lines (Script.before s.reader.script)
    let answer := fun k line => (s.agent.responseTo k).resolve line
    s.run.2.display.writer.text =
        s.display.writer.text ++ printed s.display.style s.catalog answer 0 lines ++
          Text.line exitNotice ∧
      s.run.2.display.writer.flushes =
        s.display.writer.flushes +
          (lines.countP Line.isHelp + lines.countP (Line.isUnknown s.catalog) +
            lines.countP (Line.isCommand s.catalog)) + 1 := by
  intro lines answer
  have htext : WriterCall.textOf s.callsOf =
      printed s.display.style s.catalog answer 0 lines := by
    rw [(written_callsOf s).1]
    refine textOf_callsOfTurns (fun e he => Script.continues_of_mem_before he) fun i line => ?_
    rw [Nat.zero_add]
  have hflushes : WriterCall.flushesOf s.callsOf =
      lines.countP Line.isHelp + lines.countP (Line.isUnknown s.catalog) +
        lines.countP (Line.isCommand s.catalog) := by
    rw [(written_callsOf s).2]
    exact flushesOf_callsOfTurns s.agent _
  rw [writer_run, Transcript.applyAll_eq working, WriterCall.textOf_append, htext,
    WriterCall.flushesOf_append, hflushes]
  constructor
  · simp
  · simp [Nat.add_assoc]

/-- A run with every kind of line, stopped before the end of its script: a timeout, an interrupt, a
blank line, an unknown verb, a request for help, a reply, and a repeated command. -/
theorem run_prints_every_kind :
    let s : Session ScriptedAgent Transcript :=
      { agent := { responses := [.timeout 500, .output "ok".toList] }
        reader :=
          { script := [.line "go 1".toList, .interrupted, .line " ".toList, .line "x y".toList,
              .line "? go".toList, .line " go 2".toList, .line "go\t3".toList, .line "quit".toList,
              .line "go 4".toList] }
        catalog := ⟨[⟨"go".toList, []⟩], "> ".toList⟩
        display := ⟨{}, .plain⟩ }
    s.display.writer.broken = false ∧
      s.run.2.display.writer.text =
        ("JP4Agent did not respond within 500 ms.\n" ++
          "Invalid command: x\nAvailable commands:\n  go\n" ++
          "Available commands:\n  go\n" ++ "> ok\n" ++ "> Output for go\t3\n" ++
          "Exiting JP4Agent CLI.\n").toList ∧
      s.run.2.display.writer.flushes = 6 := by
  intro s
  obtain ⟨htext, hflushes⟩ := run_prints s rfl
  exact ⟨rfl, htext.trans (by decide +kernel), hflushes.trans (by decide)⟩

/-! ## What is left of the reader -/

/-- How a run over the script of one reader accounts for it: the reason of its end, and the reader
that is left. -/
structure Accounted (before : Reader) (reason : ExitReason) (after : Reader) : Prop where
  quit : reason = .quit ↔ Script.Quits before.script
  endOfInput : reason = .endOfInput ↔ ¬Script.Quits before.script
  /-- A prompt for each event taken, and one more if the script ran out. -/
  prompts : after.prompts =
    before.prompts + (Script.taken before.script).length +
      if Script.runsOut before.script then 1 else 0
  /-- The lines taken that are not blank all over, as they were typed. -/
  history : after.history =
    before.history ++
      (Script.lines (Script.taken before.script)).filter fun line =>
        line.any fun c => !Text.isBlank c
  /-- The events not taken are those after the last one taken. -/
  rest : Script.taken before.script ++ after.script = before.script

theorem accounted_run (s : Session α ω) : Accounted s.reader s.run.1 s.run.2.reader := by
  rw [run_eq]
  have hreader : (s.course.finish (Script.exit s.reader.script)).reader = readerAfter s.reader :=
    rfl
  rw [hreader]
  refine ⟨Script.exit_eq_quit_iff, Script.exit_eq_endOfInput_iff, ?_, rfl, ?_⟩
  · rw [readerAfter, Nat.add_assoc, Script.length_taken]
  · exact Script.taken_append_unread _

/-- **What a session leaves of its script.** One place in the script decides the reason of the end,
the prompts, the history and the events left over; a second run of the same session accounts in the
same way for the events that the first one left. -/
theorem run_accounts_for_script (s : Session α ω) :
    Accounted s.reader s.run.1 s.run.2.reader ∧
      Accounted { s.run.2.reader with script := Script.unread s.reader.script }
        s.run.2.run.1 s.run.2.run.2.reader := by
  have hscript : s.run.2.reader.script = Script.unread s.reader.script := by rw [run_eq]; rfl
  refine ⟨accounted_run s, ?_⟩
  rw [← hscript]
  exact accounted_run s.run.2

end Session

end OperatorShell
