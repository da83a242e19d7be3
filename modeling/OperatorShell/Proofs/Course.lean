import OperatorShell.Proofs.Exchange
import OperatorShell.Proofs.Printing
import OperatorShell.Proofs.Script

/-!
# The course of a session

The loop of a session is bounded by the length of its script, and does not need the bound. Where it
ends, and in what state, can be read off the script, the catalog and the agent.

* `Session.step`, `Session.Ends`: one turn of the loop, and the loop without a bound.
* `Turn`, `Session.turns`: what the turns before the last one do.
* `Session.course`: the session after the loop.
* `serve_eq`, `ends_serve`: the loop ends, for the reason that the script gives, in this state.
-/

namespace OperatorShell

/-! ## Turns -/

/-- What a turn does besides taking its event. -/
inductive Turn where
  /-- Nothing: an interrupt, or a blank line. -/
  | idle
  | listed
  | refused (verb : Text)
  | sent (outcome : Outcome) (notes : List Diagnostic)

namespace Turn

/-- The calls of the writer in a turn, in the style of the display. -/
def calls (s : Style) (c : Catalog) : Turn → List WriterCall
  | idle => []
  | listed => WriterCall.listing s c
  | refused verb => WriterCall.unknown s c verb
  | sent outcome _ => WriterCall.lineCalls (WriterCall.outcomeLine c outcome)

/-- What is noted in a turn. -/
def notes : Turn → List Diagnostic
  | idle | listed => []
  | refused verb => [.rejectedVerb verb]
  | sent _ notes => notes

end Turn

namespace Session

variable {α ω : Type} [Agent α] [Writer ω]

/-- The turn that an event leads to, and the agent after it. -/
def turn (c : Catalog) (a : α) : ReadEvent → Turn × α
  | .line text =>
    match Input.classify c text with
    | .blank | .quit => (.idle, a)
    | .help => (.listed, a)
    | .unknown verb => (.refused verb, a)
    | .command line => (.sent (Agent.send a line).outcome (Agent.send a line).diagnostics,
        (Agent.send a line).agent)
  | .interrupted | .endOfInput => (.idle, a)

/-- The turns that events lead to, one after another. -/
def turns (c : Catalog) (a : α) : List ReadEvent → List Turn
  | [] => []
  | e :: rest => (turn c a e).1 :: turns c (turn c a e).2 rest

/-! ## The loop without a bound -/

/-- One turn of the loop: awaits an event and handles it. -/
def step (s : Session α ω) : Option ExitReason × Session α ω :=
  s.awaitEvent.2.handleEvent s.awaitEvent.1

/-- Turn after turn, a session ends for a reason and in a state. -/
inductive Ends : Session α ω → ExitReason → Session α ω → Prop where
  | now {s t : Session α ω} {reason : ExitReason} (h : s.step = (some reason, t)) : Ends s reason t
  | later {s t u : Session α ω} {reason : ExitReason} (h : s.step = (none, t))
      (rest : Ends t reason u) : Ends s reason u

/-! ## The state after the loop -/

/-- The audit events of exchanges, of which the first is the dispatch after `k` others. -/
def dispatchEvents (stopwatch : Nat → Nat) (k : Nat) : List (Text × Outcome) → List AuditEvent
  | [] => []
  | (line, outcome) :: rest =>
    .dispatch line outcome (stopwatch k) :: dispatchEvents stopwatch (k + 1) rest

/-- The commands that a session is to send. -/
def commands (s : Session α ω) : List Text := Script.commands s.catalog s.reader.script

/-- The turns of a session before the one that ends it. -/
def turnsBefore (s : Session α ω) : List Turn :=
  turns s.catalog s.agent (Script.before s.reader.script)

/-- The reader after the loop. -/
def readerAfter (r : Reader) : Reader where
  script := Script.unread r.script
  history := r.history ++ Script.recalled r.script
  prompts := r.prompts + (Script.stop r.script + 1)

/-- The calls of the writer during the loop: a prompt for each event, and what the turns print. -/
def callsOf (s : Session α ω) : List WriterCall :=
  s.turnsBefore.flatMap (fun t => .prompt s.prompt :: t.calls s.display.style s.catalog) ++
    [.prompt s.prompt]

/-- The session after the loop. -/
def course (s : Session α ω) : Session α ω where
  agent := Agent.after s.agent s.commands
  reader := readerAfter s.reader
  catalog := s.catalog
  display := s.display.call s.callsOf
  prompt := s.prompt
  awaiting := s.awaiting
  audit := (dispatchEvents s.stopwatch s.dispatches (Agent.exchanges s.agent s.commands)).foldl
    AuditLog.append s.audit
  stopwatch := s.stopwatch
  dispatches := s.dispatches + s.commands.length
  diagnostics :=
    s.diagnostics ++ s.turnsBefore.flatMap (fun t => s.awaiting ++ t.notes) ++ s.awaiting

/-! ## One turn -/

theorem step_eq (s : Session α ω) :
    s.step = s.awaitEvent.2.handleEvent (s.reader.script.headD .endOfInput) := rfl

omit [Agent α] in
theorem awaitEvent_snd (s : Session α ω) :
    s.awaitEvent.2 =
      { s with
        reader := ⟨s.reader.script.tail, s.reader.history, s.reader.prompts + 1⟩
        display := s.display.call [.prompt s.prompt]
        diagnostics := s.diagnostics ++ s.awaiting } := rfl

theorem showOutcome_eq (c : Catalog) (d : Display ω) (outcome : Outcome) :
    showOutcome c d outcome = d.call (WriterCall.lineCalls (WriterCall.outcomeLine c outcome)) := by
  cases outcome <;> rfl

/-- The session after a turn that does not end it. -/
def afterTurn (s : Session α ω) (e : ReadEvent) : Session α ω :=
  let sent := Script.commandsIn s.catalog [e]
  let turn := (turn s.catalog s.agent e).1
  { s with
    agent := Agent.after s.agent sent
    reader :=
      { script := s.reader.script.tail
        history := s.reader.history ++ Script.recalledIn [e]
        prompts := s.reader.prompts + 1 }
    display := s.display.call (.prompt s.prompt :: turn.calls s.display.style s.catalog)
    audit := (dispatchEvents s.stopwatch s.dispatches (Agent.exchanges s.agent sent)).foldl
      AuditLog.append s.audit
    dispatches := s.dispatches + sent.length
    diagnostics := s.diagnostics ++ (s.awaiting ++ turn.notes) }

variable {s : Session α ω} {e : ReadEvent} {rest : List ReadEvent}

theorem step_of_continues (h : s.reader.script = e :: rest) (he : e.ends = false) :
    s.step = (none, s.afterTurn e) := by
  rw [step_eq, awaitEvent_snd, h, List.headD_cons, afterTurn]
  cases e with
  | endOfInput => simp [ReadEvent.ends] at he
  | interrupted => simp [handleEvent, turn, Turn.calls, Turn.notes, dispatchEvents, h]
  | line text =>
    rw [Script.commandsIn_line, Script.recalledIn_line, Line.isCommand_eq,
      Line.any_not_isBlank_eq s.catalog, handleEvent, handleLine, turn]
    cases hclass : Input.classify s.catalog text with
    | quit => simp [ReadEvent.ends, Line.isQuit_eq s.catalog, hclass] at he
    | blank => simp [Turn.calls, Turn.notes, dispatchEvents, h]
    | help =>
      simp [Turn.calls, Turn.notes, dispatchEvents, h, remember, Reader.remember,
        Display.emitListing_eq]
    | unknown verb =>
      simp [Turn.calls, Turn.notes, dispatchEvents, h, remember, Reader.remember, note,
        Display.emitUnknown_eq]
    | command line =>
      obtain rfl := Line.eq_of_classify_command hclass
      simp [Turn.calls, Turn.notes, dispatchEvents, h, remember, Reader.remember, dispatch,
        showOutcome_eq]

theorem course_of_stop_eq_zero (h : Script.stop s.reader.script = 0) :
    s.course =
      { s.awaitEvent.2 with
        reader := ⟨s.reader.script.tail, s.reader.history ++ Script.recalled s.reader.script,
          s.reader.prompts + 1⟩ } := by
  have hbefore : Script.before s.reader.script = [] := by rw [Script.before, h, List.take_zero]
  have hunread : Script.unread s.reader.script = s.reader.script.tail := by
    rw [Script.unread, h, List.drop_one]
  simp [course, commands, Script.commands, turnsBefore, turns, readerAfter, callsOf, dispatchEvents,
    awaitEvent_snd, hbefore, hunread, h]

theorem step_of_nil (h : s.reader.script = []) :
    s.step = (some (Script.exit s.reader.script), s.course) := by
  rw [course_of_stop_eq_zero (by rw [h, Script.stop_nil]), step_eq, h]
  simp [handleEvent, Script.exit, Script.recalled, Script.recalledIn, Script.taken,
    awaitEvent_snd, h]

theorem step_of_ends (h : s.reader.script = e :: rest) (he : e.ends = true) :
    s.step = (some (Script.exit s.reader.script), s.course) := by
  have hstop : Script.stop (e :: rest) = 0 := Script.stop_cons_of_ends he
  rw [course_of_stop_eq_zero (by rw [h, hstop]), step_eq, h, List.headD_cons,
    Script.recalled_cons_of_ends he, Script.exit, hstop]
  cases e with
  | interrupted => simp [ReadEvent.ends] at he
  | endOfInput => simp [handleEvent, awaitEvent_snd, h]
  | line text =>
    have hclass : Input.classify s.catalog text = .quit := by
      simpa [ReadEvent.ends, Line.isQuit_eq s.catalog] using he
    rw [Script.recalledIn_line, Line.any_not_isBlank_eq s.catalog]
    simp [handleEvent, handleLine, awaitEvent_snd, remember, Reader.remember, h, hclass]

/-! ## The whole loop -/

theorem turn_snd (c : Catalog) (a : α) (e : ReadEvent) :
    (turn c a e).2 = Agent.after a (Script.commandsIn c [e]) := by
  cases e with
  | interrupted | endOfInput => rfl
  | line text =>
    rw [Script.commandsIn_line, Line.isCommand_eq, turn]
    cases hclass : Input.classify c text with
    | command line =>
      obtain rfl := Line.eq_of_classify_command hclass
      simp
    | blank | help | quit | unknown => simp

theorem dispatchEvents_append (stopwatch : Nat → Nat) (k : Nat)
    (exchanges exchanges' : List (Text × Outcome)) :
    dispatchEvents stopwatch k (exchanges ++ exchanges') =
      dispatchEvents stopwatch k exchanges ++
        dispatchEvents stopwatch (k + exchanges.length) exchanges' := by
  induction exchanges generalizing k with
  | nil => rfl
  | cons exchange exchanges ih =>
    obtain ⟨line, outcome⟩ := exchange
    simp [dispatchEvents, ih, Nat.add_assoc, Nat.add_comm 1]

theorem course_afterTurn (h : s.reader.script = e :: rest) (he : e.ends = false) :
    (s.afterTurn e).course = s.course := by
  have hscript : (s.afterTurn e).reader.script = rest := by simp [afterTurn, h]
  have hcommands : s.commands = Script.commandsIn s.catalog [e] ++ (s.afterTurn e).commands := by
    rw [commands, commands, h, hscript, Script.commands_cons_of_continues _ he]
    rfl
  have hturns : s.turnsBefore = (turn s.catalog s.agent e).1 :: (s.afterTurn e).turnsBefore := by
    rw [turnsBefore, turnsBefore, h, hscript, Script.before_cons_of_continues he, turns, turn_snd]
    rfl
  have hcalls : s.callsOf =
      .prompt s.prompt :: (turn s.catalog s.agent e).1.calls s.display.style s.catalog ++
        (s.afterTurn e).callsOf := by
    rw [callsOf, callsOf, hturns]
    simp [afterTurn]
  rw [course, course, hcommands, hturns, hcalls]
  simp [afterTurn, readerAfter, h, Agent.after_append, Agent.exchanges_append,
    dispatchEvents_append, Agent.length_exchanges, Script.unread_cons_of_continues he,
    Script.stop_cons_of_continues he, Script.recalled_cons_of_continues he, Nat.add_assoc,
    Nat.add_comm 1]

theorem serveUpTo_succ (n : Nat) (s : Session α ω) :
    serveUpTo (n + 1) s =
      match s.step with
      | (some reason, t) => (reason, t)
      | (none, t) => serveUpTo n t := rfl

theorem serveUpTo_eq {n : Nat} (h : s.reader.script.length < n) :
    serveUpTo n s = (Script.exit s.reader.script, s.course) := by
  -- a turn that does not end the session leaves a shorter script, so the bound is never reached
  induction n generalizing s with
  | zero => exact absurd h (Nat.not_lt_zero _)
  | succ n ih =>
    rw [serveUpTo_succ]
    cases hscript : s.reader.script with
    | nil => rw [step_of_nil hscript, hscript]
    | cons e rest =>
      cases he : e.ends with
      | true => rw [step_of_ends hscript he, hscript]
      | false =>
        have hrest : (s.afterTurn e).reader.script = rest := by simp [afterTurn, hscript]
        have hlt : (s.afterTurn e).reader.script.length < n := by
          rw [hscript, List.length_cons] at h
          rw [hrest]
          omega
        rw [step_of_continues hscript he, Script.exit_cons_of_continues he]
        exact (ih hlt).trans (by rw [hrest, course_afterTurn hscript he])

/-- The loop gives the reason that the script gives, and leaves the session at the end of its
course. -/
theorem serve_eq (s : Session α ω) : s.serve = (Script.exit s.reader.script, s.course) :=
  serveUpTo_eq (Nat.lt_succ_self _)

/-- The loop needs no bound: turn after turn, it ends by itself in the state that `serve` gives. -/
theorem ends_serve (s : Session α ω) : s.Ends s.serve.1 s.serve.2 := by
  rw [serve_eq]
  generalize hscript : s.reader.script = script
  induction script generalizing s with
  | nil => exact .now (hscript ▸ step_of_nil hscript)
  | cons e rest ih =>
    cases he : e.ends with
    | true => exact .now (hscript ▸ step_of_ends hscript he)
    | false =>
      have hrest : (s.afterTurn e).reader.script = rest := by simp [afterTurn, hscript]
      have hends := ih (s.afterTurn e) hrest
      rw [course_afterTurn hscript he] at hends
      rw [Script.exit_cons_of_continues he]
      exact .later (step_of_continues hscript he) hends

end Session

end OperatorShell
