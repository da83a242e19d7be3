import OperatorShell.Proofs.Routing
import OperatorShell.Session

/-!
# How far a session reads its script

A session stops at the first event that ends it: the end of the input, or a line that quits. All
that a script decides by itself is a matter of this place.

* `Script.stop`: the place of that event, or the length of a script without one.
* `Script.before`, `Script.taken`, `Script.unread`: the events before it, those up to it, and those
  after it.
* `Script.commands`, `Script.recalled`, `Script.exit`: the lines that are sent, the lines that the
  history keeps, and why the session ends.
* `exit_eq_quit_iff`: a session quits exactly when a line that quits comes before every end of the
  input.
-/

namespace OperatorShell

namespace ReadEvent

/-- The line of an event, if it brings one. -/
def line? : ReadEvent → Option Text
  | line text => some text
  | interrupted | endOfInput => none

/-- Whether an event ends a session. -/
def ends : ReadEvent → Bool
  | line text => Line.isQuit text
  | interrupted => false
  | endOfInput => true

end ReadEvent

namespace Script

/-- The place of the first event that ends a session. -/
def stop (script : List ReadEvent) : Nat := script.findIdx ReadEvent.ends

/-- The events before the one that ends the session. -/
def before (script : List ReadEvent) : List ReadEvent := script.take (stop script)

/-- The events that a session takes, with the one that ends it. -/
def taken (script : List ReadEvent) : List ReadEvent := script.take (stop script + 1)

/-- The events that a session leaves. -/
def unread (script : List ReadEvent) : List ReadEvent := script.drop (stop script + 1)

/-- Whether no event ends the session, so that only the end of the script does. -/
def runsOut (script : List ReadEvent) : Bool := script.all fun e => !e.ends

/-- The lines among events, as they were typed. -/
def lines (events : List ReadEvent) : List Text := events.filterMap ReadEvent.line?

/-- The lines among events that start with a command of the catalog. -/
def commandsIn (c : Catalog) (events : List ReadEvent) : List Text :=
  (lines events).filter (Line.isCommand c)

/-- The lines among events that are not blank all over. -/
def recalledIn (events : List ReadEvent) : List Text :=
  (lines events).filter fun line => line.any fun c => !Text.isBlank c

/-- The lines that a session over a catalog sends to the agent. -/
def commands (c : Catalog) (script : List ReadEvent) : List Text := commandsIn c (before script)

/-- The lines that a session adds to the history. -/
def recalled (script : List ReadEvent) : List Text := recalledIn (taken script)

/-- Why a session ends. -/
def exit (script : List ReadEvent) : ExitReason :=
  match script[stop script]? with
  | some (.line _) => .quit
  | _ => .endOfInput

/-- A line that quits comes before every end of the input. -/
def Quits (script : List ReadEvent) : Prop :=
  ∃ events line rest, script = events ++ .line line :: rest ∧ Line.isQuit line = true ∧
    ReadEvent.endOfInput ∉ events

/-! ## The stopping place, event by event -/

variable {e : ReadEvent} {rest script : List ReadEvent}

@[simp] theorem stop_nil : stop [] = 0 := rfl

theorem stop_cons_of_ends (h : e.ends = true) : stop (e :: rest) = 0 := by
  rw [stop, List.findIdx_cons, h, cond_true]

theorem stop_cons_of_continues (h : e.ends = false) : stop (e :: rest) = stop rest + 1 := by
  rw [stop, List.findIdx_cons, h, cond_false]
  rfl

theorem before_cons_of_continues (h : e.ends = false) : before (e :: rest) = e :: before rest := by
  rw [before, stop_cons_of_continues h, List.take_succ_cons, before]

theorem taken_cons_of_ends (h : e.ends = true) : taken (e :: rest) = [e] := by
  rw [taken, stop_cons_of_ends h, List.take_succ_cons, List.take_zero]

theorem taken_cons_of_continues (h : e.ends = false) : taken (e :: rest) = e :: taken rest := by
  rw [taken, stop_cons_of_continues h, List.take_succ_cons, taken]

theorem unread_cons_of_continues (h : e.ends = false) : unread (e :: rest) = unread rest := by
  rw [unread, stop_cons_of_continues h, List.drop_succ_cons, unread]

@[simp] theorem lines_nil : lines [] = [] := rfl

@[simp] theorem lines_line (text : Text) (events : List ReadEvent) :
    lines (.line text :: events) = text :: lines events := rfl

@[simp] theorem lines_interrupted (events : List ReadEvent) :
    lines (.interrupted :: events) = lines events := rfl

@[simp] theorem lines_endOfInput (events : List ReadEvent) :
    lines (.endOfInput :: events) = lines events := rfl

theorem lines_cons (e : ReadEvent) (events : List ReadEvent) :
    lines (e :: events) = lines [e] ++ lines events := by
  cases e <;> rfl

@[simp] theorem commandsIn_nil (c : Catalog) : commandsIn c [] = [] := rfl

theorem commandsIn_line (c : Catalog) (text : Text) :
    commandsIn c [.line text] = if Line.isCommand c text then [text] else [] := by
  rw [commandsIn, lines_line, List.filter_cons, lines_nil, List.filter_nil]

theorem recalledIn_line (text : Text) :
    recalledIn [.line text] = if text.any fun c => !Text.isBlank c then [text] else [] := by
  rw [recalledIn, lines_line, List.filter_cons, lines_nil, List.filter_nil]

@[simp] theorem commandsIn_interrupted (c : Catalog) : commandsIn c [.interrupted] = [] := rfl

@[simp] theorem recalledIn_interrupted : recalledIn [.interrupted] = [] := rfl

@[simp] theorem recalledIn_endOfInput : recalledIn [.endOfInput] = [] := rfl

theorem commandsIn_cons (c : Catalog) (e : ReadEvent) (events : List ReadEvent) :
    commandsIn c (e :: events) = commandsIn c [e] ++ commandsIn c events := by
  rw [commandsIn, lines_cons, List.filter_append]
  rfl

theorem commandsIn_line_cons (c : Catalog) (line : Text) (events : List ReadEvent) :
    commandsIn c (.line line :: events) =
      if Input.classify c line = .command line then line :: commandsIn c events
      else commandsIn c events := by
  rw [commandsIn_cons, commandsIn_line, Line.isCommand_eq]
  simp only [decide_eq_true_iff]
  split_ifs <;> rfl

theorem commands_cons_of_continues (c : Catalog) (h : e.ends = false) :
    commands c (e :: rest) = commandsIn c [e] ++ commands c rest := by
  rw [commands, before_cons_of_continues h, commandsIn_cons, commands]

theorem recalled_cons_of_ends (h : e.ends = true) : recalled (e :: rest) = recalledIn [e] := by
  rw [recalled, taken_cons_of_ends h]

theorem recalled_cons_of_continues (h : e.ends = false) :
    recalled (e :: rest) = recalledIn [e] ++ recalled rest := by
  rw [recalled, taken_cons_of_continues h, recalledIn, lines_cons, List.filter_append]
  rfl

theorem stop_le_length (script : List ReadEvent) : stop script ≤ script.length :=
  List.findIdx_le_length

theorem stop_eq_length_iff : stop script = script.length ↔ runsOut script = true := by
  simp [stop, runsOut, List.findIdx_eq_length]

/-- A session takes every event up to its end and, in place of an event past the end of the script,
the end of the input. -/
theorem length_taken (script : List ReadEvent) :
    (taken script).length + (if runsOut script then 1 else 0) = stop script + 1 := by
  have hle := stop_le_length script
  rw [taken, List.length_take]
  split_ifs with hout
  · have heq := stop_eq_length_iff.2 hout
    omega
  · have hne : stop script ≠ script.length := fun heq => hout (stop_eq_length_iff.1 heq)
    omega

theorem continues_of_mem_before (he : e ∈ before script) : e.ends = false := by
  obtain ⟨i, hi, rfl⟩ := List.getElem_of_mem he
  rw [before, List.length_take] at hi
  simpa [before] using List.not_of_lt_findIdx (show i < script.findIdx ReadEvent.ends by
    rw [stop] at hi
    omega)

theorem taken_append_unread (script : List ReadEvent) : taken script ++ unread script = script :=
  List.take_append_drop _ _

/-! ## Why a session ends -/

theorem exit_cons_of_continues (h : e.ends = false) : exit (e :: rest) = exit rest := by
  rw [exit, exit, stop_cons_of_continues h, List.getElem?_cons_succ]

theorem quits_cons_of_continues (h : e.ends = false) : Quits (e :: rest) ↔ Quits rest := by
  constructor
  · rintro ⟨events, line, tail, heq, hquit, hend⟩
    cases events with
    | nil =>
      obtain ⟨rfl, -⟩ := List.cons.inj heq
      simp [ReadEvent.ends, hquit] at h
    | cons e' events =>
      obtain ⟨-, rfl⟩ := List.cons.inj heq
      exact ⟨events, line, tail, rfl, hquit, fun hmem => hend (List.mem_cons_of_mem _ hmem)⟩
  · rintro ⟨events, line, tail, rfl, hquit, hend⟩
    refine ⟨e :: events, line, tail, rfl, hquit, ?_⟩
    rintro (_ | ⟨_, hmem⟩)
    · simp [ReadEvent.ends] at h
    · exact hend hmem

theorem not_quits_endOfInput : ¬Quits (.endOfInput :: rest) := by
  rintro ⟨events, line, tail, heq, -, hend⟩
  cases events with
  | nil => simp at heq
  | cons e events =>
    obtain ⟨rfl, -⟩ := List.cons.inj heq
    exact hend List.mem_cons_self

theorem exit_eq_quit_iff : exit script = .quit ↔ Quits script := by
  induction script with
  | nil =>
    have hnot : ¬Quits [] := by rintro ⟨events, line, tail, heq, -⟩; simp at heq
    simp [exit, hnot]
  | cons e rest ih =>
    cases he : e.ends with
    | false => rw [exit_cons_of_continues he, quits_cons_of_continues he, ih]
    | true =>
      rw [exit, stop_cons_of_ends he]
      cases e with
      | line text => simpa using ⟨[], text, rest, rfl, he, List.not_mem_nil⟩
      | interrupted => simp [ReadEvent.ends] at he
      | endOfInput => simpa using not_quits_endOfInput

theorem exit_eq_endOfInput_iff : exit script = .endOfInput ↔ ¬Quits script := by
  rw [← exit_eq_quit_iff]
  cases exit script <;> simp

end Script

end OperatorShell
