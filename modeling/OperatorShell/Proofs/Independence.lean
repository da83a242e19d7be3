import OperatorShell.Proofs.Acceptance
import OperatorShell.Proofs.Mirror

/-!
# What a session does not depend on

What a session sends, remembers and counts, how often it prompts and why it ends are settled by its
script and the verbs of its catalog. Nothing that comes back can change a later step: not an answer,
not a writer that fails, not a log that fails. What is printed depends on the answers too, and on
the catalog, the style and the writer, but not on the log.

* `Session.Deeds`: what a run does, apart from what it prints.
* `Session.run_independent`: two runs over one script, and a third that prints as the first does.
-/

namespace OperatorShell

namespace Script

variable {c c' : Catalog}

theorem isCommand_congr (h : c.verbs = c'.verbs) : Line.isCommand c = Line.isCommand c' := by
  funext line
  rw [Line.isCommand, Line.isCommand, h]

theorem commands_congr (h : c.verbs = c'.verbs) (script : List ReadEvent) :
    commands c script = commands c' script := by
  rw [commands, commands, commandsIn, commandsIn, isCommand_congr h]

end Script

namespace Session

variable {α β γ ω ω' : Type} [Agent α] [Agent β] [Agent γ] [Writer ω] [Writer ω']

/-- What a run does, apart from what it prints: why it ends, the lines that it sends and those that
it adds to the history, and how many prompts it shows. -/
structure Deeds (s : Session α ω) (reason : ExitReason) (lines added : List Text) (shown : Nat) :
    Prop where
  reason : s.run.1 = reason
  /-- A tap on the agent shows these lines and no others. -/
  sends : ∃ exchanges, s.tapped.run.2.agent = ⟨s.run.2.agent, exchanges⟩ ∧
    exchanges.map Prod.fst = lines
  counts : s.run.2.dispatches = s.dispatches + lines.length
  history : s.run.2.reader.history = s.reader.history ++ added
  prompts : s.run.2.reader.prompts = s.reader.prompts + shown

theorem deeds_run (s : Session α ω) :
    Deeds s (Script.exit s.reader.script) s.commands (Script.recalled s.reader.script)
      (Script.stop s.reader.script + 1) := by
  refine ⟨?_, ⟨_, tapped_run s, Agent.map_fst_exchanges _ _⟩, ?_, ?_, ?_⟩ <;> rw [run_eq] <;> rfl

theorem applyAll_callsOf (hquiet : ∀ (w : ω) (t : Text), Writer.prompt w t = w)
    (s : Session α ω) (w : ω) :
    WriterCall.applyAll w s.callsOf =
      WriterCall.applyAll w (callsOfTurns s.display.style s.catalog s.turnsBefore) := by
  have hprompt : ∀ w : ω, WriterCall.apply w (.prompt s.prompt) = w := fun w => hquiet w s.prompt
  rw [callsOf, callsOfTurns, WriterCall.applyAll_append, WriterCall.applyAll_cons, hprompt,
    WriterCall.applyAll_nil]
  induction s.turnsBefore generalizing w with
  | nil => rfl
  | cons turn turns ih =>
    rw [List.flatMap_cons, List.flatMap_cons, List.cons_append, WriterCall.applyAll_cons, hprompt,
      WriterCall.applyAll_append, WriterCall.applyAll_append, ih]

theorem display_run_congr {s : Session α ω} {t : Session β ω} (hdisplay : s.display = t.display)
    (hprompt : s.prompt = t.prompt ∨ ∀ (w : ω) (p : Text), Writer.prompt w p = w)
    (hturns : s.turnsBefore.map (Turn.calls s.display.style s.catalog) =
      t.turnsBefore.map (Turn.calls t.display.style t.catalog)) :
    s.run.2.display = t.run.2.display := by
  have hcalls : WriterCall.applyAll t.display.writer s.callsOf =
      WriterCall.applyAll t.display.writer t.callsOf := by
    obtain hprompt | hquiet := hprompt
    · rw [callsOf_eq, callsOf_eq, hturns, hprompt]
    · rw [applyAll_callsOf hquiet, applyAll_callsOf hquiet, callsOfTurns, callsOfTurns,
        List.flatMap_def, List.flatMap_def]
      exact congrArg (fun calls => WriterCall.applyAll t.display.writer calls.flatten) hturns
  rw [display_run, display_run, Display.call, Display.call, WriterCall.applyAll_append,
    WriterCall.applyAll_append, hdisplay, hcalls]

/-- **What a session does not depend on.** Two sessions over one script, with the same verbs in
their catalogs, send the same lines in the same order, add the same lines to the history, show the
same number of prompts, count the same dispatches and end for the same reason, whatever their
agents answer, their writers and logs do with what they are given, and their prompts, styles, usage
texts and prefixes of replies say. A session with the catalog, the display and the answers of the
first also prints what the first does, whatever its log. Its prompt is that of the first, unless the
writer shows no prompts. -/
theorem run_independent (s : Session α ω) (t : Session β ω')
    (hscript : s.reader.script = t.reader.script) (hverbs : s.catalog.verbs = t.catalog.verbs) :
    let script := s.reader.script
    let lines := Script.commands s.catalog script
    (Deeds s (Script.exit script) lines (Script.recalled script) (Script.stop script + 1) ∧
        Deeds t (Script.exit script) lines (Script.recalled script) (Script.stop script + 1)) ∧
      ∀ u : Session γ ω, u.reader.script = s.reader.script → u.catalog = s.catalog →
        u.display = s.display →
        (u.prompt = s.prompt ∨ ∀ (w : ω) (p : Text), Writer.prompt w p = w) →
        Agent.outcomes u.agent u.commands = Agent.outcomes s.agent s.commands →
        u.run.2.display = s.run.2.display := by
  intro script lines
  constructor
  · have hlines : lines = t.commands := by
      rw [commands, ← hscript, ← Script.commands_congr hverbs]
    refine ⟨deeds_run s, ?_⟩
    rw [hlines, show script = t.reader.script from hscript]
    exact deeds_run t
  · intro u huscript hcatalog hdisplay hprompt houtcomes
    refine display_run_congr hdisplay hprompt ?_
    rw [turnsBefore, turnsBefore, huscript, hcatalog, hdisplay]
    refine calls_turns ?_
    rw [commands, commands, huscript, hcatalog] at houtcomes
    exact houtcomes

/-- A session whose agent and writer work, one that has neither and whose log fails, and one that
differs from the first in its log and prompt only. -/
theorem run_independent_of_failures :
    let script := [ReadEvent.line "go 1".toList, .interrupted, .line "x".toList,
      .line " go\t2".toList, .line "h".toList, .endOfInput]
    let s : Session ScriptedAgent Transcript :=
      { agent := .replying ["done".toList]
        reader := { script, prompts := 3 }
        catalog := ⟨[⟨"go".toList, "<n>".toList⟩], "> ".toList⟩
        display := ⟨{}, .plain⟩
        audit := .onFile [] "s1".toList }
    let t : Session ScriptedAgent Transcript :=
      { agent := .unreachable
        reader := { script, history := ["h".toList] }
        catalog := ⟨[⟨"go".toList, []⟩], []⟩
        display := ⟨{ broken := true }, .colored⟩
        prompt := []
        audit := { sink := .failing, session := "s2".toList } }
    let u : Session ScriptedAgent Transcript :=
      { s with prompt := "? ".toList, audit := .disabled [] }
    s.reader.script = t.reader.script ∧ s.catalog.verbs = t.catalog.verbs ∧
      Deeds s .endOfInput ["go 1".toList, " go\t2".toList]
        ["go 1".toList, "x".toList, " go\t2".toList, "h".toList] 6 ∧
      Deeds t .endOfInput ["go 1".toList, " go\t2".toList]
        ["go 1".toList, "x".toList, " go\t2".toList, "h".toList] 6 ∧
      u.run.2.display = s.run.2.display ∧
      s.run.2.display.writer.text ≠ [] ∧ t.run.2.display.writer.text = [] := by
  intro script s t u
  obtain ⟨⟨hs, ht⟩, hdisplay⟩ := run_independent (γ := ScriptedAgent) s t rfl rfl
  have hlines : Script.commands s.catalog script = ["go 1".toList, " go\t2".toList] := by
    decide +kernel
  have hadded : Script.recalled script =
      ["go 1".toList, "x".toList, " go\t2".toList, "h".toList] := by decide +kernel
  have hexit : Script.exit script = .endOfInput := by decide +kernel
  have hstop : Script.stop script + 1 = 6 := by decide +kernel
  rw [hlines, hadded, hexit, hstop] at hs ht
  have hquiet : ∀ (w : Transcript) (p : Text), Writer.prompt w p = w := fun _ _ => rfl
  exact ⟨rfl, rfl, hs, ht, hdisplay u rfl rfl rfl (.inr hquiet) rfl, by decide +kernel,
    by decide +kernel⟩

end Session

end OperatorShell
