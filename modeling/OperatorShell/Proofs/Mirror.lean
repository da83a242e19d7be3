import OperatorShell.Channel
import OperatorShell.Proofs.Run
import OperatorShell.Proofs.Service

/-!
# The scripted mirror of a channel

A stub agent behind a channel and a scripted agent share no code: one hears its commands from
requests and answers in responses, the other is called. Where the way between them changes nothing,
the scripted agent with the corresponding responses answers every command as the channel does, and a
session cannot tell them apart.

* `StubAgent.mirror`: the scripted agent that stands for a stub agent.
* `Channel.Carries`: the commands that get through a channel, and their answers back, unchanged.
* `Session.alike_run`: agents with the same outcomes lead to runs that are alike.
* `Channel.answers_as_mirror`: the channel and the mirror, command by command and run by run.
-/

namespace OperatorShell

/-! ## The mirror -/

/-- The scripted response that stands for a reply. A status is a response of its own if it says that
the agent is absent, whatever its message. -/
def StubReply.response : StubReply → Response
  | .echo => .echo
  | .text reply => .output reply
  | .status s => if s.code = .unavailable then .unavailable else .remote s.message

theorem StubReply.resolve_response (reply : StubReply) (command : Text) :
    reply.response.resolve command = (reply.resolve command).mapError .ofStatus := by
  cases reply with
  | echo | text => rfl
  | status s =>
    simp only [response, resolve, Except.mapError, DispatchError.ofStatus]
    split_ifs <;> rfl

namespace StubAgent

/-- The scripted agent with the corresponding responses, which repeats commands after them. -/
def mirror (a : StubAgent) : ScriptedAgent where
  responses := a.script.map StubReply.response
  sent := a.received

theorem send_mirror (a : StubAgent) (command : Text) :
    a.mirror.send command =
      { outcome := (a.serve command).1.mapError .ofStatus
        agent := (a.serve command).2.mirror } := by
  have hnext : a.mirror.next = (a.script.headD .echo).response := by
    cases h : a.script <;> simp [mirror, ScriptedAgent.next, StubReply.response, h]
  rw [ScriptedAgent.send, hnext, StubReply.resolve_response]
  simp [mirror, serve, receive, take]

theorem not_gaveUp_of_mem_outcomes {a : StubAgent} {commands : List Text} :
    ∀ outcome ∈ Agent.outcomes a.mirror commands, ¬outcome.GaveUp := by
  induction commands generalizing a with
  | nil => simp
  | cons command rest ih =>
    have hsend : Agent.send a.mirror command = _ := send_mirror a command
    rw [Agent.outcomes_cons, hsend, List.forall_mem_cons]
    refine ⟨?_, ih⟩
    cases (a.serve command).1 with
    | ok reply => exact Exchange.not_gaveUp_ok reply
    | error s => exact Exchange.not_gaveUp_ofStatus s

theorem mem_script_of_serve {a : StubAgent} {command : Text} {s : Status}
    (h : (a.serve command).1 = .error s) : .status s ∈ a.script := by
  obtain ⟨script, received⟩ := a
  cases script with
  | nil => simp [serve, receive, take, StubReply.resolve] at h
  | cons reply script =>
    cases reply with
    | echo | text => simp [serve, receive, take, StubReply.resolve] at h
    | status s' =>
      obtain rfl : s' = s := by simpa [serve, receive, take, StubReply.resolve] using h
      exact List.mem_cons_self

/-- Whether the only statuses in the script are refusals. -/
def OnlyRefusals (a : StubAgent) : Prop := ∀ s, .status s ∈ a.script → s.code ≠ .ok

theorem OnlyRefusals.serve {a : StubAgent} (h : a.OnlyRefusals) (command : Text) :
    (a.serve command).2.OnlyRefusals :=
  fun s hs => h s (List.mem_of_mem_tail hs)

/-- Whether commands, sent one after another, get to the agent and its answers back as they are. -/
def Unchanged (a : StubAgent) : List Text → Prop
  | [] => True
  | command :: rest =>
    (Wire.MessageKind.request.Fits command ∧ Exchange.Arrives (a.serve command).1) ∧
      Unchanged (a.serve command).2 rest

instance decidableUnchanged :
    (a : StubAgent) → (commands : List Text) → Decidable (a.Unchanged commands)
  | _, [] => inferInstanceAs (Decidable True)
  | a, command :: rest =>
    have := decidableUnchanged (a.serve command).2 rest
    inferInstanceAs (Decidable (_ ∧ _))

end StubAgent

/-! ## The channel -/

namespace Channel

/-- A channel carries commands if nothing ends the wait for an answer to one of them, and nothing on
the way changes or refuses what is sent. -/
structure Carries (ch : Channel) (commands : List Text) : Prop where
  connected : ch.link.fault = none
  answered : ∀ command ∈ commands, command ∉ ch.link.silent
  uninterrupted : ∀ command ∈ commands, command ∉ ch.link.interrupted
  unchanged : ch.link.server.Unchanged commands

/-- The scripted agent that stands for the agent behind a channel. -/
def mirror (ch : Channel) : ScriptedAgent := ch.link.server.mirror

variable {ch : Channel} {command : Text} {rest commands : List Text}

/-- The channel with its agent after a command. -/
def afterCommand (ch : Channel) (command : Text) : Channel :=
  { ch with link := { ch.link with server := (ch.link.server.serve command).2 } }

theorem send_eq (h : ch.Carries (command :: rest))
    (hcodes : ch.link.server.OnlyRefusals) :
    (ch.send command).outcome = (ch.link.server.serve command).1.mapError .ofStatus ∧
      (ch.send command).agent = ch.afterCommand command := by
  obtain ⟨⟨hcommand, hanswer⟩, -⟩ := h.unchanged
  have hrun := Exchange.run_eq hcommand hanswer fun s hs =>
    hcodes s (StubAgent.mem_script_of_serve hs)
  have hcarry : ch.link.carry command =
      ([.answered ((ch.link.server.serve command).1.mapError .ofStatus)],
        (ch.afterCommand command).link) := by
    have hfault : ¬ch.link.fault.isSome = true := by rw [h.connected]; decide
    have hsilent : ¬ch.link.silent.contains command = true := by
      simpa using h.answered command List.mem_cons_self
    have hinterrupted : ¬ch.link.interrupted.contains command = true := by
      simpa using h.uninterrupted command List.mem_cons_self
    rw [Link.carry, if_neg hfault, if_neg hinterrupted, if_neg hsilent, hrun]
    rfl
  rw [send, hcarry]
  exact ⟨rfl, rfl⟩

theorem Carries.afterCommand (h : ch.Carries (command :: rest)) :
    (ch.afterCommand command).Carries rest where
  connected := h.connected
  answered c hc := h.answered c (List.mem_cons_of_mem _ hc)
  uninterrupted c hc := h.uninterrupted c (List.mem_cons_of_mem _ hc)
  unchanged := h.unchanged.2

theorem send_mirror (h : ch.Carries (command :: rest))
    (hcodes : ch.link.server.OnlyRefusals) :
    (ch.send command).outcome = (ch.mirror.send command).outcome ∧
      (ch.send command).agent.mirror = (ch.mirror.send command).agent := by
  obtain ⟨houtcome, hagent⟩ := send_eq h hcodes
  rw [houtcome, hagent, mirror, StubAgent.send_mirror]
  exact ⟨rfl, rfl⟩

/-- Command by command, the channel and the mirror give the same outcomes, and the agents after them
still correspond. -/
theorem outcomes_mirror (h : ch.Carries commands)
    (hcodes : ch.link.server.OnlyRefusals) :
    Agent.outcomes ch commands = Agent.outcomes ch.mirror commands ∧
      (Agent.after ch commands).mirror = Agent.after ch.mirror commands := by
  -- the channel after a command still carries the others, and its mirror is the mirror's next state
  induction commands generalizing ch with
  | nil => exact ⟨rfl, rfl⟩
  | cons command rest ih =>
    obtain ⟨houtcome, hmirror⟩ := send_mirror h hcodes
    have hagent := (send_eq h hcodes).2
    have hnext : (ch.send command).agent.Carries rest := hagent ▸ h.afterCommand
    have hnextCodes : (ch.send command).agent.link.server.OnlyRefusals :=
      hagent ▸ hcodes.serve command
    obtain ⟨houtcomes, hafter⟩ := ih hnext hnextCodes
    rw [hmirror] at houtcomes hafter
    exact ⟨List.cons_eq_cons.2 ⟨houtcome, houtcomes⟩, hafter⟩

end Channel

/-! ## Sessions -/

namespace Session

variable {α β ω : Type} [Agent α] [Agent β] [Writer ω]

/-- The session with another agent. -/
def withAgent (s : Session α ω) (b : β) : Session β ω := { s with agent := b }

/-- Whether two runs are the same but for their agents and for what these note. -/
structure Alike (r : ExitReason × Session α ω) (r' : ExitReason × Session β ω) : Prop where
  reason : r.1 = r'.1
  display : r.2.display = r'.2.display
  reader : r.2.reader = r'.2.reader
  dispatches : r.2.dispatches = r'.2.dispatches
  audit : r.2.audit = r'.2.audit

variable {c : Catalog} {st : Style} {a : α} {b : β}

theorem calls_turn {e : ReadEvent}
    (h : Agent.outcomes a (Script.commandsIn c [e]) = Agent.outcomes b (Script.commandsIn c [e])) :
    (turn c a e).1.calls st c = (turn c b e).1.calls st c := by
  cases e with
  | interrupted | endOfInput => rfl
  | line text =>
    rw [Script.commandsIn_line, Line.isCommand_eq] at h
    rw [turn, turn]
    cases hclass : Input.classify c text with
    | command line =>
      obtain rfl := Line.eq_of_classify_command hclass
      have houtcome : (Agent.send a line).outcome = (Agent.send b line).outcome := by
        simpa [hclass] using h
      simp only [Turn.calls, houtcome]
    | blank | help | quit | unknown => rfl

theorem calls_turns {events : List ReadEvent}
    (h : Agent.outcomes a (Script.commandsIn c events) =
      Agent.outcomes b (Script.commandsIn c events)) :
    (turns c a events).map (Turn.calls st c) = (turns c b events).map (Turn.calls st c) := by
  induction events generalizing a b with
  | nil => rfl
  | cons e rest ih =>
    rw [Script.commandsIn_cons, Agent.outcomes_append, Agent.outcomes_append] at h
    obtain ⟨hfirst, hrest⟩ := List.append_inj h (by
      rw [Agent.length_outcomes, Agent.length_outcomes])
    rw [← turn_snd, ← turn_snd] at hrest
    rw [turns, turns, List.map_cons, List.map_cons, calls_turn hfirst, ih hrest]

omit [Writer ω] in
theorem callsOf_eq (s : Session α ω) :
    s.callsOf =
      (s.turnsBefore.map (Turn.calls s.display.style s.catalog)).flatMap
        (fun calls => .prompt s.prompt :: calls) ++ [.prompt s.prompt] := by
  rw [callsOf, List.flatMap_map]

/-- Agents that give the same outcomes to what a session sends lead to runs that are alike. -/
theorem alike_run {s : Session α ω}
    (h : Agent.outcomes s.agent s.commands = Agent.outcomes b s.commands) :
    Alike s.run (s.withAgent b).run := by
  -- the course reads the agent's answers off in two places: the calls of the writer and the audit
  have hcalls : s.callsOf = (s.withAgent b).callsOf := by
    rw [callsOf_eq, callsOf_eq, turnsBefore, calls_turns h]
    rfl
  have hdisplay : s.course.display = (s.withAgent b).course.display :=
    congrArg s.display.call hcalls
  have hexchanges : Agent.exchanges s.agent s.commands = Agent.exchanges b s.commands :=
    congrArg s.commands.zip h
  have haudit : s.course.audit = (s.withAgent b).course.audit :=
    congrArg (fun exchanges =>
      (dispatchEvents s.stopwatch s.dispatches exchanges).foldl AuditLog.append s.audit) hexchanges
  rw [run_eq, run_eq]
  exact ⟨rfl, congrArg Display.emitExit hdisplay, rfl, rfl,
    congrArg (AuditLog.append · (.exit (Script.exit s.reader.script).name s.course.dispatches))
      haudit⟩

end Session

/-! ## The channel and its mirror -/

namespace Channel

/-- **A channel answers as its mirror does.** Commands that a channel carries end as they do with
the scripted agent, one by one, and are kept in the same order at both ends. No response that comes
back, whatever it says, ends a command as a limit or an interrupt would. So a session that sends
these commands runs in the same way with either of the two. -/
theorem answers_as_mirror (ch : Channel) (commands : List Text) (h : ch.Carries commands)
    (hcodes : ch.link.server.OnlyRefusals) :
    Agent.outcomes ch commands = Agent.outcomes ch.mirror commands ∧
      (Agent.after ch commands).link.server.received = (Agent.after ch.mirror commands).sent ∧
      (∀ r : Service.Response, ¬(Exchange.outcomeOf r).GaveUp) ∧
      (∀ outcome ∈ Agent.outcomes ch commands, ¬outcome.GaveUp) ∧
      ∀ {ω : Type} [Writer ω] (s : Session Channel ω), s.agent = ch → s.commands = commands →
        Session.Alike s.run (s.withAgent ch.mirror).run ∧
          s.run.2.agent.mirror = (s.withAgent ch.mirror).run.2.agent := by
  obtain ⟨houtcomes, hafter⟩ := outcomes_mirror h hcodes
  refine ⟨houtcomes, congrArg ScriptedAgent.sent hafter, Exchange.not_gaveUp_outcomeOf, ?_, ?_⟩
  · rw [houtcomes]
    exact StubAgent.not_gaveUp_of_mem_outcomes
  · intro ω _ s hagent hcommands
    subst hagent hcommands
    refine ⟨Session.alike_run houtcomes, ?_⟩
    rw [Session.agent_run, Session.agent_run]
    exact hafter

/-- A reply, a status that reads like a limit, an absent agent, and a command that is repeated. -/
theorem answers_as_mirror_of_statuses :
    let ch : Channel :=
      { settings := .standard
        link :=
          { server :=
              { script := [.text "a \u20ac".toList, .status ⟨.deadlineExceeded, "too late".toList⟩,
                  .status ⟨.unavailable, "gone".toList⟩] }
            silent := ["wait".toList] } }
    let commands := ["go 1".toList, "go 2".toList, "go 3".toList, "go\t4".toList]
    let s : Session Channel Transcript :=
      { agent := ch
        reader := .ofLines (commands ++ ["quit".toList])
        catalog := ⟨[⟨"go".toList, []⟩], "> ".toList⟩
        display := ⟨{}, .plain⟩ }
    ch.Carries commands ∧ ch.link.server.OnlyRefusals ∧
      Agent.outcomes ch commands =
        [.ok "a \u20ac".toList, .error (.remote "too late".toList), .error .unavailable,
          .ok "Output for go\t4".toList] ∧
      (Agent.after ch commands).link.server.received = commands ∧
      Session.Alike s.run (s.withAgent ch.mirror).run := by
  intro ch commands s
  have hcarries : ch.Carries commands := ⟨rfl, by decide, by decide, by decide +kernel⟩
  have hcodes : ch.link.server.OnlyRefusals := by
    intro s hs
    obtain rfl | rfl : s = ⟨.deadlineExceeded, "too late".toList⟩ ∨
        s = ⟨.unavailable, "gone".toList⟩ := by simpa [ch] using hs
    all_goals decide
  obtain ⟨houtcomes, hreceived, -, -, hsessions⟩ := answers_as_mirror ch commands hcarries hcodes
  exact ⟨hcarries, hcodes, houtcomes, hreceived, (hsessions s rfl (by decide)).1⟩

end Channel

end OperatorShell
