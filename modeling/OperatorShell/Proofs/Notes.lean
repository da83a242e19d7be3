import OperatorShell.Channel
import OperatorShell.Proofs.Quotation
import OperatorShell.Proofs.Run

/-!
# What a session notes about itself

Of all the diagnostics of a run, those that the session makes follow from the script and the catalog:
one for each line that is refused, and one for the end. What the operator typed stands in them
between quotes, so that no text makes a diagnostic look like two, or like that of another text.

* `Agent.Discreet`: agents that note nothing in the name of the session; `ScriptedAgent.discreet` and
  `Channel.discreet`: two such agents.
* `Session.rejections`: the diagnostics of lines that are refused.
* `Carries`: a message with a quoted text in it.
* `Session.run_notes`: the diagnostics that a session makes in a run, and how texts are quoted there.
-/

namespace OperatorShell

/-! ## Who notes what -/

/-- Whether the session makes a diagnostic, at the level of debugging. -/
def Diagnostic.ofSession (d : Diagnostic) : Bool := d.origin = .session && d.level = .debug

theorem Diagnostic.filter_ofSession {ds : List Diagnostic} (h : ∀ d ∈ ds, d.origin ≠ .session) :
    ds.filter ofSession = [] := by
  apply List.filter_eq_nil_iff.2
  intro d hd
  simp [ofSession, h d hd]

/-- Agents of this kind note nothing in the name of the session. -/
def Agent.Discreet (α : Type) [Agent α] : Prop :=
  ∀ (a : α) (line : Text), ∀ d ∈ (Agent.send a line).diagnostics, d.origin ≠ .session

theorem ScriptedAgent.discreet : Agent.Discreet ScriptedAgent := fun _ _ => nofun

theorem Channel.discreet : Agent.Discreet Channel := by
  intro channel line d hd
  have hnotes : d ∈ [Diagnostic.dispatching line channel.settings.address,
      noteOf (channel.send line).outcome] := hd
  simp only [List.mem_cons, List.not_mem_nil, or_false] at hnotes
  rcases hnotes with rfl | rfl
  · nofun
  · cases (channel.send line).outcome <;> nofun

/-! ## Messages with quoted texts -/

/-- A message says a text in quotes, and then something else as it is. Whatever breaks the line, or
is a control character, stands in the latter; the text can be read from the message, and it quotes
no other text. -/
structure Carries (message front t back : Text) : Prop where
  eq : message = front ++ Text.quoted t ++ back
  newline_mem_iff : '\n' ∈ message ↔ '\n' ∈ back
  noControl_iff : Text.NoControl message ↔ Text.NoControl back
  readBack : Text.readQuoted? (message.drop front.length) = some (t, back)
  unique : ∀ t' back', message = front ++ Text.quoted t' ++ back' → t' = t ∧ back' = back

theorem carries_quoted {front : Text} (h : Text.NoControl front) (t back : Text) :
    Carries (front ++ Text.quoted t ++ back) front t back := by
  have hquotation := Text.isQuotation_quoted t
  have hfront : Text.NoControl (front ++ Text.quoted t) :=
    Text.noControl_append.2 ⟨h, hquotation.noControl⟩
  refine ⟨rfl, ?_, ?_, ?_, ?_⟩
  · rw [List.mem_append]
    exact or_iff_right hfront.newline_not_mem
  · rw [Text.noControl_append]
    exact and_iff_right hfront
  · rw [List.append_assoc, List.drop_left]
    exact hquotation.readBack back
  · intro t' back' heq
    rw [List.append_assoc, List.append_assoc, List.append_right_inj] at heq
    obtain ⟨ht, hback⟩ := Text.eq_of_quoted_append heq
    exact ⟨ht.symm, hback.symm⟩

theorem carries_quoted_last {front : Text} (h : Text.NoControl front) (t : Text) :
    Carries (front ++ Text.quoted t) front t [] := by
  have hcarries := carries_quoted h t []
  rwa [List.append_nil] at hcarries

theorem carries_rejectedVerb (verb : Text) :
    Carries (Diagnostic.rejectedVerb verb).message "rejected unknown verb ".toList verb [] :=
  carries_quoted_last (by decide) verb

theorem carries_dispatching (command address : Text) :
    Carries (Diagnostic.dispatching command address).message "dispatching ".toList command
      (" to ".toList ++ address) := by
  have hmessage : (Diagnostic.dispatching command address).message =
      "dispatching ".toList ++ Text.quoted command ++ (" to ".toList ++ address) :=
    List.append_assoc _ _ _
  rw [hmessage]
  exact carries_quoted (by decide) command _

theorem newline_mem_dispatching_iff (command address : Text) :
    '\n' ∈ (Diagnostic.dispatching command address).message ↔ '\n' ∈ address := by
  rw [(carries_dispatching command address).newline_mem_iff, List.mem_append]
  exact or_iff_right (by decide)

theorem noControl_dispatching_iff (command address : Text) :
    Text.NoControl (Diagnostic.dispatching command address).message ↔ Text.NoControl address := by
  have hlink : Text.NoControl " to ".toList := by decide
  rw [(carries_dispatching command address).noControl_iff, Text.noControl_append]
  exact and_iff_right hlink

/-- An address is not quoted. One with a line break in front of it is as good as without, and makes
two lines of what is noted about a command. -/
theorem dispatching_on_two_lines :
    let settings : ChannelSettings :=
      { ChannelSettings.standard with address := "\n127.0.0.1:53421".toList }
    ∃ channel, Channel.connect settings .unreachable false =
        .ok (channel, [.lazyChannel "http://127.0.0.1:53421".toList]) ∧
      ∃ d ∈ (Agent.send channel "go".toList).diagnostics,
        d.message = "dispatching \"go\" to \n127.0.0.1:53421".toList ∧
          '\n' ∈ d.message := by
  intro settings
  have hmessage : (Diagnostic.dispatching "go".toList settings.address).message =
      "dispatching \"go\" to \n127.0.0.1:53421".toList := by decide
  have huri : settings.endpointUri = "http://127.0.0.1:53421".toList := by decide
  have hendpoint : settings.endpoint =
      .ok { scheme := some "http".toList, authority := "127.0.0.1:53421".toList } := by
    rw [ChannelSettings.endpoint, huri]
    rfl
  refine ⟨⟨settings, .unreachable⟩, ?_, .dispatching "go".toList settings.address,
    List.mem_cons_self, hmessage, ?_⟩
  · rw [Channel.connect, hendpoint, huri]
    rfl
  · rw [hmessage]
    decide

theorem carries_badVerb (verb : Text) :
    Carries (CatalogError.badVerb verb).message
      "catalog verb must be a single non-empty word, got ".toList verb [] :=
  carries_quoted_last (by decide) verb

theorem noControl_sessionEnded (reason : ExitReason) (n : Nat) :
    Text.NoControl (Diagnostic.sessionEnded reason.name n).message := by
  have hreason : Text.NoControl ("session ended (".toList ++ reason.name ++ ") after ".toList) := by
    cases reason <;> decide
  have hcount : Text.NoControl (Text.decimal n) :=
    Text.noControl_digits (by decide) (by decide) n
  exact Text.noControl_append.2 ⟨Text.noControl_append.2 ⟨hreason, hcount⟩, by decide⟩

namespace Session

variable {α ω : Type} [Agent α] [Writer ω] {c : Catalog}

/-! ## Turn by turn -/

/-- The diagnostic of a line that is refused. -/
def rejection? (c : Catalog) (line : Text) : Option Diagnostic :=
  match Input.classify c line with
  | .unknown verb => some (.rejectedVerb verb)
  | _ => none

/-- The diagnostics of the lines among events that are refused. -/
def rejections (c : Catalog) (events : List ReadEvent) : List Diagnostic :=
  (Script.lines events).filterMap (rejection? c)

theorem rejections_cons (c : Catalog) (e : ReadEvent) (events : List ReadEvent) :
    rejections c (e :: events) = rejections c [e] ++ rejections c events := by
  unfold rejections
  rw [Script.lines_cons, List.filterMap_append]

theorem exists_of_mem_rejections {events : List ReadEvent} {d : Diagnostic}
    (h : d ∈ rejections c events) : ∃ verb, d = .rejectedVerb verb := by
  obtain ⟨line, -, hline⟩ := List.mem_filterMap.1 h
  unfold rejection? at hline
  split at hline
  · next verb _ => exact ⟨verb, (Option.some.inj hline).symm⟩
  · cases hline

theorem notes_turn (hagent : Agent.Discreet α) (c : Catalog) (a : α) (e : ReadEvent) :
    (turn c a e).1.notes.filter Diagnostic.ofSession = rejections c [e] := by
  cases e with
  | interrupted | endOfInput => rfl
  | line text =>
    unfold turn rejections rejection?
    rw [Script.lines_line, Script.lines_nil, List.filterMap_cons, List.filterMap_nil]
    dsimp only
    cases Input.classify c text with
    | command line => exact Diagnostic.filter_ofSession (hagent a line)
    | blank | help | quit | unknown => rfl

theorem notes_turns (hagent : Agent.Discreet α) {awaiting : List Diagnostic}
    (hawaiting : ∀ d ∈ awaiting, d.origin ≠ .session) (c : Catalog) (a : α)
    (events : List ReadEvent) :
    ((turns c a events).flatMap fun t => awaiting ++ t.notes).filter Diagnostic.ofSession =
      rejections c events := by
  induction events generalizing a with
  | nil => rfl
  | cons e rest ih =>
    rw [turns, List.flatMap_cons, List.filter_append, List.filter_append, ih,
      Diagnostic.filter_ofSession hawaiting, List.nil_append, notes_turn hagent, ← rejections_cons]

theorem diagnostics_run (s : Session α ω) :
    s.run.2.diagnostics =
      s.diagnostics ++ s.turnsBefore.flatMap (fun t => s.awaiting ++ t.notes) ++ s.awaiting ++
        [.sessionEnded s.run.1.name (s.dispatches + s.commands.length)] := by
  rw [run_eq]
  rfl

theorem own_diagnostics_run {s : Session α ω} (hagent : Agent.Discreet α)
    (hawaiting : ∀ d ∈ s.awaiting, d.origin ≠ .session) :
    s.run.2.diagnostics.filter Diagnostic.ofSession =
      s.diagnostics.filter Diagnostic.ofSession ++
        (rejections s.catalog (Script.before s.reader.script) ++
          [.sessionEnded s.run.1.name (s.dispatches + s.commands.length)]) := by
  rw [diagnostics_run, List.filter_append, List.filter_append, List.filter_append, turnsBefore,
    notes_turns hagent hawaiting, Diagnostic.filter_ofSession hawaiting, List.append_nil,
    List.append_assoc]
  rfl

/-- **What a session notes, and how it quotes.** Where the agent and the input note nothing in its
name, a session makes one diagnostic for each line before its end that is refused, in order, and
one for the end, with the reason and the number of lines that a tap on the agent shows. Each of them
is one line, without control characters. A text is quoted between double quotes, so that no quote
inside it ends the quotation and the text can be read back; so messages that quote a text tell it
from all others. The message about a verb that no catalog can have is one line; that about a command
is one where the address that ends it is, since an address is not quoted. -/
theorem run_notes (s : Session α ω) (hagent : Agent.Discreet α)
    (hawaiting : ∀ d ∈ s.awaiting, d.origin ≠ .session) :
    (∃ new exchanges, s.run.2.diagnostics.filter Diagnostic.ofSession =
        s.diagnostics.filter Diagnostic.ofSession ++ new ∧
      new = rejections s.catalog (Script.before s.reader.script) ++
        [.sessionEnded s.run.1.name (s.dispatches + exchanges.length)] ∧
      s.tapped.run.2.agent = ⟨s.run.2.agent, exchanges⟩ ∧
      exchanges.map Prod.fst = s.commands ∧
      ∀ d ∈ new, '\n' ∉ d.message ∧ Text.NoControl d.message) ∧
    (∀ t, Text.IsQuotation (Text.quoted t) t) ∧
    (∀ verb, Carries (Diagnostic.rejectedVerb verb).message "rejected unknown verb ".toList
      verb []) ∧
    (∀ command address, Carries (Diagnostic.dispatching command address).message
        "dispatching ".toList command (" to ".toList ++ address) ∧
      ('\n' ∈ (Diagnostic.dispatching command address).message ↔ '\n' ∈ address) ∧
      (Text.NoControl (Diagnostic.dispatching command address).message ↔
        Text.NoControl address)) ∧
    ∀ verb, Carries (CatalogError.badVerb verb).message
        "catalog verb must be a single non-empty word, got ".toList verb [] ∧
      '\n' ∉ (CatalogError.badVerb verb).message := by
  refine ⟨⟨_, _, own_diagnostics_run hagent hawaiting, ?_, tapped_run s,
    Agent.map_fst_exchanges s.agent s.commands, ?_⟩, Text.isQuotation_quoted, carries_rejectedVerb,
    ?_, ?_⟩
  · rw [Agent.length_exchanges]
  · intro d hd
    have hcontrol : Text.NoControl d.message := by
      rcases List.mem_append.1 hd with hd | hd
      · obtain ⟨verb, rfl⟩ := exists_of_mem_rejections hd
        exact (carries_rejectedVerb verb).noControl_iff.2 nofun
      · obtain rfl := List.mem_singleton.1 hd
        exact noControl_sessionEnded _ _
    exact ⟨hcontrol.newline_not_mem, hcontrol⟩
  · exact fun command address => ⟨carries_dispatching command address,
      newline_mem_dispatching_iff command address, noControl_dispatching_iff command address⟩
  · intro verb
    have hcarries := carries_badVerb verb
    exact ⟨hcarries, fun hmem => List.not_mem_nil (hcarries.newline_mem_iff.1 hmem)⟩

/-- Verbs that would end a quotation, erase a line, or hide, over a channel that has notes of its
own. -/
theorem run_notes_strange_verbs :
    let s : Session Channel Transcript :=
      { agent := ⟨.standard, .unreachable⟩
        reader :=
          { script := [.line "x\"\\ go".toList, .interrupted, .line "go 1".toList,
              .line " ".toList, .line "? go".toList, .line " \x1b[2K\u200b\ngo".toList,
              .line "quit".toList, .line "x".toList] }
        catalog := ⟨[⟨"go".toList, []⟩], "> ".toList⟩
        display := ⟨{}, .plain⟩
        awaiting := [.noTerminal] }
    Agent.Discreet Channel ∧ (∀ d ∈ s.awaiting, d.origin ≠ .session) ∧
      s.run.2.diagnostics.filter Diagnostic.ofSession =
        [.rejectedVerb "x\"\\".toList, .rejectedVerb "\x1b[2K\u200b".toList,
          .sessionEnded "quit".toList 1] ∧
      (Diagnostic.rejectedVerb "x\"\\".toList).message =
        "rejected unknown verb \"x\\\"\\\\\"".toList ∧
      (Diagnostic.rejectedVerb "\x1b[2K\u200b".toList).message =
        "rejected unknown verb \"\\u\x7b1b\x7d[2K\\u\x7b200b\x7d\"".toList := by
  intro s
  have hawaiting : ∀ d ∈ s.awaiting, d.origin ≠ .session := by decide
  obtain ⟨⟨new, exchanges, hfilter, rfl, -, hlines, -⟩, -, hmessage, -⟩ :=
    run_notes s Channel.discreet hawaiting
  have hcount : exchanges.length = 1 := by
    rw [← List.length_map Prod.fst, hlines]
    decide
  refine ⟨Channel.discreet, hawaiting, hfilter.trans ?_, ?_, ?_⟩
  · rw [hcount, run_eq]
    decide
  · exact (hmessage _).eq.trans (by decide +kernel)
  · exact (hmessage _).eq.trans (by decide +kernel)

end Session

end OperatorShell
