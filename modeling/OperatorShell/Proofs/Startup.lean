import OperatorShell.Proofs.Flags
import OperatorShell.Proofs.LineEditing
import OperatorShell.Proofs.Run
import OperatorShell.Shell

/-!
# Starting the shell

The steps of a start work on one world after another, and only the first three can fail: the
settings, the catalog, and the channel. None of these does more to the world than to note
something. The step after them that makes files, the opening of the audit log, cannot fail. So a
start that fails has touched nothing, and that is so because of the order of the steps.

Once the session runs, nothing that comes back from the agent or the audit log can fail the program.
The one thing that can is a line that breaks the line editor.

* `Shell.StartFails`: the four ways in which a start fails.
* `Shell.Harmless`, `Shell.HarmlessIfFailing`: what a step may do to the world.
* `Shell.Untouched`: what a start that fails leaves; `Shell.Leaves`: what a session leaves.
* `Shell.run_fails_only_at_start`: how an accepted command line ends.
-/

namespace OperatorShell.Shell

variable {l : Launch} {i : Invocation}

/-! ## Starts that fail -/

/-- Why no session can start: the settings cannot be loaded, they make no catalog, the address of
the agent is no URI, or the agent is to be contacted at once and cannot be reached. -/
inductive StartFails (l : Launch) (i : Invocation) : Prop where
  | settings {e : Settings.LoadError} (load : i.loadSettings l.files l.environment = .error e)
  | catalog {s : Settings} {ignored : Option Settings.LoadError} {e : CatalogError}
      (load : i.loadSettings l.files l.environment = .ok (s, ignored))
      (build : s.catalog.build = .error e)
  | endpoint {s : Settings} {ignored : Option Settings.LoadError} {e : UriError}
      (load : i.loadSettings l.files l.environment = .ok (s, ignored))
      (uri : Uri.parse s.agent.channel.endpointUri = .error e)
  | unreachable {s : Settings} {ignored : Option Settings.LoadError} {causes : List Text}
      (load : i.loadSettings l.files l.environment = .ok (s, ignored))
      (failFast : s.agent.failFast = true) (fault : l.link.fault = some causes)

/-- Settings with which a session starts. -/
structure Starts (l : Launch) (i : Invocation) (s : Settings) (c : Catalog) : Prop where
  load : ∃ ignored, i.loadSettings l.files l.environment = .ok (s, ignored)
  build : s.catalog.build = .ok c
  endpoint : ∃ uri, Uri.parse s.agent.channel.endpointUri = .ok uri
  reachable : s.agent.failFast = true → l.link.fault = none

theorem connect_eq_ok_iff {settings : ChannelSettings} {link : Link} {eager : Bool} :
    (∃ channel notes, Channel.connect settings link eager = .ok (channel, notes)) ↔
      (∃ uri, Uri.parse settings.endpointUri = .ok uri) ∧ (eager = true → link.fault = none) := by
  rw [Channel.connect, ChannelSettings.endpoint]
  cases huri : Uri.parse settings.endpointUri with
  | error e => simp [Except.mapError]
  | ok uri =>
    cases eager with
    | false => simp [Except.mapError]
    | true =>
      cases hfault : link.fault with
      | none => simp [Except.mapError]
      | some causes => simp [Except.mapError]

theorem channel_of_connect {settings : ChannelSettings} {link : Link} {eager : Bool}
    {channel : Channel} {notes : List Diagnostic}
    (h : Channel.connect settings link eager = .ok (channel, notes)) :
    channel = ⟨settings, link⟩ ∧
      (notes = [.connected settings.endpointUri] ∨ notes = [.lazyChannel settings.endpointUri]) := by
  rw [Channel.connect] at h
  split at h
  · cases h
  · split_ifs at h
    · split at h
      · cases h
      · cases h
        exact ⟨rfl, .inl rfl⟩
    · cases h
      exact ⟨rfl, .inr rfl⟩

theorem startFails_or_starts (l : Launch) (i : Invocation) :
    StartFails l i ∨ ∃ s c, Starts l i s c := by
  cases hload : i.loadSettings l.files l.environment with
  | error e => exact .inl (.settings hload)
  | ok loaded =>
    obtain ⟨s, ignored⟩ := loaded
    cases hbuild : s.catalog.build with
    | error e => exact .inl (.catalog hload hbuild)
    | ok c =>
      cases huri : Uri.parse s.agent.channel.endpointUri with
      | error e => exact .inl (.endpoint hload huri)
      | ok uri =>
        cases hfault : l.link.fault with
        | none => exact .inr ⟨s, c, ⟨ignored, hload⟩, hbuild, ⟨uri, huri⟩, fun _ => hfault⟩
        | some causes =>
          cases hfailFast : s.agent.failFast with
          | true => exact .inl (.unreachable hload hfailFast hfault)
          | false =>
            refine .inr ⟨s, c, ⟨ignored, hload⟩, hbuild, ⟨uri, huri⟩, fun heager => ?_⟩
            rw [hfailFast] at heager
            cases heager

theorem Starts.not_startFails {s : Settings} {c : Catalog} (h : Starts l i s c) :
    ¬StartFails l i := by
  obtain ⟨⟨ignored, hload⟩, hbuild, ⟨uri, huri⟩, hreachable⟩ := h
  intro hfails
  cases hfails with
  | settings load => cases hload.symm.trans load
  | catalog load build =>
    cases hload.symm.trans load
    cases hbuild.symm.trans build
  | endpoint load uri' =>
    cases hload.symm.trans load
    cases huri.symm.trans uri'
  | unreachable load failFast fault =>
    cases hload.symm.trans load
    cases (hreachable failFast).symm.trans fault

/-! ## Steps -/

section Steps

variable {α β : Type} {x : Start α} {f : α → Start β} {w w' : World} {a : α} {e : StartError}

theorem on_bind_of_ok (h : x.on w = (.ok a, w')) : Start.on (x >>= f) w = (f a).on w' := by
  have hx : x w = (.ok a, w') := h
  change (ExceptT.bind x f) w = _
  simp only [ExceptT.bind, ExceptT.mk, bind, StateT.bind, hx]
  rfl

theorem on_bind_of_error (h : x.on w = (.error e, w')) :
    Start.on (x >>= f) w = (.error e, w') := by
  have hx : x w = (.error e, w') := h
  change (ExceptT.bind x f) w = _
  simp only [ExceptT.bind, ExceptT.mk, bind, StateT.bind, hx]
  rfl

/-- Diagnostics of which none says that a command was sent. -/
def Quiet (notes : List Diagnostic) : Prop :=
  ∀ command address, .dispatching command address ∉ notes

theorem Quiet.append {notes notes' : List Diagnostic} (h : Quiet notes) (h' : Quiet notes') :
    Quiet (notes ++ notes') := fun command address hmem =>
  (List.mem_append.1 hmem).elim (h command address) (h' command address)

theorem quiet_nil : Quiet [] := fun _ _ => List.not_mem_nil

/-- A step that notes something and does nothing else to the world, whether or not it fails. -/
def Harmless (x : Start α) : Prop := ∀ w, ∃ notes, Quiet notes ∧ (x.on w).2 = w.note notes

/-- A step that has noted something and done nothing else to the world if it fails. -/
def HarmlessIfFailing (x : Start α) : Prop :=
  ∀ w e w', x.on w = (.error e, w') → ∃ notes, Quiet notes ∧ w' = w.note notes

theorem note_nil (w : World) : w.note [] = w := by
  rw [World.note, List.append_nil]

theorem note_note (w : World) (notes notes' : List Diagnostic) :
    (w.note notes).note notes' = w.note (notes ++ notes') := by
  rw [World.note, World.note, World.note, List.append_assoc]

theorem Harmless.bind (hx : Harmless x) (hf : ∀ a, HarmlessIfFailing (f a)) :
    HarmlessIfFailing (x >>= f) := by
  intro w e w' h
  obtain ⟨notes, hquiet, hworld⟩ := hx w
  cases hon : x.on w with
  | mk result w₁ =>
    obtain rfl : w₁ = w.note notes := by rw [← hworld, hon]
    cases result with
    | error e₁ =>
      rw [on_bind_of_error hon] at h
      exact ⟨notes, hquiet, (congrArg Prod.snd h).symm⟩
    | ok a =>
      rw [on_bind_of_ok hon] at h
      obtain ⟨notes', hquiet', rfl⟩ := hf a _ e w' h
      exact ⟨notes ++ notes', hquiet.append hquiet', note_note w notes notes'⟩

theorem harmlessIfFailing_of_succeeds (h : ∀ w, ∃ a w', x.on w = (.ok a, w')) :
    HarmlessIfFailing x := by
  intro w e w' herror
  obtain ⟨a, w₁, hok⟩ := h w
  rw [hok] at herror
  cases herror

end Steps

/-! ## The steps of a start -/

section Start

variable {w : World}

theorem on_bind_get {β : Type} (f : World → Start β) : Start.on (get >>= f) w = (f w).on w :=
  on_bind_of_ok rfl

theorem on_note (ds : List Diagnostic) : (note ds).on w = (.ok (), w.note ds) := rfl

theorem on_loadSettings :
    (loadSettings l i).on w =
      match i.loadSettings w.files l.environment with
      | .error e => (.error (.settings e), w)
      | .ok (s, fault) => (.ok s, w.note (fault.toList.map noteOfFault)) := by
  rw [loadSettings, on_bind_get]
  cases i.loadSettings w.files l.environment <;> rfl

theorem on_loadSettings_of_error {e : Settings.LoadError}
    (h : i.loadSettings w.files l.environment = .error e) :
    (loadSettings l i).on w = (.error (.settings e), w) := by
  rw [on_loadSettings, h]

theorem on_loadSettings_of_ok {s : Settings} {fault : Option Settings.LoadError}
    (h : i.loadSettings w.files l.environment = .ok (s, fault)) :
    (loadSettings l i).on w = (.ok s, w.note (fault.toList.map noteOfFault)) := by
  rw [on_loadSettings, h]

theorem on_buildCatalog (s : CatalogSettings) :
    (buildCatalog s).on w = (s.build.mapError .catalog, w) := by
  rw [buildCatalog]
  cases s.build <;> rfl

theorem on_buildCatalog_of_error {s : CatalogSettings} {e : CatalogError}
    (h : s.build = .error e) : (buildCatalog s).on w = (.error (.catalog e), w) := by
  rw [on_buildCatalog, h]
  rfl

theorem on_buildCatalog_of_ok {s : CatalogSettings} {c : Catalog} (h : s.build = .ok c) :
    (buildCatalog s).on w = (.ok c, w) := by
  rw [on_buildCatalog, h]
  rfl

theorem on_connect (s : AgentSettings) :
    (connect s).on w =
      match Channel.connect s.channel w.link s.failFast with
      | .error e => (.error (.connect e), w)
      | .ok (channel, connected) => (.ok channel, w.note connected) := by
  rw [connect, on_bind_get]
  cases Channel.connect s.channel w.link s.failFast <;> rfl

theorem on_connect_of_error {s : AgentSettings} {e : ConnectError}
    (h : Channel.connect s.channel w.link s.failFast = .error e) :
    (connect s).on w = (.error (.connect e), w) := by
  rw [on_connect, h]

theorem on_connect_of_ok {s : AgentSettings} {channel : Channel} {connected : List Diagnostic}
    (h : Channel.connect s.channel w.link s.failFast = .ok (channel, connected)) :
    (connect s).on w = (.ok channel, w.note connected) := by
  rw [on_connect, h]

end Start

/-- The log of a session, and the files once it has this text: by what the settings ask for, and
whether the file can be opened. A log that cannot be opened is the one that keeps nothing. -/
inductive LogOf (l : Launch) (s : AuditSettings) : AuditLog → (Text → Files) → Prop where
  | notAskedFor (off : s.enabled = false) : LogOf l s (.disabled l.session) fun _ => l.files
  | notOpened {files : Files} {fault : FileError} (on : s.enabled = true)
      (opening : l.files.openForAppend (s.resolvePath l.environment) = (files, .error fault)) :
      LogOf l s (.disabled l.session) fun _ => files
  | opened {files : Files} {place : Place} (on : s.enabled = true)
      (opening : l.files.openForAppend (s.resolvePath l.environment) = (files, .ok place)) :
      LogOf l s (.onFile [] l.session) fun text => files.append place (Text.encodeUtf8 text)

/-- The files once the log of a session has a text. -/
def filesAfter (files : Files) : Option AuditFile → Text → Files
  | some file, text => files.append file.place (Text.encodeUtf8 text)
  | none, _ => files

/-- Opening the log cannot fail. Of all steps it alone changes the files. -/
theorem on_openAudit (l : Launch) (s : AuditSettings) (w : World) :
    ∃ file log files notes,
      (openAudit l s).on w = (.ok (file, log), { w.note notes with files }) ∧
        (w.files = l.files → LogOf l s log (filesAfter files file)) := by
  cases henabled : s.enabled with
  | false =>
    rw [openAudit, henabled]
    refine ⟨none, _, w.files, [], by rw [note_nil]; rfl, fun hfiles => ?_⟩
    rw [hfiles]
    exact .notAskedFor henabled
  | true =>
    cases hopening : w.files.openForAppend (s.resolvePath l.environment) with
    | mk files opened =>
      rw [openAudit, henabled, if_pos rfl, on_bind_get, hopening]
      cases opened with
      | error fault =>
        exact ⟨none, _, files, [.auditDisabled _ fault.message], rfl,
          fun hfiles => .notOpened henabled (hfiles ▸ hopening)⟩
      | ok place =>
        exact ⟨some ⟨_, place⟩, _, files, [], by rw [note_nil]; rfl,
          fun hfiles => .opened henabled (hfiles ▸ hopening)⟩

/-! ## Starts that fail leave nothing -/

theorem harmless_note {ds : List Diagnostic} (h : Quiet ds) : Harmless (note ds) :=
  fun _ => ⟨ds, h, rfl⟩

theorem harmless_loadSettings (l : Launch) (i : Invocation) : Harmless (loadSettings l i) := by
  intro w
  rw [on_loadSettings]
  split
  · exact ⟨[], quiet_nil, (note_nil w).symm⟩
  · refine ⟨_, fun command address hmem => ?_, rfl⟩
    obtain ⟨fault, -, hnote⟩ := List.mem_map.1 hmem
    cases fault <;> cases hnote

theorem harmless_buildCatalog (s : CatalogSettings) : Harmless (buildCatalog s) := by
  intro w
  rw [on_buildCatalog]
  exact ⟨[], quiet_nil, (note_nil w).symm⟩

theorem harmless_connect (s : AgentSettings) : Harmless (connect s) := by
  intro w
  rw [on_connect]
  split
  · exact ⟨[], quiet_nil, (note_nil w).symm⟩
  · next hconnect =>
    refine ⟨_, fun command address => ?_, rfl⟩
    rcases (channel_of_connect hconnect).2 with rfl | rfl <;> simp

/-- A start fails only while its steps do no harm. -/
theorem harmlessIfFailing_prepare (l : Launch) (i : Invocation) :
    HarmlessIfFailing (prepare l i) := by
  rw [prepare]
  refine (harmless_loadSettings l i).bind fun s => ?_
  refine (harmless_buildCatalog s.catalog).bind fun c => ?_
  refine (harmless_connect s.agent).bind fun channel => ?_
  refine (harmless_note (by simp [Quiet])).bind fun _ => ?_
  refine harmlessIfFailing_of_succeeds fun w => ?_
  obtain ⟨file, log, files, notes, hopen, -⟩ := on_openAudit l s.audit w
  exact ⟨_, _, on_bind_of_ok hopen⟩

theorem prepare_of_startFails (h : StartFails l i) :
    ∃ e w, (prepare l i).on l.world = (.error e, w) := by
  rw [prepare]
  cases hload : i.loadSettings l.files l.environment with
  | error e => exact ⟨_, _, on_bind_of_error (on_loadSettings_of_error (w := l.world) hload)⟩
  | ok loaded =>
    obtain ⟨s, ignored⟩ := loaded
    rw [on_bind_of_ok (on_loadSettings_of_ok (w := l.world) hload)]
    cases hbuild : s.catalog.build with
    | error e => exact ⟨_, _, on_bind_of_error (on_buildCatalog_of_error hbuild)⟩
    | ok c =>
      rw [on_bind_of_ok (on_buildCatalog_of_ok hbuild)]
      cases hconnect : Channel.connect s.agent.channel l.link s.agent.failFast with
      | error e => exact ⟨_, _, on_bind_of_error (on_connect_of_error hconnect)⟩
      | ok connected =>
        obtain ⟨huri, hreachable⟩ := connect_eq_ok_iff.1 ⟨_, _, hconnect⟩
        exact absurd h (Starts.not_startFails ⟨⟨ignored, hload⟩, hbuild, huri, hreachable⟩)

/-- What a start that fails leaves: no output, no line asked for, no command sent, and the link and
all files as they were. -/
structure Untouched (l : Launch) (o : Outcome) : Prop where
  output : o.output = []
  reads : o.reads = 0
  notSent : ∀ command address, .dispatching command address ∉ o.diagnostics
  link : o.link = l.link
  files : o.files = l.files

theorem runInvocation_of_error {e : StartError} {w : World}
    (h : (prepare l i).on l.world = (.error e, w)) :
    (runInvocation l i).ending = .failed e ∧ Untouched l (runInvocation l i) := by
  obtain ⟨notes, hquiet, rfl⟩ := harmlessIfFailing_prepare l i _ _ _ h
  rw [runInvocation, h]
  exact ⟨rfl, rfl, rfl, hquiet, rfl, rfl⟩

/-! ## Sessions -/

/-- The session of settings and a catalog, over the lines of the input, with a log. -/
def sessionOf (l : Launch) (s : Settings) (c : Catalog) (log : AuditLog) :
    Session Channel Console where
  agent := ⟨s.agent.channel, l.link⟩
  reader := { script := (LineInput.events l.input).1 }
  catalog := c
  display := ⟨l.world.console, styleOf l s.shell⟩
  prompt := s.shell.prompt
  audit := log

/-- What a run leaves that leaves off with a session, where its log makes the files. -/
structure Leaves (s : Session Channel Console) (filesWith : Text → Files) (o : Outcome) :
    Prop where
  output : o.output = s.display.writer.text
  link : o.link = s.agent.link
  reads : o.reads = s.reader.prompts
  files : o.files = filesWith s.audit.text

/-- A session on piped input is a run over its lines, unless they break the line editor. A fault of
the input is only noted. -/
theorem conduct_of_not_breaks (s : Session Channel Console) {input : Bytes}
    (h : ¬LineInput.Breaks input) :
    ∃ notes, conduct s input =
      (.completed, { ({ s with reader := { s.reader with script := (LineInput.events input).1 } } :
        Session Channel Console).run.2 with diagnostics := notes }) := by
  rw [conduct, Session.run]
  dsimp only
  split
  · next hexit hending =>
    rw [Session.serve_eq] at hexit
    exact absurd ⟨hending, Script.exit_eq_endOfInput_iff.1 hexit⟩ h
  · exact ⟨_, rfl⟩
  · exact ⟨_, rfl⟩

theorem conduct_of_breaks (s : Session Channel Console) {input : Bytes}
    (h : LineInput.Breaks input) :
    conduct s input =
      (.crashed, ({ s with reader := { s.reader with script := (LineInput.events input).1 } } :
        Session Channel Console).serve.2) := by
  obtain ⟨hending, hquits⟩ := h
  rw [conduct]
  dsimp only
  rw [hending, Session.serve_eq, Script.exit_eq_endOfInput_iff.2 hquits]

theorem serve_with_notes (s : Session Channel Console) (awaiting notes : List Diagnostic) :
    ∃ after, ({ s with awaiting, diagnostics := notes } : Session Channel Console).serve.2 =
      { s.serve.2 with awaiting, diagnostics := after } := by
  rw [Session.serve_eq, Session.serve_eq]
  exact ⟨_, rfl⟩

theorem run_with_notes (s : Session Channel Console) (awaiting notes : List Diagnostic) :
    ∃ after, ({ s with awaiting, diagnostics := notes } : Session Channel Console).run.2 =
      { s.run.2 with awaiting, diagnostics := after } := by
  rw [Session.run_eq, Session.run_eq]
  exact ⟨_, rfl⟩

theorem prepare_of_starts {s : Settings} {c : Catalog} (h : Starts l i s c) :
    ∃ file log files notes,
      (prepare l i).on l.world =
        (.ok
          { session :=
              { sessionOf l s c log with
                reader := {}, awaiting := [awaitingNote l.environment], diagnostics := notes }
            auditFile := file },
          { l.world.note notes with files }) ∧
        LogOf l s.audit log (filesAfter files file) := by
  obtain ⟨⟨ignored, hload⟩, hbuild, huri, hreachable⟩ := h
  obtain ⟨channel, connected, hconnect⟩ := connect_eq_ok_iff.2 ⟨huri, hreachable⟩
  obtain ⟨rfl, -⟩ := channel_of_connect hconnect
  rw [prepare, on_bind_of_ok (on_loadSettings_of_ok (w := l.world) hload),
    on_bind_of_ok (on_buildCatalog_of_ok hbuild), on_bind_of_ok (on_connect_of_ok hconnect),
    on_bind_of_ok (on_note _), note_note, note_note]
  obtain ⟨file, log, files, notes, hopen, hlog⟩ := on_openAudit l s.audit (l.world.note _)
  rw [note_note] at hopen
  exact ⟨file, log, files, _, on_bind_of_ok hopen, hlog rfl⟩

theorem runInvocation_of_conduct {p : Prepared} {w : World} {ending : Ending}
    {s : Session Channel Console} (hprepare : (prepare l i).on l.world = (.ok p, w))
    (hconduct : conduct p.session l.input = (ending, s)) :
    runInvocation l i = (w.after s p.auditFile).outcome ending := by
  rw [runInvocation, hprepare]
  dsimp only
  rw [hconduct]

/-- A session that starts is conducted, with its end or up to the line that breaks the editor. -/
theorem leaves_of_starts {s : Settings} {c : Catalog} (h : Starts l i s c) :
    ∃ log filesWith, LogOf l s.audit log filesWith ∧
      (¬LineInput.Breaks l.input → (runInvocation l i).ending = .completed ∧
        Leaves (sessionOf l s c log).run.2 filesWith (runInvocation l i)) ∧
      (LineInput.Breaks l.input → (runInvocation l i).ending = .crashed ∧
        Leaves (sessionOf l s c log).serve.2 filesWith (runInvocation l i)) := by
  obtain ⟨file, log, files, notes, hprepare, hlog⟩ := prepare_of_starts h
  have hfiles : ∀ (w : World) (t : Session Channel Console), w.files = files →
      (w.after t file).files = filesAfter files file t.audit.text := by
    rintro w t rfl
    cases file <;> rfl
  -- the prepared session is that of the settings up to its notes, which `Leaves` does not look at
  refine ⟨log, _, hlog, fun hreads => ?_, fun hbreaks => ?_⟩
  · obtain ⟨notes', hconduct⟩ := conduct_of_not_breaks
      { sessionOf l s c log with
        reader := {}, awaiting := [awaitingNote l.environment], diagnostics := notes } hreads
    obtain ⟨after, hrun⟩ :=
      run_with_notes (sessionOf l s c log) [awaitingNote l.environment] notes
    have hsession := hconduct.trans (congrArg (fun t : Session Channel Console =>
      (Ending.completed, { t with diagnostics := notes' })) hrun)
    rw [runInvocation_of_conduct hprepare hsession]
    exact ⟨rfl, rfl, rfl, rfl, hfiles _ _ rfl⟩
  · obtain ⟨after, hserve⟩ :=
      serve_with_notes (sessionOf l s c log) [awaitingNote l.environment] notes
    have hsession := (conduct_of_breaks
      { sessionOf l s c log with
        reader := {}, awaiting := [awaitingNote l.environment], diagnostics := notes }
      hbreaks).trans (congrArg (Ending.crashed, ·) hserve)
    rw [runInvocation_of_conduct hprepare hsession]
    exact ⟨rfl, rfl, rfl, rfl, hfiles _ _ rfl⟩

/-- **How an accepted command line ends.** The program fails at its start exactly if one of four
things is wrong: the settings, the catalog, the address of the agent, or the agent that is to be
contacted at once. It has then touched nothing. In every other case it conducts the session, whatever
comes of the commands, and does not fail, unless a line breaks the line editor; a log that cannot be
opened is one that keeps nothing. Only a cluster of 256 bytes or more can break the line editor. -/
theorem run_fails_only_at_start (l : Launch) (arguments : List Text) (i : Invocation)
    (accepted : Invocation.parse l.environment arguments = .ok (.invocation i)) :
    ((run l arguments).ending.exitCode = 1 ↔ StartFails l i) ∧
      (StartFails l i → Untouched l (run l arguments)) ∧
      (¬StartFails l i → ∃ s c log filesWith, Starts l i s c ∧ LogOf l s.audit log filesWith ∧
        (¬LineInput.Breaks l.input → (run l arguments).ending.exitCode = 0 ∧
          Leaves (sessionOf l s c log).run.2 filesWith (run l arguments)) ∧
        (LineInput.Breaks l.input → (run l arguments).ending.exitCode = 101 ∧
          Leaves (sessionOf l s c log).serve.2 filesWith (run l arguments))) ∧
      (LineInput.ShortClusters l.input → ¬LineInput.Breaks l.input) := by
  have hrun : run l arguments = runInvocation l i := by rw [run, accepted]
  rw [hrun]
  rcases startFails_or_starts l i with hfails | ⟨s, c, hstarts⟩
  · obtain ⟨e, w, hprepare⟩ := prepare_of_startFails hfails
    obtain ⟨hending, huntouched⟩ := runInvocation_of_error hprepare
    refine ⟨⟨fun _ => hfails, fun _ => ?_⟩, fun _ => huntouched, fun hnot => absurd hfails hnot,
      LineInput.not_breaks_of_shortClusters⟩
    rw [hending]
    rfl
  · have hnot := hstarts.not_startFails
    obtain ⟨log, filesWith, hlog, hcompletes, hcrashes⟩ := leaves_of_starts hstarts
    refine ⟨⟨fun hone => ?_, fun hfails => absurd hfails hnot⟩, fun hfails => absurd hfails hnot,
      fun _ => ⟨s, c, log, filesWith, hstarts, hlog, fun hreads => ?_, fun hbreaks => ?_⟩,
      LineInput.not_breaks_of_shortClusters⟩
    · by_cases hbreaks : LineInput.Breaks l.input
      · rw [(hcrashes hbreaks).1] at hone
        cases hone
      · rw [(hcompletes hbreaks).1] at hone
        cases hone
    · obtain ⟨hending, hleaves⟩ := hcompletes hreads
      exact ⟨by rw [hending]; rfl, hleaves⟩
    · obtain ⟨hending, hleaves⟩ := hcrashes hbreaks
      exact ⟨by rw [hending]; rfl, hleaves⟩

/-- An agent that cannot be reached, and an audit log below a file. If the agent is to be contacted
at once, the program fails and leaves even the directories of the log unmade; if not, it runs its
session, in which the command fails. -/
theorem run_fails_only_at_start_unreachable :
    let l : Launch :=
      { environment := [("HOME".toList, "h".toList)]
        files := { root := .dir [("h".toList, .file [])] }
        input := Text.encodeUtf8 "add-route 1\nquit\n".toList }
    let eager := ["--audit", "--fail-fast"].map String.toList
    let patient := ["--audit"].map String.toList
    Invocation.parse l.environment eager = .ok (.invocation { audit := true, failFast := true }) ∧
      (run l eager).ending.exitCode = 1 ∧ Untouched l (run l eager) ∧
      Invocation.parse l.environment patient = .ok (.invocation { audit := true }) ∧
      (run l patient).ending.exitCode = 0 ∧ (run l patient).reads = 2 := by
  intro l eager patient
  have heager : Invocation.parse l.environment eager =
      .ok (.invocation { audit := true, failFast := true }) := rfl
  have hpatient : Invocation.parse l.environment patient = .ok (.invocation { audit := true }) :=
    rfl
  obtain ⟨hcode, huntouched, -⟩ := run_fails_only_at_start l eager _ heager
  obtain ⟨-, -, hruns, -⟩ := run_fails_only_at_start l patient _ hpatient
  have hload : Invocation.loadSettings { audit := true, failFast := true } l.files l.environment =
      .ok ({ agent := { failFast := true }, audit := { enabled := true } }, none) :=
    toOption_eq_some_iff.1 (by decide +kernel)
  have hload' : Invocation.loadSettings { audit := true } l.files l.environment =
      .ok ({ audit := { enabled := true } }, none) :=
    toOption_eq_some_iff.1 (by decide +kernel)
  have hfails := StartFails.unreachable hload rfl rfl
  have hstarts : Starts l { audit := true } { audit := { enabled := true } } (.builtin .packet) :=
    ⟨⟨_, hload'⟩, rfl, ⟨_, rfl⟩, fun h => nomatch h⟩
  have hreads : ¬LineInput.Breaks l.input := fun hbreaks =>
    absurd hbreaks.1 (by decide +kernel)
  obtain ⟨_, _, _, _, -, -, hcompletes, -⟩ := hruns hstarts.not_startFails
  exact ⟨heager, hcode.2 hfails, huntouched hfails, hpatient, (hcompletes hreads).1,
    by decide +kernel⟩

/-- A cluster of 257 bytes counts as one of a single byte, so the backspace after it falls inside a
mark. The program has started well, and does not come to the line that quits. -/
theorem run_crashes_inside_cluster :
    let l : Launch :=
      { environment := [("XDG_CONFIG_HOME".toList, "x".toList)]
        files :=
          { root := .dir [("x".toList, .dir [("jp4cli".toList, .dir [("config.toml".toList,
              .file (Text.encodeUtf8 "[agent\n".toList))])])] }
        input := Text.encodeUtf8 ('e' :: List.replicate 128 '\u0301' ++ "\x08\nquit\n".toList) }
    Invocation.parse l.environment [] = .ok (.invocation {}) ∧ ¬StartFails l {} ∧
      LineInput.Breaks l.input ∧ (run l []).ending.exitCode = 101 ∧ (run l []).output = [] := by
  intro l
  have hload : (Invocation.loadSettings {} l.files l.environment).toOption.map Prod.fst =
      some {} := by decide +kernel
  obtain ⟨⟨s, ignored⟩, hloaded, rfl⟩ := Option.map_eq_some_iff.1 hload
  have hstarts : Starts l {} {} (.builtin .packet) :=
    ⟨⟨ignored, toOption_eq_some_iff.1 hloaded⟩, rfl, ⟨_, rfl⟩, fun h => nomatch h⟩
  have hevents : LineInput.events l.input = ([], .broken) := by decide +kernel
  have hbreaks : LineInput.Breaks l.input := by
    rw [LineInput.Breaks, hevents]
    exact ⟨rfl, Script.exit_eq_endOfInput_iff.1 rfl⟩
  exact ⟨rfl, hstarts.not_startFails, hbreaks, by decide +kernel, by decide +kernel⟩

end OperatorShell.Shell
