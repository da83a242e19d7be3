import OperatorShell.Proofs.Flags
import OperatorShell.Proofs.Rejection

/-!
# Layers of settings

A flag lies over the variable, the variable over the file, and the file over the standard settings.
Two rules are not like the others: a file that is named has to hold settings, while the default file
is passed over if it does not; and a vocabulary that is asked for takes the place of everything that
the file says about commands, so that a fault in it cannot be in the way.

* `Invocation.IsBase`: the settings under the options of an invocation.
* `Invocation.Layered`: settings over others, part by part.
* `Invocation.loadSettings_layers`: what an invocation runs with.
-/

namespace OperatorShell

/-! ## Vocabularies -/

theorem CatalogSettings.build_vocabulary (v : Vocabulary) :
    CatalogSettings.build { vocabulary := v } = .ok (Catalog.builtin v) :=
  CatalogSettings.build_of_no_commands rfl

namespace Invocation

/-! ## Layers -/

/-- The settings under the options: those of the file that a flag names, or those of the default
file, or the standard ones if the default file cannot be read or holds none. -/
inductive IsBase (flags : Invocation) (fs : Files) (env : Environment) : Settings → Prop where
  | named {path : Text} {base : Settings} (hflag : flags.config = some path)
      (hload : Settings.load fs path = .ok base) : IsBase flags fs env base
  | default {base : Settings} (hflag : flags.config = none)
      (hload : Settings.load fs (Settings.defaultPath env) = .ok base) : IsBase flags fs env base
  | standard {e : Settings.LoadError} (hflag : flags.config = none)
      (hload : Settings.load fs (Settings.defaultPath env) = .error e) :
      IsBase flags fs env .standard

/-- Settings that flags and the variable lay over others. -/
structure Layered (flags : Invocation) (env : Environment) (base s : Settings) : Prop where
  address : s.agent.address =
    (flags.address <|> env.get? addressVariable).getD base.agent.address
  timeout : s.agent.timeout = flags.timeout.getD base.agent.timeout
  failFast : s.agent.failFast = true ↔ flags.failFast = true ∨ base.agent.failFast = true
  auditEnabled : s.audit.enabled = true ↔ flags.audit = true ∨ base.audit.enabled = true
  color : s.shell.color = true ↔ flags.noColor = false ∧ base.shell.color = true
  connectTimeout : s.agent.connectTimeout = base.agent.connectTimeout
  cancelOnInterrupt : s.agent.cancelOnInterrupt = base.agent.cancelOnInterrupt
  prompt : s.shell.prompt = base.shell.prompt
  auditPath : s.audit.path = base.audit.path
  catalog : flags.vocabulary = none → s.catalog = base.catalog
  /-- Whatever the commands and the prefix of the file are. -/
  vocabulary : ∀ v, flags.vocabulary = some v → s.catalog.build = .ok (Catalog.builtin v)

theorem layered_applyTo {flags i : Invocation} {env : Environment} (base : Settings)
    (hi : i = { flags with address := flags.address <|> env.get? addressVariable }) :
    Layered flags env base (i.applyTo base) := by
  subst hi
  refine ⟨rfl, rfl, ?_, ?_, ?_, rfl, rfl, rfl, rfl, ?_, ?_⟩
  · simp [applyTo]
  · simp [applyTo]
  · simp [applyTo]
  · intro hnone
    simp [applyTo, chooseVocabulary, hnone]
  · intro v hv
    simp only [applyTo, chooseVocabulary, hv]
    exact CatalogSettings.build_vocabulary v

theorem loadSettings_of_named (fs : Files) (env : Environment) {i : Invocation} {path : Text}
    (hflag : i.config = some path) :
    i.loadSettings fs env = (Settings.load fs path).map fun s => (i.applyTo s, none) := by
  rw [loadSettings, hflag]

theorem loadSettings_of_default (fs : Files) (env : Environment) {i : Invocation}
    (hflag : i.config = none) :
    i.loadSettings fs env = .ok (i.applyTo (Settings.loadOrStandard fs env).1,
      (Settings.loadOrStandard fs env).2) := by
  rw [loadSettings, hflag]

theorem isBase_loadOrStandard {flags : Invocation} {fs : Files} {env : Environment}
    (hflag : flags.config = none) : IsBase flags fs env (Settings.loadOrStandard fs env).1 := by
  rw [Settings.loadOrStandard]
  cases hload : Settings.load fs (Settings.defaultPath env) with
  | ok base => exact .default hflag hload
  | error e =>
    cases e with
    | unreadable path fault => exact .standard hflag hload
    | unparsable path fault => exact .standard hflag hload

/-- **Layers of settings.** A command line that is accepted has no settings exactly if it names a
file that holds none, and then for the fault of that file. Otherwise there are settings under it,
and what it runs with are its flags and the variable laid over these. -/
theorem loadSettings_layers (fs : Files) (env : Environment) (arguments : List Text)
    (i : Invocation) (haccepted : parse env arguments = .ok (.invocation i)) :
    ∃ flags, parse [] arguments = .ok (.invocation flags) ∧
      (∀ e, i.loadSettings fs env = .error e ↔
        ∃ path, flags.config = some path ∧ Settings.load fs path = .error e) ∧
      ((∃ e, i.loadSettings fs env = .error e) ∨
        ∃ base s fault, IsBase flags fs env base ∧ i.loadSettings fs env = .ok (s, fault) ∧
          Layered flags env base s) := by
  obtain ⟨flags, hflags, hi⟩ := exists_flags_of_parse haccepted
  have hconfig : i.config = flags.config := by rw [hi]
  refine ⟨flags, hflags, ?_⟩
  cases hflag : flags.config with
  | none =>
    have hload := loadSettings_of_default fs env (hconfig.trans hflag)
    refine ⟨fun e => ?_, .inr ?_⟩
    · simp [hload]
    · exact ⟨_, _, _, isBase_loadOrStandard hflag, hload, layered_applyTo _ hi⟩
  | some path =>
    have hload := loadSettings_of_named fs env (hconfig.trans hflag)
    cases hfile : Settings.load fs path with
    | error e =>
      rw [hfile, Except.map] at hload
      refine ⟨fun e' => ?_, .inl ⟨e, hload⟩⟩
      simp [hload, hfile]
    | ok base =>
      rw [hfile, Except.map] at hload
      refine ⟨fun e => ?_, .inr ⟨base, _, _, .named hflag hfile, hload, layered_applyTo _ hi⟩⟩
      simp [hload, hfile]

/-- A vocabulary that is asked for, the address of the variable and a timeout of zero, over a named
file that has another address, asks for an early connection, and has commands of which no catalog
can be made. -/
theorem loadSettings_layers_over_refused_commands :
    let document := "[agent]\naddress = 'a:1'\nfail_fast = true\n" ++
      "[catalog]\noutput_prefix = '=> '\n[[catalog.commands]]\nverb = 'help'\n"
    let fs : Files := { root := .dir [("s".toList, .file (Text.encodeUtf8 document.toList))] }
    let env : Environment := [(addressVariable, "b:2".toList)]
    let arguments := ["--config", "s", "--catalog=table", "--timeout-ms=0"].map String.toList
    let base : Settings :=
      { agent := { address := "a:1".toList, failFast := true }
        catalog := { replyPrefix := some "=> ".toList, commands := [⟨"help".toList, []⟩] } }
    ∃ i, parse env arguments = .ok (.invocation i) ∧ Settings.load fs "s".toList = .ok base ∧
      ¬(∃ c, base.catalog.build = .ok c) ∧
      ∃ s fault, i.loadSettings fs env = .ok (s, fault) ∧ s.agent.address = "b:2".toList ∧
        s.agent.timeout = 0 ∧ s.agent.failFast = true ∧
        s.catalog.build = .ok (Catalog.builtin .table) := by
  intro document fs env arguments base
  let flags : Invocation :=
    { config := some "s".toList, vocabulary := some .table, timeout := some 0 }
  have haccepted : parse env arguments =
      .ok (.invocation { flags with address := some "b:2".toList }) := rfl
  have hflags : parse [] arguments = .ok (.invocation flags) := rfl
  have hfile : Settings.load fs "s".toList = .ok base := by
    have hsome : (Settings.load fs "s".toList).toOption = some base := by decide +kernel
    cases hload : Settings.load fs "s".toList with
    | error e => rw [hload] at hsome; cases hsome
    | ok base' => rw [hload] at hsome; exact congrArg Except.ok (Option.some.inj hsome)
  obtain ⟨flags', hflags', hfails, hruns⟩ :=
    loadSettings_layers fs env arguments { flags with address := some "b:2".toList } haccepted
  obtain rfl : flags = flags' := by
    rw [hflags] at hflags'
    exact Asked.invocation.inj (Except.ok.inj hflags')
  refine ⟨_, haccepted, hfile, ?_, ?_⟩
  · rintro ⟨c, hc⟩
    cases hc
  · rcases hruns with ⟨e, he⟩ | ⟨base', s, fault, hbase, hload, hlayers⟩
    · obtain ⟨path, hpath, herror⟩ := (hfails e).1 he
      obtain rfl := Option.some.inj hpath
      rw [hfile] at herror
      cases herror
    · cases hbase with
      | named hpath hbase =>
        obtain rfl := Option.some.inj hpath
        rw [hfile] at hbase
        obtain rfl := Except.ok.inj hbase
        refine ⟨s, fault, hload, hlayers.address, hlayers.timeout, ?_, ?_⟩
        · exact hlayers.failFast.2 (.inr rfl)
        · exact hlayers.vocabulary .table rfl
      | default hpath => cases hpath
      | standard hpath => cases hpath

end Invocation

end OperatorShell
