import OperatorShell.Invocation
import Mathlib.Tactic.SplitIfs

/-!
# Flags and the variable beside them

An option of the shell can be given as a flag; the address can also come from a variable. The
variables play no part in reading the arguments: they matter only to a help text, which is shown in
place of an invocation. So what the flags of a command line say is what it asks for where no
variable is set, and a variable that is set adds the address and nothing else.

* `Arguments.readAll_env`: arguments read to their end are read in the same way under any variables.
* `Given.Valued`: an option that takes a value is never given without one.
* `Invocation.exists_flags_of_parse`: an invocation under variables, from its flags.
-/

namespace OperatorShell

theorem bind_eq_ok_iff {ε α β : Type} {x : Except ε α} {f : α → Except ε β} {b : β} :
    x >>= f = .ok b ↔ ∃ a, x = .ok a ∧ f a = .ok b := by
  cases x with
  | error e => simp [bind, Except.bind]
  | ok a => simp [bind, Except.bind]

theorem toOption_eq_some_iff {ε α : Type} {x : Except ε α} {a : α} :
    x.toOption = some a ↔ x = .ok a := by
  cases x with
  | error e => simp [Except.toOption]
  | ok a' => simp [Except.toOption]

/-- Whether an option was given with a value each time that it was given. -/
def Given.Valued (g : Given) (long : Text) : Prop := ∀ o ∈ g, o.1 = long → o.2.isSome = true

theorem Given.Valued.append {g g' : Given} {long : Text} (h : g.Valued long)
    (h' : g'.Valued long) : Given.Valued (g ++ g') long := by
  intro o ho
  rcases List.mem_append.1 ho with ho | ho
  · exact h o ho
  · exact h' o ho

namespace Arguments

variable {c : CommandSpec} {env env' : Environment} {p q : Progress} {o : OptionSpec} {long : Text}

/-! ## One option -/

theorem given_of_addValue {value : Text} (h : p.addValue o value = .ok q) :
    q.given = p.given ++ [(o.long, some value)] := by
  rw [Progress.addValue] at h
  obtain ⟨-, -, h⟩ := bind_eq_ok_iff.1 h
  split at h
  · split at h
    · cases h
    · cases h
      rfl
  · cases h

theorem refuseRepeated_of_fresh (h : p.given.has o.long = false) : p.refuseRepeated o = .ok () := by
  rw [Progress.refuseRepeated, ← Given.has, h]
  rfl

theorem addValue_of_allowed {label value : Text} {rule : ValueRule} {stands default : Option Text}
    (hrole : o.role = .value label rule stands default)
    (hallowed : rule.check o.display value = .ok ()) (hfresh : p.given.has o.long = false) :
    p.addValue o value = .ok { p with given := p.given ++ [(o.long, some value)] } := by
  rw [Progress.addValue, refuseRepeated_of_fresh hfresh]
  simp only [hrole, hallowed]
  rfl

theorem addSwitch_eq_ok_iff {spelled : Bool} :
    p.addSwitch c env spelled o = .ok q ↔ ∃ p', p.settle = .ok p' ∧
      ((o.role = .switch ∧ p'.refuseRepeated o = .ok () ∧
          q = { p' with given := p'.given ++ [(o.long, none)] }) ∨
        ((∃ label rule stands default, o.role = .value label rule stands default) ∧
          q = { p' with pending := some (o, none) })) := by
  rw [Progress.addSwitch, bind_eq_ok_iff]
  refine exists_congr fun p' => and_congr_right fun _ => ?_
  cases hrole : o.role with
  | help => simp [throw, throwThe, MonadExceptOf.throw]
  | version => simp [throw, throwThe, MonadExceptOf.throw]
  | switch =>
    dsimp only
    rw [bind_eq_ok_iff]
    constructor
    · rintro ⟨_, hfresh, hq⟩
      exact .inl ⟨rfl, hfresh, (Except.ok.inj hq).symm⟩
    · rintro (⟨-, hfresh, rfl⟩ | ⟨⟨label, rule, stands, default, hvalue⟩, -⟩)
      · exact ⟨(), hfresh, rfl⟩
      · cases hvalue
  | value label rule stands default => simp [pure, Except.pure, eq_comm]

theorem addSwitch_env {spelled : Bool} (h : p.addSwitch c env spelled o = .ok q) :
    p.addSwitch c env' spelled o = .ok q :=
  addSwitch_eq_ok_iff.2 (addSwitch_eq_ok_iff.1 h)

theorem valued_of_settle (h : p.settle = .ok q) (hp : p.given.Valued long) :
    q.given.Valued long := by
  rw [Progress.settle] at h
  split at h
  · cases h
    exact hp
  · cases h
  · rw [given_of_addValue h]
    refine hp.append ?_
    simp [Given.Valued]

theorem valued_of_addSwitch {spelled : Bool} (hswitch : o.role = .switch → o.long ≠ long)
    (h : p.addSwitch c env spelled o = .ok q) (hp : p.given.Valued long) :
    q.given.Valued long := by
  obtain ⟨p', hsettle, ⟨hrole, -, rfl⟩ | ⟨-, rfl⟩⟩ := addSwitch_eq_ok_iff.1 h
  · refine (valued_of_settle hsettle hp).append ?_
    intro g hg heq
    obtain rfl := List.mem_singleton.1 hg
    exact absurd heq (hswitch hrole)
  · have hp' : p'.given.Valued long := valued_of_settle hsettle hp
    exact hp'

/-! ## All arguments -/

theorem readLong_env {t : Text} (h : readLong c env p t = .ok q) :
    readLong c env' p t = .ok q := by
  rw [readLong] at h ⊢
  cases hlong : c.long? (splitLong t).1 with
  | none => simp [hlong] at h
  | some o =>
    cases hvalue : (splitLong t).2 with
    | none =>
      simp only [hlong, hvalue] at h ⊢
      exact addSwitch_env h
    | some value => simpa only [hlong, hvalue] using h

theorem readShort_env {t : Text} (h : readShort c env p t = .ok q) :
    readShort c env' p t = .ok q := by
  induction t generalizing p with
  | nil => exact h
  | cons letter rest ih =>
    rw [readShort] at h ⊢
    cases hshort : c.short? letter with
    | none => simp [hshort] at h
    | some o =>
      simp only [hshort] at h ⊢
      obtain ⟨p', hswitch, hrest⟩ := bind_eq_ok_iff.1 h
      exact bind_eq_ok_iff.2 ⟨p', addSwitch_env hswitch, ih hrest⟩

theorem readArgument_env {argument : Text} (h : readArgument c env p argument = .ok q) :
    readArgument c env' p argument = .ok q := by
  unfold readArgument at h ⊢
  split at h
  · exact readLong_env h
  · exact h
  · exact readShort_env h
  · exact h

theorem readAll_env {arguments : List Text} (h : readAll c env p arguments = .ok q) :
    readAll c env' p arguments = .ok q := by
  induction arguments generalizing p with
  | nil => exact h
  | cons argument rest ih =>
    rw [readAll.eq_def] at h ⊢
    dsimp only at h ⊢
    split_ifs at h ⊢ with hdashes
    · exact h
    · obtain ⟨p', hargument, hrest⟩ := bind_eq_ok_iff.1 h
      exact bind_eq_ok_iff.2 ⟨p', readArgument_env hargument, ih hrest⟩

section valued

variable (hswitch : ∀ o ∈ c.options, o.role = .switch → o.long ≠ long)
include hswitch

theorem valued_of_readLong {t : Text} (h : readLong c env p t = .ok q)
    (hp : p.given.Valued long) : q.given.Valued long := by
  rw [readLong] at h
  cases hlong : c.long? (splitLong t).1 with
  | none => simp [hlong] at h
  | some o =>
    have hmem : o ∈ c.options := List.mem_of_find?_eq_some hlong
    cases hvalue : (splitLong t).2 with
    | none =>
      simp only [hlong, hvalue] at h
      exact valued_of_addSwitch (hswitch o hmem) h hp
    | some value =>
      simp only [hlong, hvalue] at h
      split at h
      · obtain ⟨p', hsettle, hadd⟩ := bind_eq_ok_iff.1 h
        rw [given_of_addValue hadd]
        refine (valued_of_settle hsettle hp).append ?_
        simp [Given.Valued]
      · cases h

theorem valued_of_readShort {t : Text} (h : readShort c env p t = .ok q)
    (hp : p.given.Valued long) : q.given.Valued long := by
  induction t generalizing p with
  | nil =>
    cases h
    exact hp
  | cons letter rest ih =>
    rw [readShort] at h
    cases hshort : c.short? letter with
    | none => simp [hshort] at h
    | some o =>
      have hmem : o ∈ c.options := List.mem_of_find?_eq_some hshort
      simp only [hshort] at h
      obtain ⟨p', hadd, hrest⟩ := bind_eq_ok_iff.1 h
      exact ih hrest (valued_of_addSwitch (hswitch o hmem) hadd hp)

omit hswitch in
theorem given_of_readPlain {argument : Text} (h : readPlain p argument = .ok q) :
    q.given = p.given := by
  rw [readPlain] at h
  split at h
  · cases h
    rfl
  · cases h

theorem valued_of_readArgument {argument : Text} (h : readArgument c env p argument = .ok q)
    (hp : p.given.Valued long) : q.given.Valued long := by
  unfold readArgument at h
  split at h
  · exact valued_of_readLong hswitch h hp
  · exact given_of_readPlain h ▸ hp
  · exact valued_of_readShort hswitch h hp
  · exact given_of_readPlain h ▸ hp

theorem valued_of_readAll {arguments : List Text} (h : readAll c env p arguments = .ok q)
    (hp : p.given.Valued long) : q.given.Valued long := by
  induction arguments generalizing p with
  | nil => exact valued_of_settle h hp
  | cons argument rest ih =>
    rw [readAll.eq_def] at h
    dsimp only at h
    split_ifs at h with hdashes
    · cases rest with
      | nil => exact valued_of_settle h hp
      | cons next rest => cases h
    · obtain ⟨p', hargument, hrest⟩ := bind_eq_ok_iff.1 h
      exact ih hrest (valued_of_readArgument hswitch hargument hp)

end valued

end Arguments

/-! ## The address and its variable -/

/-- The variable that an option can come from. -/
def OptionSpec.standIn? (o : OptionSpec) : Option Text :=
  match o.role with
  | .value _ _ stands _ => stands
  | _ => none

/-- What was given, with an option from a variable unless the option was given itself. -/
def Given.withVariable (env : Environment) (name long : Text) (g : Given) : Given :=
  match env.get? name with
  | some value => if g.has long then g else g ++ [(long, some value)]
  | none => g

namespace Arguments

variable {env : Environment} {p : Progress}

theorem addVariable_of_none {o : OptionSpec} (h : o.standIn? = none) :
    addVariable env p o = .ok p := by
  rw [OptionSpec.standIn?] at h
  rw [addVariable]
  split at h
  · next hrole =>
    subst h
    simp only [hrole]
  · next hrole =>
    split
    · next hrole' => exact absurd hrole' (hrole _ _ _ _)
    · rfl

theorem foldlM_addVariable_of_none {os : List OptionSpec} (h : ∀ o ∈ os, o.standIn? = none) :
    os.foldlM (addVariable env) p = .ok p := by
  induction os with
  | nil => rfl
  | cons o os ih =>
    rw [List.foldlM_cons, addVariable_of_none (h o List.mem_cons_self)]
    exact ih fun o' ho' => h o' (List.mem_cons_of_mem _ ho')

theorem addVariable_anyText {o : OptionSpec} {label name : Text} {default : Option Text}
    (hrole : o.role = .value label .anyText (some name) default) :
    addVariable env p o = .ok { p with given := p.given.withVariable env name o.long } := by
  rw [addVariable, Given.withVariable]
  simp only [hrole]
  cases env.get? name with
  | none => rfl
  | some value =>
    dsimp only
    rw [← Given.has]
    split_ifs with hgiven
    · rfl
    · exact addValue_of_allowed hrole rfl (Bool.eq_false_iff.2 hgiven)

end Arguments

namespace Invocation

open Arguments

/-- The variable that the address can come from. -/
def addressVariable : Text := "JP4AGENT_ADDR".toList

theorem foldlM_addVariable (env : Environment) (p : Progress) :
    shellCommand.options.foldlM (addVariable env) p =
      .ok { p with given := p.given.withVariable env addressVariable "addr".toList } := by
  obtain ⟨o, hoptions, hrole, hlong⟩ : ∃ o : OptionSpec,
      shellCommand.options = shellCommand.options.take 1 ++ o :: shellCommand.options.drop 2 ∧
        o.role = .value "HOST:PORT".toList .anyText (some addressVariable) none ∧
        o.long = "addr".toList := ⟨_, rfl, rfl, rfl⟩
  have hbefore : ∀ o ∈ shellCommand.options.take 1, o.standIn? = none := by decide
  have hafter : ∀ o ∈ shellCommand.options.drop 2, o.standIn? = none := by decide
  rw [hoptions, List.foldlM_append, foldlM_addVariable_of_none hbefore]
  refine bind_eq_ok_iff.2 ⟨p, rfl, ?_⟩
  rw [List.foldlM_cons, addVariable_anyText hrole, hlong]
  exact bind_eq_ok_iff.2 ⟨_, rfl, foldlM_addVariable_of_none hafter⟩

theorem parse_eq_ok_iff {env : Environment} {arguments : List Text} {i : Invocation} :
    parse env arguments = .ok (.invocation i) ↔ ∃ p,
      readAll shellCommand env {} arguments = .ok p ∧
        i = ofGiven (p.given.withVariable env addressVariable "addr".toList) := by
  rw [parse, CommandSpec.parse]
  cases hread : readAll shellCommand env {} arguments with
  | error stop => cases stop <;> simp [bind, Except.bind, Except.map]
  | ok p => simp [bind, Except.bind, Except.map, foldlM_addVariable, eq_comm]

end Invocation

/-! ## Looking options up -/

namespace Given

variable {g : Given} {env : Environment} {name long other : Text}

theorem value?_append_of_ne {value : Option Text} (h : long ≠ other) :
    value? (g ++ [(long, value)]) other = g.value? other := by
  rw [value?, value?, List.find?_append]
  simp [h]

theorem has_append_of_ne {value : Option Text} (h : long ≠ other) :
    has (g ++ [(long, value)]) other = g.has other := by
  simp [has, h]

theorem value?_append_self {value : Text} (h : g.has long = false) :
    value? (g ++ [(long, some value)]) long = some value := by
  have hnone : g.find? (fun o => o.1 = long) = none := by
    simpa [has] using h
  rw [value?, List.find?_append, hnone]
  simp

theorem Valued.isSome_value? (h : g.Valued long) (hhas : g.has long = true) :
    (g.value? long).isSome = true := by
  rw [value?]
  cases hfind : g.find? (fun o => o.1 = long) with
  | none =>
    have hnot : g.has long = false := by simpa [has] using hfind
    simp [hnot] at hhas
  | some o =>
    have hlong : o.1 = long := by simpa using List.find?_some hfind
    exact h o (List.mem_of_find?_eq_some hfind) hlong

theorem value?_of_not_has (h : g.has long = false) : g.value? long = none := by
  have hnone : g.find? (fun o => o.1 = long) = none := by
    simpa [has] using h
  rw [value?, hnone, Option.bind_none]

theorem value?_withVariable (h : g.Valued long) :
    (g.withVariable env name long).value? long = (g.value? long <|> env.get? name) := by
  rw [withVariable]
  cases env.get? name with
  | none => simp
  | some value =>
    dsimp only
    split_ifs with hhas
    · obtain ⟨flag, hflag⟩ := Option.isSome_iff_exists.1 (h.isSome_value? hhas)
      simp [hflag]
    · have hnot : g.has long = false := by simpa using hhas
      rw [value?_append_self hnot, value?_of_not_has hnot]
      rfl

theorem value?_withVariable_of_ne (h : long ≠ other) :
    (g.withVariable env name long).value? other = g.value? other := by
  rw [withVariable]
  split
  · split_ifs
    · rfl
    · exact value?_append_of_ne h
  · rfl

theorem has_withVariable_of_ne (h : long ≠ other) :
    (g.withVariable env name long).has other = g.has other := by
  rw [withVariable]
  split
  · split_ifs
    · rfl
    · exact has_append_of_ne h
  · rfl

end Given

namespace Invocation

open Arguments

theorem ofGiven_withVariable {env : Environment} {g : Given} (h : g.Valued "addr".toList) :
    ofGiven (g.withVariable env addressVariable "addr".toList) =
      { ofGiven g with address := (ofGiven g).address <|> env.get? addressVariable } := by
  have hne : ∀ other ∈ ["config".toList, "catalog".toList, "timeout-ms".toList,
      "fail-fast".toList, "audit".toList, "no-color".toList, "verbose".toList],
      "addr".toList ≠ other := by decide
  simp only [List.forall_mem_cons] at hne
  obtain ⟨hconfig, hcatalog, htimeout, hfailFast, haudit, hnoColor, hverbose, -⟩ := hne
  rw [ofGiven, ofGiven, Given.value?_withVariable h, Given.value?_withVariable_of_ne hconfig,
    Given.value?_withVariable_of_ne hcatalog, Given.value?_withVariable_of_ne htimeout,
    Given.has_withVariable_of_ne hfailFast, Given.has_withVariable_of_ne haudit,
    Given.has_withVariable_of_ne hnoColor, Given.has_withVariable_of_ne hverbose]

theorem valued_address {env : Environment} {arguments : List Text} {p : Progress}
    (h : readAll shellCommand env {} arguments = .ok p) : p.given.Valued "addr".toList := by
  refine valued_of_readAll ?_ h ?_
  · decide
  · simp [Given.Valued]

/-- **An invocation is its flags and the variable.** What a command line asks for is what it asks
for by itself, with the address of the variable where no address was given. -/
theorem exists_flags_of_parse {env : Environment} {arguments : List Text} {i : Invocation}
    (h : parse env arguments = .ok (.invocation i)) :
    ∃ flags, parse [] arguments = .ok (.invocation flags) ∧
      i = { flags with address := flags.address <|> env.get? addressVariable } := by
  obtain ⟨p, hread, rfl⟩ := parse_eq_ok_iff.1 h
  refine ⟨ofGiven p.given, parse_eq_ok_iff.2 ⟨p, readAll_env hread, rfl⟩, ?_⟩
  exact ofGiven_withVariable (valued_address hread)

theorem parse_of_flags {arguments : List Text} {flags : Invocation}
    (h : parse [] arguments = .ok (.invocation flags)) (env : Environment) :
    parse env arguments = .ok (.invocation
      { flags with address := flags.address <|> env.get? addressVariable }) := by
  obtain ⟨p, hread, hflags⟩ := parse_eq_ok_iff.1 h
  obtain rfl : flags = ofGiven p.given := hflags
  refine parse_eq_ok_iff.2 ⟨p, readAll_env hread, ?_⟩
  exact (ofGiven_withVariable (valued_address hread)).symm

end Invocation

end OperatorShell
