import Mathlib.Data.List.Nodup
import Mathlib.Data.List.Perm.Basic
import Mathlib.Data.List.TakeWhile
import OperatorShell.Proofs.Flags
import OperatorShell.Proofs.Numeral
import OperatorShell.Proofs.Words

/-!
# Command lines written from invocations

A command line says each option in one argument: an option with its value behind an equals sign, or
a switch by its long or its short form. The first equals sign ends the name, and what is behind it is
not looked into; so such arguments say the same in any order, whatever their values look like.

* `Arguments.Says`: an argument that says an option.
* `Arguments.readAll_said`: arguments that say distinct options are read as those options.
* `Invocation.arguments`: a command line for an invocation.
* `Invocation.parse_arguments`: it asks for that invocation, in any order of its arguments.
-/

namespace OperatorShell

theorem Given.has_eq_false_iff {g : Given} {long : Text} :
    g.has long = false ↔ long ∉ g.map Prod.fst := by
  simp only [has, List.any_eq_false, decide_eq_true_eq, List.mem_map, not_exists, not_and]

namespace Arguments

variable {c : CommandSpec} {env : Environment} {g : Given} {argument : Text}

/-! ## Options said one by one -/

/-- An argument says an option: by its name and a value, or that it is on. -/
inductive Says (c : CommandSpec) : Text → Text × Option Text → Prop where
  | value {long value label : Text} {o : OptionSpec} {rule : ValueRule}
      {stands default : Option Text} (named : c.long? long = some o) (plain : '=' ∉ long)
      (role : o.role = .value label rule stands default)
      (allowed : rule.check o.display value = .ok ()) :
      Says c ("--".toList ++ long ++ '=' :: value) (long, some value)
  | switch {long : Text} {o : OptionSpec} (named : c.long? long = some o) (plain : '=' ∉ long)
      (nonempty : long ≠ []) (role : o.role = .switch) : Says c ("--".toList ++ long) (long, none)
  | letter {letter : Char} {long : Text} {o : OptionSpec} (named : c.short? letter = some o)
      (same : o.long = long) (notDash : letter ≠ '-') (role : o.role = .switch) :
      Says c ['-', letter] (long, none)

theorem splitLong_append {long : Text} (h : '=' ∉ long) (value : Text) :
    splitLong (long ++ '=' :: value) = (long, some value) := by
  have hname := Text.decide_ne_of_not_mem h
  rw [splitLong, List.takeWhile_append_of_pos hname, List.dropWhile_append_of_pos hname]
  simp

theorem splitLong_of_plain {long : Text} (h : '=' ∉ long) : splitLong long = (long, none) := by
  have hname := Text.decide_ne_of_not_mem h
  rw [splitLong, List.takeWhile_eq_self_iff.2 hname, List.dropWhile_eq_nil_iff.2 hname]

theorem long_of_long? {long : Text} {o : OptionSpec} (h : c.long? long = some o) :
    o.long = long := by
  simpa using List.find?_some h

theorem addSwitch_of_fresh {spelled : Bool} {o : OptionSpec} (hrole : o.role = .switch)
    (hfresh : g.has o.long = false) :
    Progress.addSwitch c env spelled ⟨g, none⟩ o = .ok ⟨g ++ [(o.long, none)], none⟩ :=
  addSwitch_eq_ok_iff.2 ⟨⟨g, none⟩, rfl, .inl ⟨hrole, refuseRepeated_of_fresh hfresh, rfl⟩⟩

theorem readArgument_said {o : Text × Option Text} (h : Says c argument o)
    (hfresh : g.has o.1 = false) :
    readArgument c env ⟨g, none⟩ argument = .ok ⟨g ++ [o], none⟩ := by
  cases h with
  | @value long value label o rule stands default named plain role allowed =>
    show readLong c env ⟨g, none⟩ (long ++ '=' :: value) = _
    obtain rfl := long_of_long? named
    rw [readLong, splitLong_append plain]
    simp only [named, role]
    exact addValue_of_allowed role allowed hfresh
  | @switch long o named plain nonempty role =>
    show readLong c env ⟨g, none⟩ long = _
    obtain rfl := long_of_long? named
    rw [readLong, splitLong_of_plain plain]
    simp only [named]
    exact addSwitch_of_fresh role hfresh
  | @letter letter long o named same notDash role =>
    obtain rfl := same
    have hshort : readArgument c env ⟨g, none⟩ ['-', letter] =
        readShort c env ⟨g, none⟩ [letter] := by
      rw [readArgument]
      · intro t heq
        exact notDash (List.cons.inj heq).1
      · exact List.cons_ne_nil letter []
    rw [hshort, readShort, named]
    exact bind_eq_ok_iff.2 ⟨_, addSwitch_of_fresh role hfresh, rfl⟩

theorem Says.ne_dashes {o : Text × Option Text} (h : Says c argument o) :
    argument ≠ "--".toList := by
  cases h with
  | value named plain role allowed => simp
  | switch named plain nonempty role => simpa using nonempty
  | letter named same notDash role => simpa using notDash

/-! ## Options said one after another -/

/-- **Reading what is said.** Arguments that say distinct options are read as those options. -/
theorem readAll_said {arguments : List Text} {os : Given}
    (h : List.Forall₂ (Says c) arguments os) (hkeys : ((g ++ os).map Prod.fst).Nodup) :
    readAll c env ⟨g, none⟩ arguments = .ok ⟨g ++ os, none⟩ := by
  induction h generalizing g with
  | nil =>
    rw [List.append_nil]
    rfl
  | @cons argument o arguments os hsaid hrest ih =>
    have hfresh : g.has o.1 = false := by
      rw [List.map_append, List.map_cons] at hkeys
      exact Given.has_eq_false_iff.2 fun hmem =>
        List.disjoint_of_nodup_append hkeys hmem List.mem_cons_self
    rw [List.append_cons] at hkeys ⊢
    rw [readAll.eq_def]
    dsimp only
    rw [if_neg hsaid.ne_dashes]
    exact bind_eq_ok_iff.2 ⟨_, readArgument_said hsaid hfresh, ih hkeys⟩

end Arguments

/-! ## Options in any order -/

namespace Given

/-- What is said of a switch: that it is on, or nothing. -/
def ofSwitch (on : Bool) : Option (Option Text) := if on then some none else none

/-- What is given where something is said of some options, and nothing of the others. -/
def ofChoices (choices : List (Text × Option (Option Text))) : Given :=
  choices.filterMap fun choice => choice.2.map (choice.1, ·)

variable {choices : List (Text × Option (Option Text))} {g : Given} {long : Text}
  {said : Option (Option Text)}

theorem mem_ofChoices {o : Text × Option Text} :
    o ∈ ofChoices choices ↔ (o.1, some o.2) ∈ choices := by
  rw [ofChoices, List.mem_filterMap]
  constructor
  · rintro ⟨⟨long, said⟩, hmem, hsaid⟩
    obtain ⟨value, rfl, rfl⟩ := Option.map_eq_some_iff.1 hsaid
    exact hmem
  · intro hmem
    exact ⟨_, hmem, rfl⟩

theorem nodup_ofChoices (h : (choices.map Prod.fst).Nodup) :
    ((ofChoices choices).map Prod.fst).Nodup := by
  rw [List.Nodup, List.pairwise_map] at h ⊢
  refine List.pairwise_filterMap.2 (h.imp ?_)
  intro choice choice' hne o ho o' ho'
  obtain ⟨_, -, rfl⟩ := Option.map_eq_some_iff.1 ho
  obtain ⟨_, -, rfl⟩ := Option.map_eq_some_iff.1 ho'
  exact hne

theorem find?_of_perm (hkeys : (choices.map Prod.fst).Nodup) (hperm : g.Perm (ofChoices choices))
    (h : (long, said) ∈ choices) : g.find? (fun o => o.1 = long) = said.map (long, ·) := by
  have hmem : ∀ {o : Text × Option Text}, o ∈ g ↔ (o.1, some o.2) ∈ choices :=
    hperm.mem_iff.trans mem_ofChoices
  cases hfind : g.find? (fun o => o.1 = long) with
  | some o =>
    obtain rfl : o.1 = long := by simpa using List.find?_some hfind
    have hsame := List.inj_on_of_nodup_map hkeys h
      (hmem.1 (List.mem_of_find?_eq_some hfind)) rfl
    obtain rfl : said = some o.2 := (Prod.mk.inj hsame).2
    rfl
  | none =>
    cases said with
    | none => rfl
    | some value =>
      have hgiven : (long, value) ∈ g := hmem.2 h
      exact absurd (List.find?_eq_none.1 hfind _ hgiven) (by simp)

theorem value?_of_perm (hkeys : (choices.map Prod.fst).Nodup) (hperm : g.Perm (ofChoices choices))
    {value : Option Text} (h : (long, value.map some) ∈ choices) : g.value? long = value := by
  rw [value?, find?_of_perm hkeys hperm h]
  cases value <;> rfl

theorem has_of_perm (hkeys : (choices.map Prod.fst).Nodup) (hperm : g.Perm (ofChoices choices))
    {on : Bool} (h : (long, ofSwitch on) ∈ choices) : g.has long = on := by
  rw [has, ← List.isSome_find?, find?_of_perm hkeys hperm h, Option.isSome_map]
  cases on <;> rfl

theorem eq_none_of_ofSwitch {on : Bool} {value : Option Text} (h : some value = ofSwitch on) :
    value = none := by
  cases on with
  | false => cases h
  | true => exact Option.some.inj h

end Given

/-! ## The command line of the shell -/

namespace Invocation

open Arguments

/-- The options of the shell, with what is said of each. -/
def choices (i : Invocation) : List (Text × Option (Option Text)) := [
  ("config".toList, i.config.map some),
  ("addr".toList, i.address.map some),
  ("catalog".toList, (i.vocabulary.map Vocabulary.name).map some),
  ("timeout-ms".toList, (i.timeout.map Text.decimal).map some),
  ("fail-fast".toList, Given.ofSwitch i.failFast),
  ("audit".toList, Given.ofSwitch i.audit),
  ("no-color".toList, Given.ofSwitch i.noColor),
  ("verbose".toList, Given.ofSwitch i.verbose)]

/-- The argument for an option: `--name=value`, or `--name` for a switch. With `short`, the one
switch that has a short form is said by it. -/
def argumentOf (short : Bool) : Text × Option Text → Text
  | (long, some value) => "--".toList ++ long ++ '=' :: value
  | (long, none) =>
    if short ∧ long = "verbose".toList then "-v".toList else "--".toList ++ long

/-- A command line that says all options of an invocation, each once. -/
def arguments (short : Bool) (i : Invocation) : List Text :=
  (Given.ofChoices i.choices).map (argumentOf short)

theorem nodup_choices (i : Invocation) : (i.choices.map Prod.fst).Nodup := by
  have hkeys : ["config".toList, "addr".toList, "catalog".toList, "timeout-ms".toList,
      "fail-fast".toList, "audit".toList, "no-color".toList, "verbose".toList].Nodup := by decide
  exact hkeys

/-- What the options can hold: a path is not empty, and a number fits into a word. -/
structure Sayable (i : Invocation) : Prop where
  config : i.config ≠ some []
  timeout : ∀ ms ∈ i.timeout, ms ≤ Text.maxWord64

variable {i : Invocation} {env : Environment} {g : Given}

theorem ofGiven_of_perm (h : i.Sayable) (hperm : g.Perm (Given.ofChoices i.choices)) :
    ofGiven g = i := by
  have hvalue {long value} (hmem : (long, value.map some) ∈ i.choices) : g.value? long = value :=
    Given.value?_of_perm i.nodup_choices hperm hmem
  have hhas {long on} (hmem : (long, Given.ofSwitch on) ∈ i.choices) : g.has long = on :=
    Given.has_of_perm i.nodup_choices hperm hmem
  have hconfig : g.value? "config".toList = i.config := hvalue (by simp [choices])
  have haddress : g.value? "addr".toList = i.address := hvalue (by simp [choices])
  have hcatalog : g.value? "catalog".toList = i.vocabulary.map Vocabulary.name :=
    hvalue (by simp [choices])
  have htimeout : g.value? "timeout-ms".toList = i.timeout.map Text.decimal :=
    hvalue (by simp [choices])
  have hfailFast : g.has "fail-fast".toList = i.failFast := hhas (by simp [choices])
  have haudit : g.has "audit".toList = i.audit := hhas (by simp [choices])
  have hnoColor : g.has "no-color".toList = i.noColor := hhas (by simp [choices])
  have hverbose : g.has "verbose".toList = i.verbose := hhas (by simp [choices])
  have hname : (i.vocabulary.map Vocabulary.name).bind Vocabulary.ofName? = i.vocabulary := by
    cases i.vocabulary with
    | none => rfl
    | some v => cases v <;> decide
  have hnumber : (i.timeout.map Text.decimal).bind
      (fun t => (Text.readBounded Text.maxWord64 t).toOption) = i.timeout := by
    cases hms : i.timeout with
    | none => rfl
    | some ms => exact toOption_eq_some_iff.2 (Text.readBounded_decimal (h.timeout ms hms))
  rw [ofGiven, hconfig, haddress, hcatalog, hname, htimeout, hnumber, hfailFast, haudit, hnoColor,
    hverbose]

theorem says_argumentOf (h : i.Sayable) (short : Bool) {o : Text × Option Text}
    (ho : o ∈ Given.ofChoices i.choices) : Says shellCommand (argumentOf short o) o := by
  obtain ⟨long, value⟩ := o
  have hmem := Given.mem_ofChoices.1 ho
  simp only [choices, List.mem_cons, List.not_mem_nil, or_false, Prod.mk.injEq] at hmem
  -- one case for each option, in the order of `choices`: four with values, then the switches
  obtain ⟨rfl, hsaid⟩ | ⟨rfl, hsaid⟩ | ⟨rfl, hsaid⟩ | ⟨rfl, hsaid⟩ | ⟨rfl, hsaid⟩ |
    ⟨rfl, hsaid⟩ | ⟨rfl, hsaid⟩ | ⟨rfl, hsaid⟩ := hmem
  · obtain ⟨path, hpath, rfl⟩ := Option.map_eq_some_iff.1 hsaid.symm
    have hne : path ≠ [] := by
      rintro rfl
      exact h.config hpath
    exact .value rfl (by decide) rfl (if_neg hne)
  · obtain ⟨address, -, rfl⟩ := Option.map_eq_some_iff.1 hsaid.symm
    exact .value rfl (by decide) rfl rfl
  · obtain ⟨name, hname, rfl⟩ := Option.map_eq_some_iff.1 hsaid.symm
    obtain ⟨v, -, rfl⟩ := Option.map_eq_some_iff.1 hname
    exact .value rfl (by decide) rfl (by cases v <;> decide)
  · obtain ⟨numeral, hnumeral, rfl⟩ := Option.map_eq_some_iff.1 hsaid.symm
    obtain ⟨ms, hms, rfl⟩ := Option.map_eq_some_iff.1 hnumeral
    refine .value rfl (by decide) rfl ?_
    rw [ValueRule.check, Text.readBounded_decimal (h.timeout ms hms)]
  · obtain rfl := Given.eq_none_of_ofSwitch hsaid
    cases short <;> exact .switch rfl (by decide) (by decide) rfl
  · obtain rfl := Given.eq_none_of_ofSwitch hsaid
    cases short <;> exact .switch rfl (by decide) (by decide) rfl
  · obtain rfl := Given.eq_none_of_ofSwitch hsaid
    cases short <;> exact .switch rfl (by decide) (by decide) rfl
  · obtain rfl := Given.eq_none_of_ofSwitch hsaid
    cases short with
    | false => exact .switch rfl (by decide) (by decide) rfl
    | true => exact .letter rfl rfl (by decide) rfl

theorem parse_nil_arguments (h : i.Sayable) (short : Bool) {line : List Text}
    (hline : line.Perm (i.arguments short)) : parse [] line = .ok (.invocation i) := by
  have hsaid : List.Forall₂ (Says shellCommand) (i.arguments short)
      (Given.ofChoices i.choices) := by
    unfold arguments
    rw [List.forall₂_map_left_iff, List.forall₂_same]
    exact fun o => says_argumentOf h short
  obtain ⟨g, hg, hperm⟩ := List.perm_comp_forall₂ hline hsaid
  have hkeys : (g.map Prod.fst).Nodup :=
    (hperm.map Prod.fst).nodup_iff.2 (Given.nodup_ofChoices i.nodup_choices)
  exact parse_eq_ok_iff.2 ⟨⟨g, none⟩, readAll_said hg hkeys, (ofGiven_of_perm h hperm).symm⟩

/-- **A command line gives back what it was written from.** Whatever values an invocation has, its
arguments ask for that invocation in any order and under any variables; only an address that it does
not have comes from the variable. On no command line does the variable win over a flag. -/
theorem parse_arguments (i : Invocation) (h : i.Sayable) (env : Environment) (short : Bool)
    (line : List Text) (hline : line.Perm (i.arguments short)) :
    parse env line = .ok (.invocation
        { i with address := i.address <|> env.get? addressVariable }) ∧
      ∀ other flags, parse [] other = .ok (.invocation flags) → flags.address.isSome = true →
        parse env other = .ok (.invocation flags) := by
  refine ⟨parse_of_flags (parse_nil_arguments h short hline) env, ?_⟩
  intro other flags hflags haddress
  obtain ⟨address, hsome⟩ := Option.isSome_iff_exists.1 haddress
  have hwins : (flags.address <|> env.get? addressVariable) = flags.address := by
    rw [hsome]
    rfl
  have hparse := parse_of_flags hflags env
  rwa [hwins] at hparse

/-- A path that looks like another flag, the largest number, and an address that is empty or looks
like a flag. -/
theorem parse_arguments_like_flags :
    let i : Invocation :=
      { config := some "--addr==x y".toList, vocabulary := some .table
        timeout := some 0xFFFFFFFFFFFFFFFF, noColor := true, verbose := true }
    let env : Environment := [(addressVariable, "--help".toList)]
    let line : List Text := ["--timeout-ms=18446744073709551615".toList, "-v".toList,
      "--no-color".toList, "--config=--addr==x y".toList, "--catalog=table".toList]
    i.Sayable ∧ line.Perm (i.arguments true) ∧
      parse env line = .ok (.invocation { i with address := some "--help".toList }) ∧
      parse env ("--addr=".toList :: line) = .ok (.invocation { i with address := some [] }) := by
  intro i env line
  have hconfig : i.config ≠ some [] := by decide
  have hsayable (address : Option Text) : Sayable { i with address } :=
    ⟨hconfig, fun _ hms => Option.some.inj hms ▸ Nat.le_refl _⟩
  have hline : line.Perm (i.arguments true) := by decide +kernel
  have hline' : ("--addr=".toList :: line).Perm (arguments true { i with address := some [] }) := by
    decide +kernel
  exact ⟨hsayable none, hline, (parse_arguments i (hsayable none) env true line hline).1,
    (parse_arguments _ (hsayable (some [])) env true _ hline').1⟩

end Invocation

end OperatorShell
