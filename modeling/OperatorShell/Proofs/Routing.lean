import OperatorShell.Catalog
import OperatorShell.Proofs.Words
import Mathlib.Tactic.SplitIfs

/-!
# Kinds of lines

What a line is to the shell is a matter of its first word: a help word, a quit word, a verb of the
catalog that is not reserved, or none of these. `Input.classify` tells these kinds apart.

* `Line.isHelp`, `Line.isQuit`, `Line.isCommand`, `Line.isUnknown`: the kinds, without the order in
  which the shell asks for them.
* `isHelp_eq`, `isQuit_eq`, `isCommand_eq`, `isUnknown_eq`, `isAllBlank_eq`: each kind is one answer
  of the classification.
-/

namespace OperatorShell

/-! ## Reserved words -/

theorem isReserved_eq (word : Text) :
    isReserved word = (helpWords.contains word || quitWords.contains word) := by
  simp [isReserved, reservedWords]

theorem quitWords_contains_of_help {word : Text} (h : helpWords.contains word = true) :
    quitWords.contains word = false := by
  have hword : word = "help".toList ∨ word = "h".toList ∨ word = "?".toList := by
    simpa [helpWords] using h
  rcases hword with rfl | rfl | rfl <;> rfl

theorem Catalog.contains_iff_mem_verbs {c : Catalog} {verb : Text} :
    c.contains verb = true ↔ verb ∈ c.verbs := by
  simp [contains, lookup?, verbs]

theorem Catalog.contains_eq (c : Catalog) (verb : Text) :
    c.contains verb = c.verbs.contains verb := by
  rw [Bool.eq_iff_iff, contains_iff_mem_verbs, List.contains_iff_mem]

namespace Line

/-- The first word asks for the catalog. -/
def isHelp (line : Text) : Bool :=
  (Text.firstWord? line).any fun verb => ["help".toList, "h".toList, "?".toList].contains verb

/-- The first word ends the session. -/
def isQuit (line : Text) : Bool :=
  (Text.firstWord? line).any fun verb => ["quit".toList, "exit".toList].contains verb

/-- The first word is a verb of the catalog, and neither asks for it nor ends the session. -/
def isCommand (c : Catalog) (line : Text) : Bool :=
  (Text.firstWord? line).any (fun verb => c.verbs.contains verb) && !isHelp line && !isQuit line

/-- The first word is no verb of the catalog, and neither asks for it nor ends the session. -/
def isUnknown (c : Catalog) (line : Text) : Bool :=
  (Text.firstWord? line).any (fun verb => !c.verbs.contains verb) && !isHelp line && !isQuit line

section FirstWord

variable (c : Catalog) {line verb : Text}

theorem isHelp_of_firstWord (h : Text.firstWord? line = some verb) :
    isHelp line = helpWords.contains verb := by
  rw [isHelp, h]
  rfl

theorem isQuit_of_firstWord (h : Text.firstWord? line = some verb) :
    isQuit line = quitWords.contains verb := by
  rw [isQuit, h]
  rfl

theorem isCommand_of_firstWord (h : Text.firstWord? line = some verb) :
    isCommand c line = (c.contains verb && !isReserved verb) := by
  rw [isCommand, isHelp_of_firstWord h, isQuit_of_firstWord h, h, Option.any_some,
    ← c.contains_eq, isReserved_eq, Bool.not_or, Bool.and_assoc]

theorem isUnknown_of_firstWord (h : Text.firstWord? line = some verb) :
    isUnknown c line = (!c.contains verb && !isReserved verb) := by
  rw [isUnknown, isHelp_of_firstWord h, isQuit_of_firstWord h, h, Option.any_some,
    ← c.contains_eq, isReserved_eq, Bool.not_or, Bool.and_assoc]

end FirstWord

/-! ## Kinds and the classification -/

theorem classify_of_allBlank (c : Catalog) {line : Text} (h : Text.firstWord? line = none) :
    Input.classify c line = .blank := by
  rw [Input.classify, h]

theorem classify_of_firstWord (c : Catalog) {line verb : Text}
    (h : Text.firstWord? line = some verb) :
    Input.classify c line =
      if helpWords.contains verb then .help
      else if quitWords.contains verb then .quit
      else if c.contains verb then .command line
      else .unknown verb := by
  rw [Input.classify, h]

variable (c : Catalog) (line : Text)

theorem isAllBlank_eq : Text.isAllBlank line = decide (Input.classify c line = .blank) := by
  rw [Bool.eq_iff_iff, ← Text.firstWord?_eq_none_iff, decide_eq_true_iff]
  cases h : Text.firstWord? line with
  | none => simp [classify_of_allBlank c h]
  | some verb =>
    rw [classify_of_firstWord c h]
    split_ifs <;> simp

theorem isHelp_eq : isHelp line = decide (Input.classify c line = .help) := by
  cases h : Text.firstWord? line with
  | none => simp [isHelp, h, classify_of_allBlank c h]
  | some verb =>
    rw [classify_of_firstWord c h, isHelp_of_firstWord h]
    split_ifs with hhelp <;> simp_all

theorem isQuit_eq : isQuit line = decide (Input.classify c line = .quit) := by
  cases h : Text.firstWord? line with
  | none => simp [isQuit, h, classify_of_allBlank c h]
  | some verb =>
    rw [classify_of_firstWord c h, isQuit_of_firstWord h]
    split_ifs with hhelp hquit
    · rw [quitWords_contains_of_help hhelp]; simp
    · rw [hquit]; simp
    all_goals simp_all

theorem isCommand_eq : isCommand c line = decide (Input.classify c line = .command line) := by
  cases h : Text.firstWord? line with
  | none => simp [isCommand, h, classify_of_allBlank c h]
  | some verb =>
    rw [classify_of_firstWord c h, isCommand_of_firstWord c h, isReserved_eq]
    split_ifs <;> simp_all

theorem isUnknown_eq : isUnknown c line = match Input.classify c line with
    | .unknown _ => true
    | _ => false := by
  cases h : Text.firstWord? line with
  | none => simp [isUnknown, h, classify_of_allBlank c h]
  | some verb =>
    rw [classify_of_firstWord c h, isUnknown_of_firstWord c h, isReserved_eq]
    split_ifs <;> simp_all

theorem any_not_isBlank_eq :
    (line.any fun c => !Text.isBlank c) = !decide (Input.classify c line = .blank) := by
  rw [← isAllBlank_eq, Text.isAllBlank, List.not_all_eq_any_not]

variable {c line}

theorem eq_of_classify_command {command : Text} (h : Input.classify c line = .command command) :
    command = line := by
  cases hw : Text.firstWord? line with
  | none => simp [classify_of_allBlank c hw] at h
  | some verb =>
    rw [classify_of_firstWord c hw] at h
    split_ifs at h
    exact (Input.command.inj h).symm

theorem firstWord_of_classify_unknown {verb : Text} (h : Input.classify c line = .unknown verb) :
    Text.firstWord? line = some verb := by
  cases hw : Text.firstWord? line with
  | none => simp [classify_of_allBlank c hw] at h
  | some word =>
    rw [classify_of_firstWord c hw] at h
    split_ifs at h
    rw [Input.unknown.inj h]

end Line

end OperatorShell
