import Mathlib.Logic.ExistsUnique
import OperatorShell.Proofs.Acceptance

/-!
# The parts of a line

A line that is not blank all over has one decomposition into blanks, a word, and a rest that is
empty or starts with a blank. `Input.classify` answers by the word alone. That the answers do not
overlap is a matter of the catalog: none of its verbs is a reserved word.

* `Text.Cut`: a line in its three parts; `Text.existsUnique_cut`: they are unique.
* `Line.Answered`: the answer to a line with a given first word.
* `Input.about`: an answer without what follows the first word.
* `Input.classify_by_cut`: every line is answered by its decomposition.
-/

namespace OperatorShell

namespace Text

/-- A line cut into blanks, a word, and a rest that is empty or starts with a blank. -/
structure Cut (line blanks word rest : Text) : Prop where
  eq : line = blanks ++ word ++ rest
  blanks : isAllBlank blanks = true
  nonempty : word ≠ []
  solid : word.any isBlank = false
  boundary : StartsBlank rest

variable {line blanks word rest : Text}

theorem exists_cut_iff :
    (∃ blanks rest, Cut line blanks word rest) ↔ firstWord? line = some word := by
  rw [firstWord?_eq_some_iff]
  constructor
  · rintro ⟨blanks, rest, h⟩
    exact ⟨blanks, rest, h.eq, h.blanks, h.nonempty, h.solid, h.boundary⟩
  · rintro ⟨blanks, rest, heq, hb, hne, hw, hrest⟩
    exact ⟨blanks, rest, heq, hb, hne, hw, hrest⟩

theorem Cut.firstWord?_eq (h : Cut line blanks word rest) : firstWord? line = some word :=
  exists_cut_iff.1 ⟨blanks, rest, h⟩

theorem Cut.blanks_eq (h : Cut line blanks word rest) : blanks = line.takeWhile isBlank := by
  obtain ⟨c, tail, hword⟩ := List.exists_cons_of_ne_nil h.nonempty
  have hc : isBlank c = false := by
    have hsolid := h.solid
    rw [hword] at hsolid
    simp at hsolid
    exact hsolid.1
  have hall : ∀ b ∈ blanks, isBlank b = true := by simpa [isAllBlank] using h.blanks
  rw [h.eq, hword, List.append_assoc, List.takeWhile_append_of_pos hall]
  simp [hc]

theorem Cut.unique {blanks' word' rest' : Text} (h : Cut line blanks word rest)
    (h' : Cut line blanks' word' rest') : blanks = blanks' ∧ word = word' ∧ rest = rest' := by
  have hword : word = word' := Option.some.inj (h.firstWord?_eq.symm.trans h'.firstWord?_eq)
  have hblanks : blanks = blanks' := h.blanks_eq.trans h'.blanks_eq.symm
  subst hword hblanks
  have heq : blanks ++ word ++ rest = blanks ++ word ++ rest' := h.eq.symm.trans h'.eq
  exact ⟨rfl, rfl, List.append_cancel_left heq⟩

/-- A line with a character that is no blank has one cut. -/
theorem existsUnique_cut (h : ∃ c ∈ line, isBlank c = false) :
    ∃! parts : Text × Text × Text, Cut line parts.1 parts.2.1 parts.2.2 := by
  cases hfirst : firstWord? line with
  | none =>
    have hall : ∀ c ∈ line, isBlank c = true := by
      simpa [isAllBlank] using firstWord?_eq_none_iff.1 hfirst
    obtain ⟨c, hc, hblank⟩ := h
    rw [hall c hc] at hblank
    cases hblank
  | some word =>
    obtain ⟨blanks, rest, hcut⟩ := exists_cut_iff.2 hfirst
    refine ⟨(blanks, word, rest), hcut, ?_⟩
    rintro ⟨blanks', word', rest'⟩ hcut'
    obtain ⟨rfl, rfl, rfl⟩ := hcut.unique hcut'
    rfl

theorem Cut.around (h : Cut line blanks word rest) {blanks' rest' : Text}
    (hb : isAllBlank blanks' = true) (hrest : StartsBlank rest') :
    Cut (blanks' ++ word ++ rest') blanks' word rest' :=
  ⟨rfl, hb, h.nonempty, h.solid, hrest⟩

end Text

/-! ## Answers by the first word -/

/-- An answer without what follows the first word: which answer it is, and its verb. -/
def Input.about : Input → Input
  | .command line => .command ((Text.firstWord? line).getD [])
  | answer => answer

namespace Line

variable {c : Catalog} {line verb : Text}

/-- The answer to a line with a given first word. The conditions do not mention each other. -/
structure Answered (c : Catalog) (line verb : Text) : Prop where
  notBlank : Input.classify c line ≠ .blank
  help : Input.classify c line = .help ↔ verb ∈ ["help".toList, "h".toList, "?".toList]
  quit : Input.classify c line = .quit ↔ verb ∈ ["quit".toList, "exit".toList]
  command : ∀ sent, Input.classify c line = .command sent ↔ sent = line ∧ verb ∈ c.verbs
  unknown : ∀ word, Input.classify c line = .unknown word ↔
    word = verb ∧ verb ∉ ["help".toList, "h".toList, "?".toList] ∧
      verb ∉ ["quit".toList, "exit".toList] ∧ verb ∉ c.verbs

/-- Neither the help words nor the quit words are verbs of the catalog, nor each other. -/
structure Apart (c : Catalog) : Prop where
  helpQuit : ∀ word ∈ ["help".toList, "h".toList, "?".toList],
    word ∉ ["quit".toList, "exit".toList]
  helpVerbs : ∀ word ∈ ["help".toList, "h".toList, "?".toList], word ∉ c.verbs
  quitVerbs : ∀ word ∈ ["quit".toList, "exit".toList], word ∉ c.verbs

theorem apart_of_accepted (accepted : c.Accepted) : Apart c := by
  have hreserved : ∀ verb ∈ c.verbs, verb ∉ helpWords ∧ verb ∉ quitWords := by
    intro verb hmem
    have hfree : isReserved verb = false := (accepted.isVerb hmem).2
    rw [isReserved_eq, Bool.or_eq_false_iff] at hfree
    exact ⟨by simpa using hfree.1, by simpa using hfree.2⟩
  refine ⟨?_, ?_, ?_⟩
  · intro word hhelp
    have hnot : quitWords.contains word = false :=
      quitWords_contains_of_help (List.contains_iff_mem.2 hhelp)
    simpa [quitWords] using hnot
  · intro verb hhelp hmem
    exact (hreserved verb hmem).1 hhelp
  · intro verb hquit hmem
    exact (hreserved verb hmem).2 hquit

theorem classify_eq_help_iff (h : Text.firstWord? line = some verb) :
    Input.classify c line = .help ↔ verb ∈ ["help".toList, "h".toList, "?".toList] := by
  rw [← decide_eq_true_iff (p := Input.classify c line = .help), ← isHelp_eq, isHelp, h,
    Option.any_some, List.contains_iff_mem]

theorem classify_eq_quit_iff (h : Text.firstWord? line = some verb) :
    Input.classify c line = .quit ↔ verb ∈ ["quit".toList, "exit".toList] := by
  rw [← decide_eq_true_iff (p := Input.classify c line = .quit), ← isQuit_eq, isQuit, h,
    Option.any_some, List.contains_iff_mem]

/-- The order in which the shell asks does not show, since the words are apart. -/
theorem answered_of_firstWord (accepted : c.Accepted) (h : Text.firstWord? line = some verb) :
    Answered c line verb := by
  have hhelp := classify_eq_help_iff (c := c) h
  have hquit := classify_eq_quit_iff (c := c) h
  have hcommand : ∀ sent, Input.classify c line = .command sent ↔ sent = line ∧ verb ∈ c.verbs := by
    intro sent
    constructor
    · intro hsent
      obtain rfl := eq_of_classify_command hsent
      exact ⟨rfl, Catalog.mem_verbs_of_command hsent h⟩
    · rintro ⟨rfl, hmem⟩
      exact accepted.classify_eq_command hmem h
  have hblank : Input.classify c line ≠ .blank := by
    intro hblank
    have hall : Text.isAllBlank line = true := by rw [isAllBlank_eq c, hblank]; rfl
    rw [Text.firstWord?_eq_none_iff.2 hall] at h
    cases h
  refine ⟨hblank, hhelp, hquit, hcommand, fun word => ⟨?_, ?_⟩⟩
  · intro hunknown
    have hword : word = verb :=
      Option.some.inj ((firstWord_of_classify_unknown hunknown).symm.trans h)
    refine ⟨hword, ?_, ?_, ?_⟩
    · intro hmem
      cases hunknown.symm.trans (hhelp.2 hmem)
    · intro hmem
      cases hunknown.symm.trans (hquit.2 hmem)
    · intro hmem
      cases hunknown.symm.trans ((hcommand line).2 ⟨rfl, hmem⟩)
  · rintro ⟨rfl, hnoHelp, hnoQuit, hnoVerb⟩
    -- the other four answers are ruled out one by one
    cases hclass : Input.classify c line with
    | blank => exact absurd hclass hblank
    | help => exact absurd (hhelp.1 hclass) hnoHelp
    | quit => exact absurd (hquit.1 hclass) hnoQuit
    | command sent => exact absurd ((hcommand sent).1 hclass).2 hnoVerb
    | unknown other =>
      rw [Option.some.inj (h.symm.trans (firstWord_of_classify_unknown hclass))]

end Line

namespace Input

theorem about_classify_congr (c : Catalog) {line line' verb : Text}
    (h : Text.firstWord? line = some verb) (h' : Text.firstWord? line' = some verb) :
    (classify c line).about = (classify c line').about := by
  rw [Line.classify_of_firstWord c h, Line.classify_of_firstWord c h']
  split_ifs
  · rfl
  · rfl
  · rw [about, about, h, h']
  · rfl

/-- **A line is answered by its decomposition.** It is blank exactly if all its characters are.
Otherwise it has one cut into blanks, a word and a rest; the word decides the answer, by conditions
that never hold together; and other blanks before the word, or another rest after it, change neither
which answer it is nor its verb. -/
theorem classify_by_cut (c : Catalog) (accepted : c.Accepted) (line : Text) :
    (classify c line = .blank ↔ ∀ ch ∈ line, Text.isBlank ch = true) ∧
      ((∃ ch ∈ line, Text.isBlank ch = false) →
        ∃! parts : Text × Text × Text, Text.Cut line parts.1 parts.2.1 parts.2.2) ∧
      Line.Apart c ∧
      ∀ blanks verb rest, Text.Cut line blanks verb rest →
        Line.Answered c line verb ∧
          ∀ blanks' rest', Text.isAllBlank blanks' = true → Text.StartsBlank rest' →
            Line.Answered c (blanks' ++ verb ++ rest') verb ∧
              (classify c (blanks' ++ verb ++ rest')).about = (classify c line).about := by
  refine ⟨?_, Text.existsUnique_cut, Line.apart_of_accepted accepted, ?_⟩
  · have hblank := Line.isAllBlank_eq c line
    rw [Bool.eq_iff_iff, decide_eq_true_iff] at hblank
    rw [← hblank, Text.isAllBlank, List.all_eq_true]
  · intro blanks verb rest hcut
    have hfirst := hcut.firstWord?_eq
    refine ⟨Line.answered_of_firstWord accepted hfirst, ?_⟩
    intro blanks' rest' hb hrest
    have hfirst' := (hcut.around hb hrest).firstWord?_eq
    exact ⟨Line.answered_of_firstWord accepted hfirst', about_classify_congr c hfirst' hfirst⟩

/-- A verb that goes on from another one, between wide blanks of several bytes. -/
theorem classify_by_cut_between_wide_blanks :
    let c : Catalog := ⟨["go", "go-on", "helper"].map fun verb => ⟨verb.toList, []⟩, []⟩
    let line := "\u2003go-on\u0085help".toList
    c.Accepted ∧ Text.Cut line "\u2003".toList "go-on".toList "\u0085help".toList ∧
      classify c line = .command line ∧
      (classify c "\t go-on\u3000quit".toList).about = .command "go-on".toList := by
  intro c line
  have accepted : c.Accepted :=
    .inl ⟨c.entries, [], Catalog.ofEntries?_eq_ok_iff.2 ⟨rfl, by decide, by decide⟩⟩
  have hcut : Text.Cut line "\u2003".toList "go-on".toList "\u0085help".toList :=
    ⟨rfl, rfl, by decide, rfl, by simp [Text.StartsBlank]; decide⟩
  obtain ⟨-, -, -, hanswered⟩ := classify_by_cut c accepted line
  obtain ⟨hline, hothers⟩ := hanswered _ _ _ hcut
  have hcommand : classify c line = .command line := (hline.command line).2 ⟨rfl, by decide⟩
  obtain ⟨-, habout⟩ := hothers "\t ".toList "\u3000quit".toList rfl
    (by simp [Text.StartsBlank]; decide)
  refine ⟨accepted, hcut, hcommand, habout.trans ?_⟩
  rw [hcommand]
  rfl

end Input

end OperatorShell
