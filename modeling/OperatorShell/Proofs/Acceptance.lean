import OperatorShell.Proofs.Routing

/-!
# Which entries make a catalog

`Catalog.ofEntries?` looks at the entries one by one. Routing a line looks at its first word, asks
whether the word is reserved, and takes the first entry with that verb. The two agree: the entries
make a catalog exactly when there are any and some line leads to each of them.

* `firstFault?_eq_none_iff`: what the entries of a catalog have in common.
* `Catalog.FindsAt`, `Catalog.Reachable`, `Catalog.Routable`: what the shell can route.
* `reachable_iff`: a line leads to an entry exactly when the verb is one word, is not reserved, and
  no entry before it has the same verb.
* `Catalog.Accepted`: the catalogs that the shell runs with. Their verbs are fit to be verbs, and no
  two are the same.
-/

namespace OperatorShell

namespace Catalog

/-- What the verb of an entry has to be by itself: one word that the shell does not answer. -/
def IsVerb (verb : Text) : Prop := isWord verb = true ∧ isReserved verb = false

theorem isWord_iff {verb : Text} :
    isWord verb = true ↔ verb ≠ [] ∧ verb.any Text.isBlank = false := by
  simp [isWord]

/-! ## The check of the entries -/

theorem faultOf?_eq_none_iff {seen : List Text} {e : CatalogEntry} :
    faultOf? seen e = none ↔ IsVerb e.verb ∧ e.verb ∉ seen := by
  rw [faultOf?, IsVerb]
  split_ifs with hword hreserved hseen
  · simp_all
  · simp_all
  · simp_all
  · simp_all

theorem firstFault?_eq_none_iff {seen : List Text} {entries : List CatalogEntry} :
    firstFault? seen entries = none ↔ (∀ e ∈ entries, IsVerb e.verb ∧ e.verb ∉ seen) ∧
      entries.Pairwise fun e e' => e.verb ≠ e'.verb := by
  induction entries generalizing seen with
  | nil => simp [firstFault?]
  | cons e rest ih =>
    rw [firstFault?]
    cases hfault : faultOf? seen e with
    | some fault =>
      have hnot : ¬(IsVerb e.verb ∧ e.verb ∉ seen) := by
        rw [← faultOf?_eq_none_iff, hfault]
        simp
      simp [hnot]
    | none =>
      have hhead := faultOf?_eq_none_iff.1 hfault
      rw [ih, List.forall_mem_cons, List.pairwise_cons]
      simp only [List.mem_cons, not_or]
      constructor
      · rintro ⟨hrest, hpair⟩
        exact ⟨⟨hhead, fun e' he' => ⟨(hrest e' he').1, (hrest e' he').2.2⟩⟩,
          fun e' he' heq => (hrest e' he').2.1 heq.symm, hpair⟩
      · rintro ⟨⟨-, hrest⟩, hne, hpair⟩
        exact ⟨fun e' he' => ⟨(hrest e' he').1, fun heq => hne e' he' heq.symm, (hrest e' he').2⟩,
          hpair⟩

theorem ofEntries?_eq_ok_iff {entries : List CatalogEntry} {replyPrefix : Text} {c : Catalog} :
    ofEntries? entries replyPrefix = .ok c ↔
      c = ⟨entries, replyPrefix⟩ ∧ entries ≠ [] ∧ firstFault? [] entries = none := by
  rw [ofEntries?]
  split_ifs with hempty
  · simp [hempty]
  · cases firstFault? [] entries <;> simp [hempty, eq_comm]

/-! ## Routing to an entry -/

/-- A look-up of the verb stops at position `i`: it gives the entry there, and no entry before it
has the verb. -/
structure FindsAt (c : Catalog) (verb : Text) (i : Fin c.entries.length) : Prop where
  found : c.lookup? verb = some c.entries[i]
  first : ∀ j < i, c.entries[j].verb ≠ verb

/-- Some line is a command whose first word, looked up, leads to position `i`. -/
def Reachable (c : Catalog) (i : Fin c.entries.length) : Prop :=
  ∃ line verb, Input.classify c line = .command line ∧ Text.firstWord? line = some verb ∧
    c.FindsAt verb i

/-- There are entries, and some line leads to each of them. -/
def Routable (c : Catalog) : Prop := c.entries ≠ [] ∧ ∀ i, c.Reachable i

variable {c : Catalog}

theorem findsAt_iff {verb : Text} {i : Fin c.entries.length} :
    c.FindsAt verb i ↔ c.entries[i].verb = verb ∧ ∀ j < i, c.entries[j].verb ≠ verb := by
  constructor
  · rintro ⟨hfound, hfirst⟩
    refine ⟨?_, hfirst⟩
    simpa using List.find?_some hfound
  · rintro ⟨hverb, hfirst⟩
    refine ⟨List.find?_eq_some_iff_getElem.2 ⟨by simpa using hverb, i, i.isLt, rfl, ?_⟩, hfirst⟩
    intro j hj
    simpa using hfirst ⟨j, Nat.lt_trans hj i.isLt⟩ hj

theorem FindsAt.contains {verb : Text} {i : Fin c.entries.length} (h : c.FindsAt verb i) :
    c.contains verb = true := by
  rw [Catalog.contains, h.found, Option.isSome_some]

/-- A line leads to an entry exactly when its verb is fit to be one and stands there first. -/
theorem reachable_iff {i : Fin c.entries.length} :
    c.Reachable i ↔
      IsVerb c.entries[i].verb ∧ ∀ j < i, c.entries[j].verb ≠ c.entries[i].verb := by
  constructor
  · rintro ⟨line, verb, hcommand, hfirst, hfinds⟩
    obtain ⟨rfl, hbefore⟩ := findsAt_iff.1 hfinds
    have hline : Line.isCommand c line = true := by rw [Line.isCommand_eq, hcommand]; simp
    obtain ⟨-, -, -, -, hne, hword, -⟩ := Text.firstWord?_eq_some_iff.1 hfirst
    rw [Line.isCommand_of_firstWord c hfirst] at hline
    simp only [Bool.and_eq_true, Bool.not_eq_true'] at hline
    exact ⟨⟨isWord_iff.2 ⟨hne, hword⟩, hline.2⟩, hbefore⟩
  · rintro ⟨⟨hword, hreserved⟩, hbefore⟩
    -- the verb itself, typed alone, is such a line
    have hfinds := findsAt_iff.2 ⟨rfl, hbefore⟩
    have hfirst := Text.firstWord?_of_word (isWord_iff.1 hword).1 (isWord_iff.1 hword).2
    have hline : Line.isCommand c c.entries[i].verb = true := by
      rw [Line.isCommand_of_firstWord c hfirst, hfinds.contains, hreserved]
      rfl
    rw [Line.isCommand_eq, decide_eq_true_iff] at hline
    exact ⟨_, _, hline, hfirst, hfinds⟩

theorem routable_iff :
    c.Routable ↔ c.entries ≠ [] ∧ firstFault? [] c.entries = none := by
  rw [Routable, firstFault?_eq_none_iff, List.pairwise_iff_getElem]
  refine and_congr_right fun _ => ⟨fun h => ⟨?_, ?_⟩, ?_⟩
  · intro e he
    obtain ⟨i, hi, rfl⟩ := List.getElem_of_mem he
    exact ⟨(reachable_iff.1 (h ⟨i, hi⟩)).1, by simp⟩
  · intro i j hi hj hij
    exact (reachable_iff.1 (h ⟨j, hj⟩)).2 ⟨i, hi⟩ hij
  · rintro ⟨hverbs, hpairs⟩ i
    refine reachable_iff.2 ⟨(hverbs _ (List.getElem_mem i.isLt)).1, fun j hj => ?_⟩
    exact hpairs j i j.isLt i.isLt hj

/-- **Exactly what can be routed is accepted**, and it becomes a catalog as it stands. -/
theorem ofEntries?_accepts_routable (entries : List CatalogEntry) (replyPrefix : Text) :
    ((∃ c, ofEntries? entries replyPrefix = .ok c) ↔ Routable ⟨entries, replyPrefix⟩) ∧
      ∀ c, ofEntries? entries replyPrefix = .ok c ↔
        c = ⟨entries, replyPrefix⟩ ∧ Routable ⟨entries, replyPrefix⟩ := by
  have hok : ∀ c, ofEntries? entries replyPrefix = .ok c ↔
      c = ⟨entries, replyPrefix⟩ ∧ Routable ⟨entries, replyPrefix⟩ := by
    intro c
    rw [ofEntries?_eq_ok_iff, routable_iff]
  refine ⟨?_, hok⟩
  constructor
  · rintro ⟨c, hc⟩
    exact ((hok c).1 hc).2
  · intro h
    exact ⟨_, (hok _).2 ⟨rfl, h⟩⟩

/-! ## Catalogs in use -/

/-- The catalogs that the shell runs with: of accepted entries, or built in. -/
def Accepted (c : Catalog) : Prop :=
  (∃ entries replyPrefix, ofEntries? entries replyPrefix = .ok c) ∨ ∃ v, c = builtin v

theorem firstFault?_builtin (v : Vocabulary) : firstFault? [] (builtin v).entries = none := by
  cases v <;> decide

theorem Accepted.firstFault?_eq_none (h : c.Accepted) : firstFault? [] c.entries = none := by
  rcases h with ⟨entries, replyPrefix, hok⟩ | ⟨v, rfl⟩
  · obtain ⟨rfl, -, hfault⟩ := ofEntries?_eq_ok_iff.1 hok
    exact hfault
  · exact firstFault?_builtin v

theorem Accepted.isVerb (h : c.Accepted) {verb : Text} (hmem : verb ∈ c.verbs) : IsVerb verb := by
  obtain ⟨e, he, rfl⟩ := List.mem_map.1 hmem
  exact ((firstFault?_eq_none_iff.1 h.firstFault?_eq_none).1 e he).1

theorem Accepted.nodup_verbs (h : c.Accepted) : c.verbs.Nodup :=
  List.pairwise_map.2 (firstFault?_eq_none_iff.1 h.firstFault?_eq_none).2

theorem Accepted.classify_eq_command (h : c.Accepted) {line verb : Text} (hmem : verb ∈ c.verbs)
    (hfirst : Text.firstWord? line = some verb) : Input.classify c line = .command line := by
  have hline : Line.isCommand c line = true := by
    rw [Line.isCommand_of_firstWord c hfirst, contains_iff_mem_verbs.2 hmem, (h.isVerb hmem).2]
    rfl
  rwa [Line.isCommand_eq, decide_eq_true_iff] at hline

theorem mem_verbs_of_command {line verb : Text} (hcommand : Input.classify c line = .command line)
    (hfirst : Text.firstWord? line = some verb) : verb ∈ c.verbs := by
  have hline : Line.isCommand c line = true := by rw [Line.isCommand_eq, hcommand]; simp
  rw [Line.isCommand_of_firstWord c hfirst, Bool.and_eq_true] at hline
  exact contains_iff_mem_verbs.1 hline.1

end Catalog

end OperatorShell
