import OperatorShell.Proofs.Acceptance
import OperatorShell.Settings
import Mathlib.Data.List.Induction
import Mathlib.Logic.Basic

/-!
# Which fault is reported

The check of a list of entries carries the verbs that it has passed, and stops at the first entry it
cannot take. Which entry that is, and what it is blamed for, can be said without the check: an entry
offends by its own verb or by one that stands before it, and of several offences of one entry the
first in a fixed order counts.

* `Catalog.Offends`, `Catalog.Blamed`: what an entry can be at fault for, and what it is blamed for.
* `Catalog.FirstOffence`: the first entry that offends, with the entries before and after it.
* `firstFault?_append`: the check of a list is that of its front, and then that of its back with the
  verbs of the front seen.
* `Catalog.ofEntries?_blames_first`: the fault of a list is that of its first offence.
-/

namespace OperatorShell

namespace Catalog

/-! ## Offences -/

def Unworded (e : CatalogEntry) : Prop := e.verb = [] ∨ ∃ ch ∈ e.verb, Text.isBlank ch = true

/-- An entry before this one has its verb. -/
def Repeats (earlier : List CatalogEntry) (e : CatalogEntry) : Prop :=
  ∃ e' ∈ earlier, e'.verb = e.verb

/-- An entry that cannot stand after `earlier`. -/
def Offends (earlier : List CatalogEntry) (e : CatalogEntry) : Prop :=
  Unworded e ∨ e.verb ∈ reservedWords ∨ Repeats earlier e

inductive Blamed (earlier : List CatalogEntry) (e : CatalogEntry) : CatalogError → Prop where
  | badVerb (h : Unworded e) : Blamed earlier e (.badVerb e.verb)
  | reserved (hword : ¬Unworded e) (h : e.verb ∈ reservedWords) : Blamed earlier e (.reserved e.verb)
  | duplicate (hword : ¬Unworded e) (hfree : e.verb ∉ reservedWords) (h : Repeats earlier e) :
    Blamed earlier e (.duplicate e.verb)

/-- The entry `e` of a list offends, and none before it does. -/
structure FirstOffence (entries earlier : List CatalogEntry) (e : CatalogEntry)
    (later : List CatalogEntry) : Prop where
  split : entries = earlier ++ e :: later
  clear : ∀ front e' back, earlier = front ++ e' :: back → ¬Offends front e'
  offends : Offends earlier e

variable {earlier entries front back : List CatalogEntry} {e : CatalogEntry} {fault : CatalogError}

theorem not_isWord_iff : (!isWord e.verb) = true ↔ Unworded e := by
  rw [Bool.not_eq_true', ← Bool.not_eq_true, isWord_iff, Unworded, not_and_or, not_not,
    Bool.not_eq_false, List.any_eq_true]

theorem isReserved_iff : isReserved e.verb = true ↔ e.verb ∈ reservedWords :=
  List.contains_iff_mem

theorem Blamed.offends (h : Blamed earlier e fault) : Offends earlier e := by
  cases h with
  | badVerb h => exact .inl h
  | reserved _ h => exact .inr (.inl h)
  | duplicate _ _ h => exact .inr (.inr h)

theorem Offends.exists_blamed (h : Offends earlier e) : ∃ fault, Blamed earlier e fault := by
  by_cases hword : Unworded e
  · exact ⟨_, .badVerb hword⟩
  by_cases hreserved : e.verb ∈ reservedWords
  · exact ⟨_, .reserved hword hreserved⟩
  rcases h with h | h | h
  · exact absurd h hword
  · exact absurd h hreserved
  · exact ⟨_, .duplicate hword hreserved h⟩

/-! ## The check of one entry -/

/-- The verbs that the check has passed after entries, the last one first. -/
def passed (entries : List CatalogEntry) : List Text := (entries.map CatalogEntry.verb).reverse

theorem passed_cons (e : CatalogEntry) (entries : List CatalogEntry) (seen : List Text) :
    passed (e :: entries) ++ seen = passed entries ++ e.verb :: seen := by
  simp [passed]

theorem passed_contains_iff : (passed earlier).contains e.verb = true ↔ Repeats earlier e := by
  simp [passed, Repeats]

theorem faultOf?_eq_some_iff : faultOf? (passed earlier) e = some fault ↔ Blamed earlier e fault := by
  constructor
  · intro h
    rw [faultOf?] at h
    split_ifs at h with hword hreserved hpassed
    · cases h
      exact .badVerb (not_isWord_iff.1 hword)
    · cases h
      exact .reserved (not_isWord_iff.not.1 hword) (isReserved_iff.1 hreserved)
    · cases h
      exact .duplicate (not_isWord_iff.not.1 hword) (isReserved_iff.not.1 hreserved)
        (passed_contains_iff.1 hpassed)
  · intro h
    cases h with
    | badVerb h => rw [faultOf?, if_pos (not_isWord_iff.2 h)]
    | reserved hword h =>
      rw [faultOf?, if_neg (not_isWord_iff.not.2 hword), if_pos (isReserved_iff.2 h)]
    | duplicate hword hfree h =>
      rw [faultOf?, if_neg (not_isWord_iff.not.2 hword), if_neg (isReserved_iff.not.2 hfree),
        if_pos (passed_contains_iff.2 h)]

theorem faultOf?_eq_none_iff_not_offends : faultOf? (passed earlier) e = none ↔ ¬Offends earlier e := by
  constructor
  · intro hnone hoffends
    obtain ⟨fault, hblamed⟩ := hoffends.exists_blamed
    rw [faultOf?_eq_some_iff.2 hblamed] at hnone
    cases hnone
  · intro hnot
    cases hfault : faultOf? (passed earlier) e with
    | none => rfl
    | some fault => exact absurd (faultOf?_eq_some_iff.1 hfault).offends hnot

/-! ## The check of a list -/

theorem firstFault?_append (seen : List Text) (front back : List CatalogEntry) :
    firstFault? seen (front ++ back) =
      (firstFault? seen front).or (firstFault? (passed front ++ seen) back) := by
  induction front generalizing seen with
  | nil => rfl
  | cons e front ih =>
    rw [List.cons_append, firstFault?, firstFault?]
    cases faultOf? seen e with
    | some fault => rfl
    | none =>
      show firstFault? (e.verb :: seen) (front ++ back) = _
      rw [ih, passed_cons]

theorem firstFault?_cons_append (front : List CatalogEntry) (e : CatalogEntry)
    (back : List CatalogEntry) :
    firstFault? [] (front ++ e :: back) =
      (firstFault? [] front).or ((faultOf? (passed front) e).or
        (firstFault? (e.verb :: passed front) back)) := by
  rw [firstFault?_append, List.append_nil, firstFault?]
  cases faultOf? (passed front) e <;> rfl

theorem not_offends_of_firstFault? (h : firstFault? [] (front ++ e :: back) = none) :
    ¬Offends front e := by
  rw [firstFault?_cons_append, Option.or_eq_none_iff, Option.or_eq_none_iff] at h
  exact faultOf?_eq_none_iff_not_offends.1 h.2.1

theorem firstFault?_eq_some_iff :
    firstFault? [] entries = some fault ↔
      ∃ earlier e later, FirstOffence entries earlier e later ∧ Blamed earlier e fault := by
  constructor
  · -- from the end of the list, since the last entry is checked with all the others seen
    induction entries using List.reverseRecOn with
    | nil => rintro ⟨⟩
    | append_singleton entries last ih =>
      intro h
      rw [firstFault?_cons_append] at h
      cases hfront : firstFault? [] entries with
      | some earlierFault =>
        rw [hfront] at h ih
        obtain ⟨earlier, e, later, hfirst, hblamed⟩ := ih h
        refine ⟨earlier, e, later ++ [last], ⟨?_, hfirst.clear, hfirst.offends⟩, hblamed⟩
        rw [hfirst.split, List.append_assoc, List.cons_append]
      | none =>
        rw [hfront, Option.none_or, firstFault?, Option.or_none] at h
        have hblamed := faultOf?_eq_some_iff.1 h
        refine ⟨entries, last, [], ⟨rfl, ?_, hblamed.offends⟩, hblamed⟩
        rintro front e back rfl
        exact not_offends_of_firstFault? hfront
  · rintro ⟨earlier, e, later, ⟨rfl, hclear, -⟩, hblamed⟩
    have hearlier : firstFault? [] earlier = none := by
      clear hblamed
      induction earlier using List.reverseRecOn with
      | nil => rfl
      | append_singleton earlier last ih =>
        have hlast := faultOf?_eq_none_iff_not_offends.2 (hclear earlier last [] rfl)
        have hfront := ih fun front e' back heq =>
          hclear front e' (back ++ [last]) (by rw [heq, List.append_assoc, List.cons_append])
        rw [firstFault?_cons_append, hfront, hlast]
        rfl
    rw [firstFault?_cons_append, hearlier, faultOf?_eq_some_iff.2 hblamed]
    rfl

/-! ## Catalogs -/

variable {replyPrefix : Text}

theorem ofEntries?_eq_error_iff :
    ofEntries? entries replyPrefix = .error fault ↔
      entries = [] ∧ fault = .empty ∨ entries ≠ [] ∧ firstFault? [] entries = some fault := by
  rw [ofEntries?]
  by_cases hempty : entries = []
  · simp [hempty, eq_comm]
  · rw [if_neg hempty]
    cases firstFault? [] entries <;> simp [hempty]

theorem not_blamed_empty : ¬Blamed earlier e .empty := by
  rintro ⟨⟩

theorem ofEntries?_eq_error_empty_iff : ofEntries? entries replyPrefix = .error .empty ↔ entries = [] := by
  rw [ofEntries?_eq_error_iff, firstFault?_eq_some_iff]
  constructor
  · rintro (⟨rfl, -⟩ | ⟨-, earlier, e, later, -, hblamed⟩)
    · rfl
    · exact absurd hblamed not_blamed_empty
  · rintro rfl
    exact .inl ⟨rfl, rfl⟩

end Catalog

theorem CatalogSettings.build_of_no_commands {c : CatalogSettings} (h : c.commands = []) :
    c.build = .ok ⟨c.vocabulary.entries, c.replyPrefix.getD c.vocabulary.replyPrefix⟩ := by
  have hentries : c.vocabulary.entries ≠ [] := by cases c.vocabulary <;> exact List.cons_ne_nil _ _
  rw [build, if_pos h]
  exact Catalog.ofEntries?_eq_ok_iff.2 ⟨rfl, hentries, Catalog.firstFault?_builtin c.vocabulary⟩

theorem CatalogSettings.build_ne_error_empty (c : CatalogSettings) : c.build ≠ .error .empty := by
  by_cases h : c.commands = []
  · rw [build_of_no_commands h]
    rintro ⟨⟩
  · rw [build, if_neg h]
    exact fun hempty => h (Catalog.ofEntries?_eq_error_empty_iff.1 hempty)

/-- **A list of entries is refused for its first offence**, and for nothing else. So entries after
the offence do not matter, the front of a list that is accepted is accepted, only a list without
entries is called empty, and the catalog of settings never is. -/
theorem Catalog.ofEntries?_blames_first (entries : List CatalogEntry) (replyPrefix : Text) :
    (entries ≠ [] → ∀ fault, ofEntries? entries replyPrefix = .error fault ↔
        ∃ earlier e later, FirstOffence entries earlier e later ∧ Blamed earlier e fault) ∧
      (entries ≠ [] → ∀ fault, ofEntries? entries replyPrefix = .error fault →
        ∀ more replyPrefix', ofEntries? (entries ++ more) replyPrefix' = .error fault) ∧
      (∀ c, ofEntries? entries replyPrefix = .ok c → ∀ front back, entries = front ++ back →
        front ≠ [] → ∀ replyPrefix', ofEntries? front replyPrefix' = .ok ⟨front, replyPrefix'⟩) ∧
      (ofEntries? entries replyPrefix = .error .empty ↔ entries = []) ∧
      ∀ settings : CatalogSettings, settings.build ≠ .error .empty ∧
        (settings.commands = [] → ∃ c, settings.build = .ok c) := by
  refine ⟨?_, ?_, ?_, ofEntries?_eq_error_empty_iff, ?_⟩
  · intro hne fault
    rw [ofEntries?_eq_error_iff, firstFault?_eq_some_iff]
    simp [hne]
  · intro hne fault hfault more replyPrefix'
    rw [ofEntries?_eq_error_iff] at hfault ⊢
    rcases hfault with ⟨hempty, -⟩ | ⟨-, hfault⟩
    · exact absurd hempty hne
    · refine .inr ⟨by simp [hne], ?_⟩
      rw [firstFault?_append, hfault, Option.some_or]
  · rintro c hok front back rfl hfront replyPrefix'
    obtain ⟨-, -, hnone⟩ := ofEntries?_eq_ok_iff.1 hok
    rw [firstFault?_append, Option.or_eq_none_iff] at hnone
    exact ofEntries?_eq_ok_iff.2 ⟨rfl, hfront, hnone.1⟩
  · exact fun settings => ⟨settings.build_ne_error_empty,
      fun h => ⟨_, CatalogSettings.build_of_no_commands h⟩⟩

/-- A list with three offences of three kinds, and its accepted front. -/
theorem Catalog.ofEntries?_blames_first_of_three :
    let front : List CatalogEntry := ["go", "go-on"].map fun verb => ⟨verb.toList, []⟩
    let entries := front ++ ["go", "quit", "a\u2003b"].map fun verb => ⟨verb.toList, []⟩
    ofEntries? entries [] = .error (.duplicate "go".toList) ∧
      (∃ earlier e later, FirstOffence entries earlier e later ∧
        Blamed earlier e (.duplicate "go".toList)) ∧
      ofEntries? (entries ++ entries) "> ".toList = .error (.duplicate "go".toList) ∧
      ofEntries? front [] = .ok ⟨front, []⟩ ∧
      ofEntries? (front.take 1) "> ".toList = .ok ⟨front.take 1, "> ".toList⟩ := by
  intro front entries
  have hne : entries ≠ [] := List.cons_ne_nil _ _
  have hfault : ofEntries? entries [] = .error (.duplicate "go".toList) := by decide
  have hok : ofEntries? front [] = .ok ⟨front, []⟩ := by decide
  obtain ⟨hfirst, hmore, -⟩ := ofEntries?_blames_first entries []
  obtain ⟨-, -, hfront, -⟩ := ofEntries?_blames_first front []
  refine ⟨hfault, (hfirst hne _).1 hfault, hmore hne _ hfault entries _, hok, ?_⟩
  exact hfront _ hok (front.take 1) (front.drop 1) (List.take_append_drop 1 front).symm
    (List.cons_ne_nil _ _) _

end OperatorShell
