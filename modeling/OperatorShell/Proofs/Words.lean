import OperatorShell.Text.Blank

/-!
# The first word of a text

`Text.firstWord?` cuts a text into blanks, a word, and a rest that is empty or starts with a blank.

* `firstWord?_eq_some_iff`: the word is the middle part of such a cut, and of no other.
* `firstWord?_eq_none_iff`: without a word, all of the text is blank.
-/

namespace OperatorShell.Text

/-- Where the rest of a text after its first word may start: nowhere, or at a blank. -/
def StartsBlank (t : Text) : Prop := ∀ c ∈ t.head?, isBlank c = true

theorem decide_ne_of_not_mem {t : Text} {separator : Char} (h : separator ∉ t) :
    ∀ ch ∈ t, decide (ch ≠ separator) = true := by
  intro ch hmem
  rw [decide_eq_true_iff]
  rintro rfl
  exact h hmem

theorem head_trimStart {t rest : Text} {c : Char} (h : trimStart t = c :: rest) :
    isBlank c = false := by
  have hhead := List.head?_dropWhile_not isBlank t
  rw [show t.dropWhile isBlank = c :: rest from h] at hhead
  exact hhead

theorem trimStart_eq_nil_iff {t : Text} : trimStart t = [] ↔ isAllBlank t = true := by
  induction t with
  | nil => simp [trimStart, isAllBlank]
  | cons c t ih =>
    by_cases hc : isBlank c = true
    · have hall : isAllBlank (c :: t) = isAllBlank t := by simp [isAllBlank, hc]
      rw [hall, ← ih, trimStart, List.dropWhile_cons_of_pos hc, trimStart]
    · simp [trimStart, isAllBlank, hc]

theorem trimStart_append {blanks rest : Text} (hb : isAllBlank blanks = true) :
    trimStart (blanks ++ rest) = trimStart rest :=
  List.dropWhile_append_of_pos (by simpa [isAllBlank] using hb)

theorem trimStart_of_no_blank {word : Text} (hw : word.any isBlank = false) :
    trimStart word = word := by
  cases word with
  | nil => rfl
  | cons c word =>
    have hc : isBlank c = false := by simp at hw; exact hw.1
    simp [trimStart, hc]

theorem exists_blanks_append_trimStart (t : Text) :
    ∃ blanks, t = blanks ++ trimStart t ∧ isAllBlank blanks = true :=
  ⟨t.takeWhile isBlank, List.takeWhile_append_dropWhile.symm, List.all_takeWhile⟩

theorem firstWord?_eq_none_iff {t : Text} : firstWord? t = none ↔ isAllBlank t = true := by
  rw [← trimStart_eq_nil_iff, firstWord?]
  split
  · next h => simp [h]
  · next c rest h => simp [h]

theorem startsBlank_dropWhile (t : Text) : StartsBlank (t.dropWhile fun c => !isBlank c) := by
  intro c hc
  have hhead := List.head?_dropWhile_not (fun c => !isBlank c) t
  rw [Option.mem_def.1 hc] at hhead
  simpa using hhead

theorem leadingWord_append {w rest : Text} (hw : w.any isBlank = false) (hrest : StartsBlank rest) :
    leadingWord (w ++ rest) = w := by
  have hall : ∀ c ∈ w, (!isBlank c) = true := by simpa using hw
  rw [leadingWord, List.takeWhile_append_of_pos hall]
  cases rest with
  | nil => simp
  | cons c rest => simp [hrest c (by simp)]

theorem firstWord?_append {blanks w rest : Text} (hb : isAllBlank blanks = true) (hne : w ≠ [])
    (hw : w.any isBlank = false) (hrest : StartsBlank rest) :
    firstWord? (blanks ++ w ++ rest) = some w := by
  obtain ⟨c, tail, rfl⟩ := List.exists_cons_of_ne_nil hne
  have hc : isBlank c = false := by simp at hw; exact hw.1
  have htrim : trimStart (blanks ++ (c :: tail) ++ rest) = c :: (tail ++ rest) := by
    rw [trimStart, List.append_assoc, List.dropWhile_append_of_pos (by simpa [isAllBlank] using hb)]
    simp [hc]
  rw [firstWord?, htrim]
  exact congrArg some (leadingWord_append hw hrest)

/-- A first word is a word: it is not empty, has no blank, and stands between blanks and a rest that
is empty or starts with a blank. -/
theorem firstWord?_eq_some_iff {t w : Text} :
    firstWord? t = some w ↔ ∃ blanks rest, t = blanks ++ w ++ rest ∧ isAllBlank blanks = true ∧
      w ≠ [] ∧ w.any isBlank = false ∧ StartsBlank rest := by
  constructor
  · intro h
    rw [firstWord?] at h
    split at h
    · simp at h
    · next c tail htrim =>
      obtain rfl := Option.some.inj h
      have hc := head_trimStart htrim
      refine ⟨t.takeWhile isBlank, (c :: tail).dropWhile fun c => !isBlank c, ?_, ?_, ?_, ?_,
        startsBlank_dropWhile _⟩
      · rw [List.append_assoc, leadingWord, List.takeWhile_append_dropWhile, ← htrim]
        exact List.takeWhile_append_dropWhile.symm
      · exact List.all_takeWhile
      · simp [leadingWord, hc]
      · have hall : (leadingWord (c :: tail)).all (fun c => !isBlank c) = true := List.all_takeWhile
        simpa using hall
  · rintro ⟨blanks, rest, rfl, hb, hne, hw, hrest⟩
    exact firstWord?_append hb hne hw hrest

theorem firstWord?_of_word {w : Text} (hne : w ≠ []) (hw : w.any isBlank = false) :
    firstWord? w = some w :=
  firstWord?_eq_some_iff.2 ⟨[], [], by simp, rfl, hne, hw, by simp [StartsBlank]⟩

end OperatorShell.Text
