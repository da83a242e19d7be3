import OperatorShell.Completion
import OperatorShell.Proofs.Acceptance

/-!
# Completion and routing

Completion cuts a line at a byte offset and skips the blanks before the cursor. Routing cuts the
line into words. Both have the same first word, for every line and every place of the cursor that is
not inside a character.

* `Text.slice?`, `Text.splice?`: the text between two byte offsets, and a text with that part
  replaced.
* `Text.WordAt`: the bytes that the first word of a line occupies.
* `Completion.Offer`: what is offered at a place of the cursor, in terms of routing.
* `Completion.offers_routed_verbs`: completion offers exactly that.
-/

namespace OperatorShell

namespace Text

/-! ## Cuts at byte offsets -/

/-- The text between two byte offsets. -/
def slice? (t : Text) (start stop : Nat) : Option Text := do
  let (before, _) ← splitAtByte? t stop
  let (_, part) ← splitAtByte? before start
  return part

/-- A text with what is between two byte offsets replaced. -/
def splice? (t : Text) (start stop : Nat) (new : Text) : Option Text := do
  let (before, after) ← splitAtByte? t stop
  let (kept, _) ← splitAtByte? before start
  return kept ++ new ++ after

theorem splitAtByte?_append (before after : Text) :
    splitAtByte? (before ++ after) (byteLength before) = some (before, after) := by
  induction before with
  | nil => cases after <;> rfl
  | cons c before ih =>
    have hpos := c.utf8Size_pos
    obtain ⟨n, hn⟩ : ∃ n, byteLength (c :: before) = n + 1 :=
      ⟨byteLength (c :: before) - 1, by simp only [byteLength]; omega⟩
    have hle : c.utf8Size ≤ n + 1 := by rw [← hn, byteLength]; omega
    have hrest : n + 1 - c.utf8Size = byteLength before := by rw [← hn, byteLength]; omega
    rw [hn, List.cons_append, splitAtByte?, if_pos hle, hrest, ih]
    rfl

theorem exists_append_of_byteLength_le {a b c d : Text} (heq : a ++ b = c ++ d)
    (hle : byteLength a ≤ byteLength c) : ∃ m, c = a ++ m ∧ b = m ++ d := by
  rcases List.append_eq_append_iff.1 heq with ⟨m, hc, hb⟩ | ⟨m, ha, hd⟩
  · exact ⟨m, hc, hb⟩
  · have hm : m = [] := by
      apply byteLength_eq_zero_iff.1
      rw [ha, byteLength_append] at hle
      omega
    subst hm
    exact ⟨[], by simpa using ha.symm, by simpa using hd.symm⟩

theorem slice?_append (before part after : Text) :
    slice? (before ++ part ++ after) (byteLength before) (byteLength (before ++ part)) =
      some part := by
  simp only [slice?, splitAtByte?_append, Option.bind_eq_bind, Option.bind_some, Option.pure_def]

theorem splice?_append (before part after new : Text) :
    splice? (before ++ part ++ after) (byteLength before) (byteLength (before ++ part)) new =
      some (before ++ new ++ after) := by
  simp only [splice?, splitAtByte?_append, Option.bind_eq_bind, Option.bind_some, Option.pure_def]

/-! ## The place of the first word -/

/-- The first word of a line occupies the bytes from `start` on, up to `stop`. -/
def WordAt (line word : Text) (start stop : Nat) : Prop :=
  ∃ blanks rest, line = blanks ++ word ++ rest ∧ isAllBlank blanks = true ∧ word ≠ [] ∧
    word.any isBlank = false ∧ StartsBlank rest ∧ start = byteLength blanks ∧
    stop = byteLength (blanks ++ word)

theorem exists_wordAt_iff {line word : Text} :
    (∃ start stop, WordAt line word start stop) ↔ firstWord? line = some word := by
  rw [firstWord?_eq_some_iff]
  constructor
  · rintro ⟨start, stop, blanks, rest, hline, hb, hne, hw, hrest, -, -⟩
    exact ⟨blanks, rest, hline, hb, hne, hw, hrest⟩
  · rintro ⟨blanks, rest, hline, hb, hne, hw, hrest⟩
    exact ⟨_, _, blanks, rest, hline, hb, hne, hw, hrest, rfl, rfl⟩

end Text

namespace Completion

variable {verbs : List Text}

/-! ## The completion of a text before the cursor -/

theorem ofTyped_word {blanks word : Text} (hb : Text.isAllBlank blanks = true)
    (hw : word.any Text.isBlank = false) (cursor : Nat) :
    ofTyped verbs (blanks ++ word) cursor =
      ⟨Text.byteLength blanks, verbs.filter word.isPrefixOf⟩ := by
  have hword : Text.trimStart (blanks ++ word) = word := by
    rw [Text.trimStart_append hb, Text.trimStart_of_no_blank hw]
  simp [ofTyped, hword, hw]

theorem ofTyped_past_word {typed : Text} (h : (Text.trimStart typed).any Text.isBlank = true)
    (cursor : Nat) : ofTyped verbs typed cursor = ⟨cursor, []⟩ := by
  rw [ofTyped, if_pos h]

theorem exists_word_of_mem_candidates {typed verb : Text} {cursor : Nat}
    (h : verb ∈ (ofTyped verbs typed cursor).candidates) :
    ∃ blanks word, typed = blanks ++ word ∧ Text.isAllBlank blanks = true ∧
      word.any Text.isBlank = false := by
  obtain ⟨blanks, htyped, hb⟩ := Text.exists_blanks_append_trimStart typed
  refine ⟨blanks, Text.trimStart typed, htyped, hb, Bool.eq_false_iff.2 fun hpast => ?_⟩
  rw [ofTyped_past_word hpast] at h
  simp at h

theorem mem_filter_isPrefixOf {word verb : Text} :
    verb ∈ verbs.filter word.isPrefixOf ↔ verb ∈ verbs ∧ word <+: verb := by
  rw [List.mem_filter, List.isPrefixOf_iff_prefix]

theorem at?_append (typed rest : Text) :
    at? verbs (typed ++ rest) (Text.byteLength typed) =
      some (ofTyped verbs typed (Text.byteLength typed)) := by
  rw [at?, Text.splitAtByte?_append]
  rfl

/-! ## Offers -/

/-- What is offered for the verbs of a catalog when the cursor is between `typed` and `rest`. -/
structure Offer (c : Catalog) (typed rest : Text) (offer : Completion) : Prop where
  /-- Any candidate, taken at the end of the line or before a blank, makes the line a command with
  this candidate as its verb. -/
  routes : Text.StartsBlank rest → ∀ verb ∈ offer.candidates, ∃ line,
    Text.splice? (typed ++ rest) offer.start (Text.byteLength typed) verb = some line ∧
      Input.classify c line = .command line ∧ Text.firstWord? line = some verb
  unreserved : ∀ verb ∈ offer.candidates, isReserved verb = false
  /-- With the cursor on the verb of a command, or at either end of it, the verb is a candidate. -/
  onVerb : Input.classify c (typed ++ rest) = .command (typed ++ rest) →
    ∀ verb start stop, Text.WordAt (typed ++ rest) verb start stop →
      start ≤ Text.byteLength typed → Text.byteLength typed ≤ stop →
        offer.start = start ∧ verb ∈ offer.candidates
  /-- With the cursor before the verb of a command, all verbs are candidates. -/
  beforeVerb : Input.classify c (typed ++ rest) = .command (typed ++ rest) →
    ∀ verb start stop, Text.WordAt (typed ++ rest) verb start stop →
      Text.byteLength typed < start → offer = ⟨Text.byteLength typed, c.verbs⟩
  /-- With the cursor past the verb of a command, none is. -/
  pastVerb : Input.classify c (typed ++ rest) = .command (typed ++ rest) →
    ∀ verb start stop, Text.WordAt (typed ++ rest) verb start stop →
      stop < Text.byteLength typed → offer.candidates = []
  /-- Candidates are the verbs that extend the part to be replaced, once each and in the order of
  the catalog. -/
  exactly : offer.candidates ≠ [] → ∃ part,
    Text.slice? (typed ++ rest) offer.start (Text.byteLength typed) = some part ∧
      (∀ verb, verb ∈ offer.candidates ↔ verb ∈ c.verbs ∧ part <+: verb) ∧
      offer.candidates.Nodup ∧ offer.candidates.Sublist c.verbs

variable {c : Catalog} {typed rest verb : Text} {start stop : Nat}

theorem start_of_wordAt (hat : Text.WordAt (typed ++ rest) verb start stop)
    (hstart : start ≤ Text.byteLength typed) (hstop : Text.byteLength typed ≤ stop) :
    ∃ blanks word, typed = blanks ++ word ∧ Text.isAllBlank blanks = true ∧
      word.any Text.isBlank = false ∧ start = Text.byteLength blanks ∧ word <+: verb := by
  obtain ⟨blanks, tail, hline, hb, -, hw, -, rfl, rfl⟩ := hat
  rw [List.append_assoc] at hline
  obtain ⟨word, rfl, hrest⟩ := Text.exists_append_of_byteLength_le hline.symm hstart
  have hword : Text.byteLength word ≤ Text.byteLength verb := by
    rw [Text.byteLength_append, Text.byteLength_append] at hstop
    omega
  obtain ⟨more, rfl, -⟩ := Text.exists_append_of_byteLength_le hrest.symm hword
  rw [List.any_append, Bool.or_eq_false_iff] at hw
  exact ⟨blanks, word, rfl, hb, hw.1, rfl, List.prefix_append _ _⟩

theorem isAllBlank_of_lt_wordAt (hat : Text.WordAt (typed ++ rest) verb start stop)
    (hlt : Text.byteLength typed < start) : Text.isAllBlank typed = true := by
  obtain ⟨blanks, tail, hline, hb, -, -, -, rfl, -⟩ := hat
  rw [List.append_assoc] at hline
  obtain ⟨more, rfl, -⟩ := Text.exists_append_of_byteLength_le hline (Nat.le_of_lt hlt)
  rw [Text.isAllBlank, List.all_append, Bool.and_eq_true] at hb
  exact hb.1

theorem any_isBlank_of_wordAt_lt (hat : Text.WordAt (typed ++ rest) verb start stop)
    (hlt : stop < Text.byteLength typed) : (Text.trimStart typed).any Text.isBlank = true := by
  obtain ⟨blanks, tail, hline, hb, hne, hw, htail, -, rfl⟩ := hat
  obtain ⟨more, rfl, hmore⟩ := Text.exists_append_of_byteLength_le hline.symm (Nat.le_of_lt hlt)
  cases more with
  | nil => simp at hlt
  | cons b more =>
    have hblank : Text.isBlank b = true := htail b (by simp [hmore])
    obtain ⟨a, verb, rfl⟩ := List.exists_cons_of_ne_nil hne
    have ha : Text.isBlank a = false := by simp at hw; exact hw.1
    rw [List.append_assoc, Text.trimStart_append hb]
    simp [Text.trimStart, ha, hblank]

theorem mem_verbs_of_mem_candidates {cursor : Nat}
    (h : verb ∈ (ofTyped verbs typed cursor).candidates) : verb ∈ verbs := by
  obtain ⟨blanks, word, rfl, hb, hw⟩ := exists_word_of_mem_candidates h
  rw [ofTyped_word hb hw] at h
  exact (mem_filter_isPrefixOf.1 h).1

theorem routes_candidate (accepted : c.Accepted) (hrest : Text.StartsBlank rest)
    (h : verb ∈ (ofTyped c.verbs typed (Text.byteLength typed)).candidates) :
    ∃ line, Text.splice? (typed ++ rest) (ofTyped c.verbs typed (Text.byteLength typed)).start
        (Text.byteLength typed) verb = some line ∧
      Input.classify c line = .command line ∧ Text.firstWord? line = some verb := by
  have hmem := mem_verbs_of_mem_candidates h
  have hword := Catalog.isWord_iff.1 (accepted.isVerb hmem).1
  obtain ⟨blanks, word, rfl, hb, hw⟩ := exists_word_of_mem_candidates h
  have hfirst := Text.firstWord?_append hb hword.1 hword.2 hrest
  rw [ofTyped_word hb hw]
  exact ⟨_, Text.splice?_append blanks word rest verb, accepted.classify_eq_command hmem hfirst,
    hfirst⟩

/-- **Completion and routing agree.** At every place between two characters of a line there is an
offer; it depends on the text before the cursor alone, and is what routing has it be. -/
theorem offers_routed_verbs (c : Catalog) (accepted : c.Accepted) (typed : Text) :
    ∃ offer, ∀ rest, at? c.verbs (typed ++ rest) (Text.byteLength typed) = some offer ∧
      Offer c typed rest offer := by
  refine ⟨_, fun rest => ⟨at?_append typed rest, ?_⟩⟩
  constructor
  case routes => exact fun hrest verb hverb => routes_candidate accepted hrest hverb
  case unreserved =>
    exact fun verb hverb => (accepted.isVerb (mem_verbs_of_mem_candidates hverb)).2
  case onVerb =>
    intro hcommand verb start stop hat hstart hstop
    have hverb := Catalog.mem_verbs_of_command hcommand (Text.exists_wordAt_iff.1 ⟨_, _, hat⟩)
    obtain ⟨blanks, word, rfl, hb, hw, rfl, hfront⟩ := start_of_wordAt hat hstart hstop
    rw [ofTyped_word hb hw]
    exact ⟨rfl, mem_filter_isPrefixOf.2 ⟨hverb, hfront⟩⟩
  case beforeVerb =>
    intro _ verb start stop hat hlt
    have hblank := isAllBlank_of_lt_wordAt hat hlt
    have hoffer : ofTyped c.verbs (typed ++ []) (Text.byteLength typed) =
        ⟨Text.byteLength typed, c.verbs.filter (List.isPrefixOf [])⟩ := ofTyped_word hblank rfl _
    rw [List.append_nil] at hoffer
    rw [hoffer]
    simp
  case pastVerb =>
    intro _ verb start stop hat hlt
    rw [ofTyped_past_word (any_isBlank_of_wordAt_lt hat hlt)]
  case exactly =>
    intro hsome
    obtain ⟨verb, hverb⟩ := List.exists_mem_of_ne_nil _ hsome
    obtain ⟨blanks, word, rfl, hb, hw⟩ := exists_word_of_mem_candidates hverb
    rw [ofTyped_word hb hw]
    exact ⟨word, Text.slice?_append blanks word rest, fun verb => mem_filter_isPrefixOf,
      accepted.nodup_verbs.filter _, List.filter_sublist⟩

/-- Characters and blanks of several bytes: the cursor is at byte 5, after a wide blank and two
letters. -/
theorem offers_routed_verbs_after_wide_blank :
    let c : Catalog :=
      ⟨["gr\u00f6\u00dfe", "go", "gr\u00fcn"].map fun verb => ⟨verb.toList, []⟩, []⟩
    let offer : Completion := ⟨3, ["gr\u00f6\u00dfe".toList, "gr\u00fcn".toList]⟩
    c.Accepted ∧ at? c.verbs "\u3000gr x".toList 5 = some offer ∧
      Offer c "\u3000gr".toList " x".toList offer := by
  intro c offer
  have accepted : c.Accepted :=
    .inl ⟨c.entries, [], Catalog.ofEntries?_eq_ok_iff.2 ⟨rfl, by decide, by decide⟩⟩
  obtain ⟨found, hfound⟩ := offers_routed_verbs c accepted "\u3000gr".toList
  obtain ⟨hat, hoffer⟩ := hfound " x".toList
  have heq : at? c.verbs "\u3000gr x".toList 5 = some offer := by decide
  obtain rfl : offer = found := Option.some.inj (heq.symm.trans hat)
  exact ⟨accepted, heq, hoffer⟩

end Completion

end OperatorShell
