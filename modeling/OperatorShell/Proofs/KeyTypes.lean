import OperatorShell.Proofs.KnownKeys

/-!
# Types of known keys

A document says something of every setting exactly if the values of its known keys have their types
and its commands have verbs. Keys that are not known, and the order of those that are, change
nothing of what it says.

* `Settings.knownKeys`: the known keys of every section, with their types.
* `Settings.WellTyped`, `Settings.exists_says_iff`: when a document holds settings.
* `Settings.Alike`, `Settings.SameKnown`: documents that differ in what does not matter;
  `Settings.says_congr`: they say the same.
-/

namespace OperatorShell.Settings

open Document (Node Entries)

variable {α β : Type}

/-! ## Types -/

/-- What may stand under a known key. -/
inductive KeyType where
  | text
  | natural
  | flag
  | vocabulary
  | commands

def agentKeys : List (String × KeyType) := [
  ("address", .text), ("timeout_ms", .natural), ("connect_timeout_ms", .natural),
  ("fail_fast", .flag), ("cancel_on_interrupt", .flag)]

def catalogKeys : List (String × KeyType) := [
  ("variant", .vocabulary), ("output_prefix", .text), ("commands", .commands)]

def shellKeys : List (String × KeyType) := [("prompt", .text), ("color", .flag)]

def auditKeys : List (String × KeyType) := [("enabled", .flag), ("path", .text)]

/-- The known keys of every section. -/
def knownKeys : List (String × List (String × KeyType)) := [
  ("agent", agentKeys), ("catalog", catalogKeys), ("shell", shellKeys), ("audit", auditKeys)]

/-- The known keys of a command. -/
def commandKeys : List (String × KeyType) := [("verb", .text), ("usage", .text)]

/-- Tables of commands: every one has a verb, and both keys stand for texts. -/
structure IsCommand (es : Entries) : Prop where
  verb : ∃ t, es.get? "verb".toList = some (.text t)
  usage : ∀ n, es.get? "usage".toList = some n → ∃ t, n = .text t

/-- The values of a type. -/
def KeyType.Holds : KeyType → Node → Prop
  | .text, n => ∃ t, n = .text t
  | .natural, n => ∃ k : Nat, n = .integer k
  | .flag, n => ∃ b, n = .boolean b
  | .vocabulary, n => n = .text "packet".toList ∨ n = .text "table".toList
  | .commands, n => ∃ tables, n.tables? = some tables ∧ ∀ es ∈ tables, IsCommand es

/-- The keys of a table, as far as they are present, have their types. -/
def Typed (keys : List (String × KeyType)) (es : Entries) : Prop :=
  ∀ key ∈ keys, ∀ n, es.get? key.1.toList = some n → key.2.Holds n

/-- All known keys that are present have their types. -/
def WellTyped (doc : Entries) : Prop :=
  ∀ part ∈ knownKeys, Typed part.2 (sectionOf doc part.1)

variable {es es' doc doc' : Entries} {name : String}

theorem exists_given_iff {τ : KeyType} {read : Node → Option α} {standard : α}
    (h : ∀ n, (∃ v, read n = some v) ↔ τ.Holds n) :
    (∃ v, given es name read standard = some v) ↔
      ∀ n, es.get? name.toList = some n → τ.Holds n := by
  unfold given
  cases es.get? name.toList with
  | none => simp
  | some n => simp [h n]

theorem typed_cons_iff {keys : List (String × KeyType)} {τ : KeyType} {read : Node → Option α}
    {standard : α} (h : ∀ n, (∃ v, read n = some v) ↔ τ.Holds n) :
    Typed ((name, τ) :: keys) es ↔
      (∃ v, given es name read standard = some v) ∧ Typed keys es := by
  rw [exists_given_iff h]
  exact List.forall_mem_cons

theorem typed_nil : Typed [] es := List.forall_mem_nil _

theorem exists_text?_iff (n : Node) : (∃ t, n.text? = some t) ↔ KeyType.text.Holds n := by
  simp only [text?_eq_some_iff]
  exact Iff.rfl

theorem exists_some_text?_iff (n : Node) :
    (∃ t, n.text?.map some = some t) ↔ KeyType.text.Holds n := by
  rw [← exists_text?_iff]
  cases n.text? <;> simp

theorem exists_natural?_iff (n : Node) :
    (∃ k, n.natural? = some k) ↔ KeyType.natural.Holds n := by
  cases n with
  | integer i =>
    constructor
    · rintro ⟨k, hk⟩
      rw [Node.natural?] at hk
      split_ifs at hk with hi
      exact ⟨i.toNat, by rw [Int.toNat_of_nonneg hi]⟩
    · rintro ⟨k, hk⟩
      cases hk
      exact ⟨k, rfl⟩
  | _ => simp [Node.natural?, KeyType.Holds]

theorem exists_flag?_iff (n : Node) : (∃ b, n.flag? = some b) ↔ KeyType.flag.Holds n := by
  cases n <;> simp [Node.flag?, KeyType.Holds]

theorem exists_vocabulary?_iff (n : Node) :
    (∃ v, n.vocabulary? = some v) ↔ KeyType.vocabulary.Holds n := by
  cases n with
  | text t =>
    simp only [Node.vocabulary?, KeyType.Holds, Node.text.injEq]
    by_cases hpacket : t = "packet".toList
    · exact iff_of_true ⟨.packet, if_pos hpacket⟩ (.inl hpacket)
    · rw [if_neg hpacket]
      by_cases htable : t = "table".toList
      · exact iff_of_true ⟨.table, if_pos htable⟩ (.inr htable)
      · rw [if_neg htable]
        exact iff_of_false (by simp) fun h => h.elim hpacket htable
  | _ => simp [Node.vocabulary?, KeyType.Holds]

/-! ## When a document holds settings -/

theorem exists_agentSays_iff : (∃ a, AgentSays es a) ↔ Typed agentKeys es := by
  constructor
  · rintro ⟨a, h⟩
    apply (typed_cons_iff exists_text?_iff).2 ⟨⟨_, h.address⟩, ?_⟩
    apply (typed_cons_iff exists_natural?_iff).2 ⟨⟨_, h.timeout⟩, ?_⟩
    apply (typed_cons_iff exists_natural?_iff).2 ⟨⟨_, h.connectTimeout⟩, ?_⟩
    apply (typed_cons_iff exists_flag?_iff).2 ⟨⟨_, h.failFast⟩, ?_⟩
    exact (typed_cons_iff exists_flag?_iff).2 ⟨⟨_, h.cancelOnInterrupt⟩, typed_nil⟩
  · intro h
    obtain ⟨⟨address, haddress⟩, h⟩ := (typed_cons_iff exists_text?_iff).1 h
    obtain ⟨⟨timeout, htimeout⟩, h⟩ := (typed_cons_iff exists_natural?_iff).1 h
    obtain ⟨⟨connectTimeout, hconnect⟩, h⟩ := (typed_cons_iff exists_natural?_iff).1 h
    obtain ⟨⟨failFast, hfail⟩, h⟩ := (typed_cons_iff exists_flag?_iff).1 h
    obtain ⟨⟨cancel, hcancel⟩, -⟩ := (typed_cons_iff exists_flag?_iff).1 h
    exact ⟨⟨address, timeout, connectTimeout, failFast, cancel⟩,
      haddress, htimeout, hconnect, hfail, hcancel⟩

theorem exists_shellSays_iff : (∃ s, ShellSays es s) ↔ Typed shellKeys es := by
  constructor
  · rintro ⟨s, h⟩
    apply (typed_cons_iff exists_text?_iff).2 ⟨⟨_, h.prompt⟩, ?_⟩
    exact (typed_cons_iff exists_flag?_iff).2 ⟨⟨_, h.color⟩, typed_nil⟩
  · intro h
    obtain ⟨⟨prompt, hprompt⟩, h⟩ := (typed_cons_iff exists_text?_iff).1 h
    obtain ⟨⟨color, hcolor⟩, -⟩ := (typed_cons_iff exists_flag?_iff).1 h
    exact ⟨⟨prompt, color⟩, hprompt, hcolor⟩

theorem exists_auditSays_iff : (∃ a, AuditSays es a) ↔ Typed auditKeys es := by
  constructor
  · rintro ⟨a, h⟩
    apply (typed_cons_iff exists_flag?_iff).2 ⟨⟨_, h.enabled⟩, ?_⟩
    exact (typed_cons_iff exists_some_text?_iff).2 ⟨⟨_, h.path⟩, typed_nil⟩
  · intro h
    obtain ⟨⟨enabled, henabled⟩, h⟩ := (typed_cons_iff exists_flag?_iff).1 h
    obtain ⟨⟨path, hpath⟩, -⟩ := (typed_cons_iff exists_some_text?_iff).1 h
    exact ⟨⟨enabled, path⟩, henabled, hpath⟩

theorem exists_commandSays_iff : (∃ c, CommandSays es c) ↔ IsCommand es := by
  constructor
  · rintro ⟨c, h⟩
    exact ⟨⟨_, h.verb⟩, (exists_given_iff exists_text?_iff).1 ⟨_, h.usage⟩⟩
  · rintro ⟨⟨verb, hverb⟩, husage⟩
    have hgiven : ∃ t, given es "usage" Node.text? [] = some t :=
      (exists_given_iff exists_text?_iff).2 husage
    obtain ⟨usage, husage⟩ := hgiven
    exact ⟨⟨verb, usage⟩, hverb, husage⟩

theorem exists_forall₂_iff {R : α → β → Prop} {xs : List α} :
    (∃ ys, List.Forall₂ R xs ys) ↔ ∀ x ∈ xs, ∃ y, R x y := by
  induction xs with
  | nil => exact iff_of_true ⟨[], .nil⟩ (List.forall_mem_nil _)
  | cons x xs ih =>
    rw [List.forall_mem_cons, ← ih]
    constructor
    · rintro ⟨ys, h⟩
      cases h with
      | cons hhead htail => exact ⟨⟨_, hhead⟩, _, htail⟩
    · rintro ⟨⟨y, hhead⟩, ys, htail⟩
      exact ⟨y :: ys, .cons hhead htail⟩

theorem exists_catalogSays_iff
    (hcommands : ∀ n, es.get? "commands".toList = some n → ∃ tables, n.tables? = some tables) :
    (∃ c, CatalogSays es c) ↔ Typed catalogKeys es := by
  have htables : (∃ cs, List.Forall₂ CommandSays (commandTables es) cs) ↔
      ∀ n, es.get? "commands".toList = some n → KeyType.commands.Holds n := by
    rw [exists_forall₂_iff, commandTables]
    simp only [exists_commandSays_iff]
    cases hget : es.get? "commands".toList with
    | none => simp
    | some n =>
      obtain ⟨tables, htables⟩ := hcommands n hget
      simp [KeyType.Holds, htables]
  have hlast : Typed [("commands", .commands)] es ↔
      ∃ cs, List.Forall₂ CommandSays (commandTables es) cs := by
    rw [htables]
    exact List.forall_mem_singleton
  constructor
  · rintro ⟨c, h⟩
    apply (typed_cons_iff exists_vocabulary?_iff).2 ⟨⟨_, h.vocabulary⟩, ?_⟩
    apply (typed_cons_iff exists_some_text?_iff).2 ⟨⟨_, h.replyPrefix⟩, ?_⟩
    exact hlast.2 ⟨_, h.commands⟩
  · intro h
    obtain ⟨⟨vocabulary, hvocabulary⟩, h⟩ := (typed_cons_iff exists_vocabulary?_iff).1 h
    obtain ⟨⟨replyPrefix, hprefix⟩, h⟩ := (typed_cons_iff exists_some_text?_iff).1 h
    obtain ⟨commands, hcs⟩ := hlast.1 h
    exact ⟨⟨vocabulary, replyPrefix, commands⟩, hvocabulary, hprefix, hcs⟩

/-- **When a document holds settings.** -/
theorem exists_says_iff (hshape : Shaped doc) : (∃ s, Says doc s) ↔ WellTyped doc := by
  simp only [WellTyped, knownKeys, List.forall_mem_cons, List.not_mem_nil, IsEmpty.forall_iff,
    implies_true, and_true, ← exists_agentSays_iff, ← exists_shellSays_iff, ← exists_auditSays_iff,
    ← exists_catalogSays_iff hshape.commands]
  constructor
  · rintro ⟨s, h⟩
    exact ⟨⟨_, h.agent⟩, ⟨_, h.catalog⟩, ⟨_, h.shell⟩, ⟨_, h.audit⟩⟩
  · rintro ⟨⟨agent, hagent⟩, ⟨catalog, hcatalog⟩, ⟨shell, hshell⟩, ⟨audit, haudit⟩⟩
    exact ⟨⟨agent, catalog, shell, audit⟩, hagent, hcatalog, hshell, haudit⟩

/-! ## What does not matter -/

variable {τ : Type} {keys : List (String × τ)} {R : τ → Node → Node → Prop}

/-- The entries of a table with known keys. -/
def known (keys : List (String × τ)) (es : Entries) : Entries :=
  es.filter fun e => e.1 ∈ keys.map fun key => key.1.toList

/-- Tables whose entries with known keys are alike, in whatever order, and among whatever others. -/
def Alike (keys : List (String × τ)) (R : τ → Node → Node → Prop) (es es' : Entries) : Prop :=
  ∃ shared, shared.Perm (known keys es) ∧
    List.Forall₂ (fun e e' => e.1 = e'.1 ∧ ∀ key ∈ keys, key.1.toList = e.1 → R key.2 e.2 e'.2)
      shared (known keys es')

/-- Values that say the same: commands may differ in what does not matter of a command. -/
def KeyType.Same : KeyType → Node → Node → Prop
  | .commands, n, n' => ∃ tables tables', n.tables? = some tables ∧ n'.tables? = some tables' ∧
      List.Forall₂ (Alike commandKeys fun _ => Eq) tables tables'
  | _, n, n' => n = n'

/-- Sections that say the same. -/
def SameSection (keys : List (String × KeyType)) (n n' : Node) : Prop :=
  ∃ es es', n.table? = some es ∧ n'.table? = some es' ∧ Alike keys KeyType.Same es es'

/-- Documents that differ at most in unknown keys and in the order of keys, at every level, and in
the form of their tables. A section without known keys may as well be absent. -/
def SameKnown (doc doc' : Entries) : Prop :=
  ∀ part ∈ knownKeys, Alike part.2 KeyType.Same (sectionOf doc part.1) (sectionOf doc' part.1)

theorem exists_mem_right {R : α → β → Prop} {xs : List α} {ys : List β}
    (h : List.Forall₂ R xs ys) {x : α} (hx : x ∈ xs) : ∃ y ∈ ys, R x y := by
  induction h with
  | nil => cases hx
  | cons hhead _ ih =>
    rcases List.mem_cons.1 hx with rfl | hx
    · exact ⟨_, List.mem_cons_self, hhead⟩
    · obtain ⟨y, hy, hxy⟩ := ih hx
      exact ⟨y, List.mem_cons_of_mem _ hy, hxy⟩

theorem exists_mem_left {R : α → β → Prop} {xs : List α} {ys : List β}
    (h : List.Forall₂ R xs ys) {y : β} (hy : y ∈ ys) : ∃ x ∈ xs, R x y :=
  exists_mem_right h.flip hy

theorem mem_known_iff {k : Text} {n : Node} :
    (k, n) ∈ known keys es ↔ (k, n) ∈ es ∧ ∃ key ∈ keys, key.1.toList = k := by
  simp [known]

theorem alike_nil : Alike keys R [] [] := ⟨[], .refl _, .nil⟩

theorem Alike.cons (h : Alike keys R es es') (hkeys : (keys.map Prod.fst).Nodup) {t : τ}
    (hkey : (name, t) ∈ keys) {n n' : Node} (hR : R t n n') :
    Alike keys R ((name.toList, n) :: es) ((name.toList, n') :: es') := by
  obtain ⟨shared, hperm, hall⟩ := h
  have hmem : name.toList ∈ keys.map fun key => key.1.toList := List.mem_map.2 ⟨_, hkey, rfl⟩
  rw [Alike, known, known, List.filter_cons_of_pos (by simpa using hmem),
    List.filter_cons_of_pos (by simpa using hmem)]
  refine ⟨_, hperm.cons _, .cons ⟨rfl, fun key hkey' heq => ?_⟩ hall⟩
  -- no other key has the name
  have hsame := List.inj_on_of_nodup_map hkeys hkey' hkey (String.toList_inj.1 heq)
  rw [hsame]
  exact hR

theorem Alike.of_perm {es₀ : Entries} (h : Alike keys R es es') (hperm : es₀.Perm es) :
    Alike keys R es₀ es' := by
  obtain ⟨shared, hshared, hall⟩ := h
  exact ⟨shared, hshared.trans (hperm.filter _).symm, hall⟩

theorem Alike.cons_unknown (h : Alike keys R es es') {k : Text}
    (hk : k ∉ keys.map fun key => key.1.toList) (n : Node) : Alike keys R ((k, n) :: es) es' := by
  rw [Alike, known, List.filter_cons_of_neg (by simpa using hk)]
  exact h

theorem Alike.cons_unknown_right (h : Alike keys R es es') {k : Text}
    (hk : k ∉ keys.map fun key => key.1.toList) (n : Node) : Alike keys R es ((k, n) :: es') := by
  rw [Alike, known, known, List.filter_cons_of_neg (by simpa using hk)]
  exact h

theorem Alike.get? (h : Alike keys R es es') (hes : (es.map Prod.fst).Nodup)
    (hes' : (es'.map Prod.fst).Nodup) (key : String × τ) (hkey : key ∈ keys) :
    Option.Rel (R key.2) (es.get? key.1.toList) (es'.get? key.1.toList) := by
  obtain ⟨shared, hperm, hall⟩ := h
  cases hget : es.get? key.1.toList with
  | some n =>
    have hmem : (key.1.toList, n) ∈ shared :=
      hperm.mem_iff.2 (mem_known_iff.2 ⟨Entries.mem_of_get? hget, key, hkey, rfl⟩)
    obtain ⟨⟨k, n'⟩, hmem', rfl, hR⟩ := exists_mem_right hall hmem
    rw [Entries.get?_of_mem hes' (mem_known_iff.1 hmem').1]
    exact .some (hR key hkey rfl)
  | none =>
    cases hget' : es'.get? key.1.toList with
    | none => exact .none
    | some n' =>
      -- a value on the other side alone would have a partner here
      have hmem : (key.1.toList, n') ∈ known keys es' :=
        mem_known_iff.2 ⟨Entries.mem_of_get? hget', key, hkey, rfl⟩
      obtain ⟨⟨k, n⟩, hmem', rfl, -⟩ := exists_mem_left hall hmem
      rw [Entries.get?_of_mem hes (mem_known_iff.1 (hperm.mem_iff.1 hmem')).1] at hget
      cases hget

theorem Alike.get?_eq (h : Alike keys R es es') (hes : (es.map Prod.fst).Nodup)
    (hes' : (es'.map Prod.fst).Nodup) (key : String × τ) (hkey : key ∈ keys)
    (heq : ∀ n n', R key.2 n n' → n = n') :
    es.get? key.1.toList = es'.get? key.1.toList := by
  have hrel := h.get? hes hes' key hkey
  generalize es.get? key.1.toList = value, es'.get? key.1.toList = value' at hrel ⊢
  cases hrel with
  | some hR => rw [heq _ _ hR]
  | none => rfl

theorem sameKnown_of_alike (h : Alike knownKeys SameSection doc doc') (hdoc : doc.Tidy)
    (hdoc' : doc'.Tidy) : SameKnown doc doc' := by
  intro part hpart
  have hrel := h.get? hdoc.keys hdoc'.keys part hpart
  rw [sectionOf, sectionOf]
  generalize doc.get? part.1.toList = value, doc'.get? part.1.toList = value' at hrel ⊢
  cases hrel with
  | none => exact alike_nil
  | some hsame =>
    obtain ⟨es, es', hes, hes', halike⟩ := hsame
    simpa only [Option.bind_some, hes, hes', Option.getD_some] using halike

theorem forall₂_commandTables (h : Alike catalogKeys KeyType.Same es es') (hes : es.Tidy)
    (hes' : es'.Tidy) :
    List.Forall₂ (Alike commandKeys fun _ => Eq) (commandTables es) (commandTables es') := by
  have hrel := h.get? hes.keys hes'.keys ("commands", .commands) (by simp [catalogKeys])
  dsimp only at hrel
  rw [commandTables, commandTables]
  generalize es.get? "commands".toList = value, es'.get? "commands".toList = value' at hrel ⊢
  cases hrel with
  | none => exact .nil
  | some hsame =>
    obtain ⟨tables, tables', htables, htables', hall⟩ := hsame
    simpa only [Option.bind_some, htables, htables', Option.getD_some] using hall

theorem given_congr {read : Node → Option α} {standard : α}
    (h : es.get? name.toList = es'.get? name.toList) :
    given es name read standard = given es' name read standard := by
  rw [given, h, given]

theorem commandSays_congr {c : CatalogEntry} (h : Alike commandKeys (fun _ => Eq) es es')
    (hes : es.Tidy) (hes' : es'.Tidy) : CommandSays es c ↔ CommandSays es' c := by
  have hverb := h.get?_eq hes.keys hes'.keys ("verb", .text) (by simp [commandKeys]) fun _ _ => id
  have husage := h.get?_eq hes.keys hes'.keys ("usage", .text) (by simp [commandKeys]) fun _ _ => id
  constructor
  · rintro ⟨h1, h2⟩
    exact ⟨hverb ▸ h1, given_congr husage ▸ h2⟩
  · rintro ⟨h1, h2⟩
    exact ⟨hverb ▸ h1, given_congr husage ▸ h2⟩

theorem tidy_commandTables (hes : es.Tidy) : ∀ c ∈ commandTables es, Entries.Tidy c := by
  rw [commandTables]
  cases hget : es.get? "commands".toList with
  | none => exact List.forall_mem_nil _
  | some n =>
    cases htables : n.tables? with
    | none => simp [htables]
    | some tables => simpa [htables] using tidy_of_tables? (hes.get? hget) htables

theorem forall₂_commandSays_congr {tables tables' : List Entries} {cs : List CatalogEntry}
    (h : List.Forall₂ (Alike commandKeys fun _ => Eq) tables tables')
    (htidy : ∀ es ∈ tables, Entries.Tidy es) (htidy' : ∀ es ∈ tables', Entries.Tidy es) :
    List.Forall₂ CommandSays tables cs ↔ List.Forall₂ CommandSays tables' cs := by
  induction h generalizing cs with
  | nil => exact Iff.rfl
  | cons hhead _ ih =>
    obtain ⟨hfirst, hrest⟩ := List.forall_mem_cons.1 htidy
    obtain ⟨hfirst', hrest'⟩ := List.forall_mem_cons.1 htidy'
    simp only [List.forall₂_cons_left_iff, ih hrest hrest', commandSays_congr hhead hfirst hfirst']

theorem catalogSays_congr {c : CatalogSettings} (h : Alike catalogKeys KeyType.Same es es')
    (hes : es.Tidy) (hes' : es'.Tidy) : CatalogSays es c ↔ CatalogSays es' c := by
  have hvariant := h.get?_eq hes.keys hes'.keys ("variant", .vocabulary) (by simp [catalogKeys])
    fun _ _ => id
  have hprefix := h.get?_eq hes.keys hes'.keys ("output_prefix", .text) (by simp [catalogKeys])
    fun _ _ => id
  have hcommands : List.Forall₂ CommandSays (commandTables es) c.commands ↔
      List.Forall₂ CommandSays (commandTables es') c.commands :=
    forall₂_commandSays_congr (forall₂_commandTables h hes hes') (tidy_commandTables hes)
      (tidy_commandTables hes')
  constructor
  · rintro ⟨h1, h2, h3⟩
    exact ⟨given_congr hvariant ▸ h1, given_congr hprefix ▸ h2, hcommands.1 h3⟩
  · rintro ⟨h1, h2, h3⟩
    exact ⟨given_congr hvariant ▸ h1, given_congr hprefix ▸ h2, hcommands.2 h3⟩

theorem Alike.readByField_eq {ρ : Type} {fields : List (Field ρ)} {keys : List (String × KeyType)}
    (h : Alike keys KeyType.Same es es') (hes : es.Tidy) (hes' : es'.Tidy)
    (hnames : fields.map Field.name = keys.map fun key => key.1.toList)
    (hplain : ∀ key ∈ keys, key.2 ≠ .commands) (r : ρ) :
    readByField fields es r = readByField fields es' r := by
  refine readByField_congr (fun f hf => ?_) r
  have hmem : f.name ∈ keys.map fun key => key.1.toList := hnames ▸ List.mem_map_of_mem hf
  obtain ⟨⟨name, τ⟩, hkey, hname⟩ := List.mem_map.1 hmem
  rw [← hname]
  refine h.get?_eq hes.keys hes'.keys (name, τ) hkey fun n n' hsame => ?_
  have hne := hplain _ hkey
  cases τ with
  | commands => exact absurd rfl hne
  | _ => exact hsame

/-- **What does not matter.** Documents that differ in unknown keys and in the order of keys say the
same. -/
theorem says_congr {s : Settings} (h : SameKnown doc doc') (hdoc : doc.Tidy) (hdoc' : doc'.Tidy) :
    Says doc s ↔ Says doc' s := by
  have htidy := tidy_sectionOf hdoc
  have htidy' := tidy_sectionOf hdoc'
  have hagent : AgentSays (sectionOf doc "agent") s.agent ↔
      AgentSays (sectionOf doc' "agent") s.agent := by
    rw [← readByField_agentFields_iff, ← readByField_agentFields_iff,
      (h ("agent", agentKeys) (by simp [knownKeys])).readByField_eq (htidy _) (htidy' _) rfl
        (by simp [agentKeys])]
  have hcatalog : CatalogSays (sectionOf doc "catalog") s.catalog ↔
      CatalogSays (sectionOf doc' "catalog") s.catalog :=
    catalogSays_congr (h ("catalog", catalogKeys) (by simp [knownKeys])) (htidy _) (htidy' _)
  have hshell : ShellSays (sectionOf doc "shell") s.shell ↔
      ShellSays (sectionOf doc' "shell") s.shell := by
    rw [← readByField_shellFields_iff, ← readByField_shellFields_iff,
      (h ("shell", shellKeys) (by simp [knownKeys])).readByField_eq (htidy _) (htidy' _) rfl
        (by simp [shellKeys])]
  have haudit : AuditSays (sectionOf doc "audit") s.audit ↔
      AuditSays (sectionOf doc' "audit") s.audit := by
    rw [← readByField_auditFields_iff, ← readByField_auditFields_iff,
      (h ("audit", auditKeys) (by simp [knownKeys])).readByField_eq (htidy _) (htidy' _) rfl
        (by simp [auditKeys])]
  constructor
  · rintro ⟨h1, h2, h3, h4⟩
    exact ⟨hagent.1 h1, hcatalog.1 h2, hshell.1 h3, haudit.1 h4⟩
  · rintro ⟨h1, h2, h3, h4⟩
    exact ⟨hagent.2 h1, hcatalog.2 h2, hshell.2 h3, haudit.2 h4⟩

end OperatorShell.Settings
