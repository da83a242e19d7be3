import OperatorShell.Proofs.FieldOrder

/-!
# Known keys

What a document says of the settings is said key by key: a key that is present gives its value, one
that is absent leaves the default, and both in the same way whatever stands under the other keys.

* `Settings.given`: what a key gives, or its default.
* `Settings.Says`: what a document says of every setting.
* `Settings.Shaped`: documents whose sections are tables.
* `Settings.ofDocument_eq_ok_iff`: the settings that are read are those that the document says.
-/

namespace OperatorShell.Document.Node

/-- A text. -/
def text? : Node → Option Text
  | .text t => some t
  | _ => none

/-- An integer of at least zero. -/
def natural? : Node → Option Nat
  | .integer n => if 0 ≤ n then some n.toNat else none
  | _ => none

/-- Yes or no. -/
def flag? : Node → Option Bool
  | .boolean b => some b
  | _ => none

/-- The text `packet` or the text `table`. -/
def vocabulary? : Node → Option Vocabulary
  | .text t =>
    if t = "packet".toList then some .packet
    else if t = "table".toList then some .table
    else none
  | _ => none

/-- A table. -/
def table? : Node → Option Entries
  | .table _ es => some es
  | _ => none

/-- An array of tables, between brackets or under repeated headers. -/
def tables? : Node → Option (List Entries)
  | .array items => items.mapM table?
  | .tables items => some items
  | _ => none

end OperatorShell.Document.Node

namespace OperatorShell.Settings

open Document (Node Entries)

variable {ρ α : Type}

/-! ## What a document says -/

/-- What a key gives: what is read from its value, or the default if the key is absent. -/
def given (es : Entries) (name : String) (read : Node → Option α) (standard : α) : Option α :=
  match es.get? name.toList with
  | some node => read node
  | none => some standard

/-- The table of a section, without entries if the section is absent. -/
def sectionOf (doc : Entries) (name : String) : Entries :=
  ((doc.get? name.toList).bind Node.table?).getD []

/-- The tables of the commands, none if the key is absent. -/
def commandTables (es : Entries) : List Entries :=
  ((es.get? "commands".toList).bind Node.tables?).getD []

structure AgentSays (es : Entries) (a : AgentSettings) : Prop where
  address : given es "address" Node.text? standard.agent.address = some a.address
  timeout : given es "timeout_ms" Node.natural? standard.agent.timeout = some a.timeout
  connectTimeout : given es "connect_timeout_ms" Node.natural? standard.agent.connectTimeout =
    some a.connectTimeout
  failFast : given es "fail_fast" Node.flag? standard.agent.failFast = some a.failFast
  cancelOnInterrupt : given es "cancel_on_interrupt" Node.flag? standard.agent.cancelOnInterrupt =
    some a.cancelOnInterrupt

/-- A command has to have a verb; a usage that is left out is empty. -/
structure CommandSays (es : Entries) (c : CatalogEntry) : Prop where
  verb : es.get? "verb".toList = some (.text c.verb)
  usage : given es "usage" Node.text? [] = some c.usage

structure CatalogSays (es : Entries) (c : CatalogSettings) : Prop where
  vocabulary : given es "variant" Node.vocabulary? standard.catalog.vocabulary = some c.vocabulary
  replyPrefix : given es "output_prefix" (fun n => n.text?.map some) standard.catalog.replyPrefix =
    some c.replyPrefix
  commands : List.Forall₂ CommandSays (commandTables es) c.commands

structure ShellSays (es : Entries) (s : ShellSettings) : Prop where
  prompt : given es "prompt" Node.text? standard.shell.prompt = some s.prompt
  color : given es "color" Node.flag? standard.shell.color = some s.color

structure AuditSays (es : Entries) (a : AuditSettings) : Prop where
  enabled : given es "enabled" Node.flag? standard.audit.enabled = some a.enabled
  path : given es "path" (fun n => n.text?.map some) standard.audit.path = some a.path

/-- What a document says of every setting. -/
structure Says (doc : Entries) (s : Settings) : Prop where
  agent : AgentSays (sectionOf doc "agent") s.agent
  catalog : CatalogSays (sectionOf doc "catalog") s.catalog
  shell : ShellSays (sectionOf doc "shell") s.shell
  audit : AuditSays (sectionOf doc "audit") s.audit

/-- Documents whose sections are tables, whose commands are an array of tables, and whose variant is
a text, as far as they are present. -/
structure Shaped (doc : Entries) : Prop where
  sections : ∀ name ∈ ["agent", "catalog", "shell", "audit"], ∀ node,
    doc.get? name.toList = some node → ∃ es, node.table? = some es
  commands : ∀ node, (sectionOf doc "catalog").get? "commands".toList = some node →
    ∃ tables, node.tables? = some tables
  variant : ∀ node, (sectionOf doc "catalog").get? "variant".toList = some node →
    ∃ t, node.text? = some t

/-! ## One field -/

/-- In a table, a field takes the value of a name in a certain way. -/
structure Field.Sets (f : Field ρ) (es : Entries) (name : String) (read : Node → Option α)
    (set : α → ρ → ρ) : Prop where
  known : f.name = name.toList
  takes : ∀ n, es.get? name.toList = some n → ∀ r,
    (f.read n r).toOption = (read n).map fun a => set a r

theorem readByField_cons_iff {f : Field ρ} {fields : List (Field ρ)} {es : Entries} {r r' : ρ}
    {name : String} {read : Node → Option α} {set : α → ρ → ρ} {d : α}
    (hf : f.Sets es name read set) (hd : set d r = r) :
    readByField (f :: fields) es r = some r' ↔
      ∃ v, given es name read d = some v ∧ readByField fields es (set v r) = some r' := by
  rw [readByField, List.foldlM_cons, Field.take, hf.known, given]
  cases hget : es.get? name.toList with
  | none =>
    simp only [Option.some.injEq, exists_eq_left', hd]
    rfl
  | some n =>
    change ((f.read n r).toOption.bind fun r => readByField fields es r) = some r' ↔
      ∃ v, read n = some v ∧ readByField fields es (set v r) = some r'
    rw [hf.takes n hget, Option.bind_map, Option.bind_eq_some_iff]
    rfl

variable {es : Entries} {name : String}

theorem Field.sets_of {read' : Node → Except ShapeError α} {read : Node → Option α}
    {set : α → ρ → ρ} (h : ∀ n, es.get? name.toList = some n → (read' n).toOption = read n) :
    (Field.of name read' set).Sets es name read set :=
  ⟨rfl, fun n hn r => by rw [← h n hn]; exact toOption_map _ _⟩

theorem readText_toOption (n : Node) : (readText n).toOption = n.text? := by
  cases n <;> rfl

theorem readNatural_toOption (n : Node) : (readNatural n).toOption = n.natural? := by
  cases n with
  | integer i => cases i <;> rfl
  | _ => rfl

theorem readFlag_toOption (n : Node) : (readFlag n).toOption = n.flag? := by
  cases n <;> rfl

theorem readVocabulary_toOption {n : Node} (h : ∃ t, n.text? = some t) :
    (readVocabulary n).toOption = n.vocabulary? := by
  obtain ⟨t, ht⟩ := h
  cases n with
  | text t' =>
    change (readVocabularyName t').toOption = Vocabulary.ofName? t'
    rw [readVocabularyName]
    cases Vocabulary.ofName? t' <;> rfl
  | _ => cases ht

theorem sets_text {set : Text → ρ → ρ} :
    (Field.of name readText set).Sets es name Node.text? set :=
  Field.sets_of fun n _ => readText_toOption n

theorem sets_natural {set : Nat → ρ → ρ} :
    (Field.of name readNatural set).Sets es name Node.natural? set :=
  Field.sets_of fun n _ => readNatural_toOption n

theorem sets_flag {set : Bool → ρ → ρ} :
    (Field.of name readFlag set).Sets es name Node.flag? set :=
  Field.sets_of fun n _ => readFlag_toOption n

theorem sets_some_text {set : Text → ρ → ρ} {set' : Option Text → ρ → ρ}
    (h : ∀ t r, set t r = set' (some t) r) :
    (Field.of name readText set).Sets es name (fun n => n.text?.map some) set' := by
  refine ⟨rfl, fun n _ r => ?_⟩
  rw [← readText_toOption n, Option.map_map, Field.of, toOption_map]
  exact congrArg (Option.map · _) (funext fun t => h t r)

/-! ## Sections of plain values -/

theorem independent_agentFields : Independent agentFields := by
  refine ⟨by decide, ?_⟩
  simp only [agentFields, List.pairwise_cons, List.forall_mem_cons, List.not_mem_nil,
    IsEmpty.forall_iff, implies_true, and_true, List.Pairwise.nil]
  and_intros <;> exact commutes_of fun _ _ _ => rfl

theorem independent_shellFields : Independent shellFields :=
  ⟨by decide, List.pairwise_pair.2 (commutes_of fun _ _ _ => rfl)⟩

theorem independent_auditFields : Independent auditFields :=
  ⟨by decide, List.pairwise_pair.2 (commutes_of fun _ _ _ => rfl)⟩

theorem readByField_agentFields_iff {a : AgentSettings} :
    readByField agentFields es {} = some a ↔ AgentSays es a := by
  constructor
  · intro h
    obtain ⟨address, haddress, h⟩ := (readByField_cons_iff sets_text rfl).1 h
    obtain ⟨timeout, htimeout, h⟩ := (readByField_cons_iff sets_natural rfl).1 h
    obtain ⟨connectTimeout, hconnect, h⟩ := (readByField_cons_iff sets_natural rfl).1 h
    obtain ⟨failFast, hfail, h⟩ := (readByField_cons_iff sets_flag rfl).1 h
    obtain ⟨cancel, hcancel, h⟩ := (readByField_cons_iff sets_flag rfl).1 h
    cases h
    exact ⟨haddress, htimeout, hconnect, hfail, hcancel⟩
  · rintro ⟨haddress, htimeout, hconnect, hfail, hcancel⟩
    refine (readByField_cons_iff sets_text rfl).2 ⟨_, haddress, ?_⟩
    refine (readByField_cons_iff sets_natural rfl).2 ⟨_, htimeout, ?_⟩
    refine (readByField_cons_iff sets_natural rfl).2 ⟨_, hconnect, ?_⟩
    refine (readByField_cons_iff sets_flag rfl).2 ⟨_, hfail, ?_⟩
    exact (readByField_cons_iff sets_flag rfl).2 ⟨_, hcancel, rfl⟩

theorem readByField_shellFields_iff {s : ShellSettings} :
    readByField shellFields es {} = some s ↔ ShellSays es s := by
  constructor
  · intro h
    obtain ⟨prompt, hprompt, h⟩ := (readByField_cons_iff sets_text rfl).1 h
    obtain ⟨color, hcolor, h⟩ := (readByField_cons_iff sets_flag rfl).1 h
    cases h
    exact ⟨hprompt, hcolor⟩
  · rintro ⟨hprompt, hcolor⟩
    refine (readByField_cons_iff sets_text rfl).2 ⟨_, hprompt, ?_⟩
    exact (readByField_cons_iff sets_flag rfl).2 ⟨_, hcolor, rfl⟩

theorem readByField_auditFields_iff {a : AuditSettings} :
    readByField auditFields es {} = some a ↔ AuditSays es a := by
  have hset : (Field.of "path" readText fun t (a : AuditSettings) => { a with path := some t }).Sets
      es "path" (fun n => n.text?.map some) fun t a => { a with path := t } := sets_some_text fun _ _ => rfl
  constructor
  · intro h
    obtain ⟨enabled, henabled, h⟩ := (readByField_cons_iff sets_flag rfl).1 h
    obtain ⟨path, hpath, h⟩ := (readByField_cons_iff hset rfl).1 h
    cases h
    exact ⟨henabled, hpath⟩
  · rintro ⟨henabled, hpath⟩
    refine (readByField_cons_iff sets_flag rfl).2 ⟨_, henabled, ?_⟩
    exact (readByField_cons_iff hset rfl).2 ⟨_, hpath, rfl⟩

/-! ## Commands -/

theorem mapM_eq_some_iff {α β : Type} {f : α → Option β} {xs : List α} {ys : List β} :
    xs.mapM f = some ys ↔ List.Forall₂ (fun x y => f x = some y) xs ys := by
  induction xs generalizing ys with
  | nil => simp [List.forall₂_nil_left_iff, eq_comm]
  | cons x xs ih =>
    rw [List.forall₂_cons_left_iff, List.mapM_cons]
    simp only [Option.bind_eq_bind, Option.bind_eq_some_iff, ih, Option.pure_def, Option.some.injEq]
    constructor
    · rintro ⟨y, hy, ys', hys, rfl⟩
      exact ⟨y, ys', hy, hys, rfl⟩
    · rintro ⟨y, ys', hy, hys, rfl⟩
      exact ⟨y, hy, ys', hys, rfl⟩

theorem mapM_toOption {ε α β : Type} (f : α → Except ε β) (xs : List α) :
    (xs.mapM f).toOption = xs.mapM fun x => (f x).toOption := by
  induction xs with
  | nil => rfl
  | cons x xs ih =>
    rw [List.mapM_cons, List.mapM_cons, toOption_bind]
    simp only [toOption_bind, ih]
    rfl

theorem independent_commandFields : Independent commandFields :=
  ⟨by decide, List.pairwise_pair.2 (commutes_of fun _ _ _ => rfl)⟩

theorem readByField_commandFields_iff {verb : Option Text} {usage : Text} :
    readByField commandFields es (none, []) = some (verb, usage) ↔
      given es "verb" (fun n => n.text?.map some) none = some verb ∧
        given es "usage" Node.text? [] = some usage := by
  have hset : (Field.of "verb" readText fun t (c : Option Text × Text) => (some t, c.2)).Sets
      es "verb" (fun n => n.text?.map some) fun t c => (t, c.2) := sets_some_text fun _ _ => rfl
  constructor
  · intro h
    obtain ⟨verb, hverb, h⟩ := (readByField_cons_iff hset rfl).1 h
    obtain ⟨usage, husage, h⟩ := (readByField_cons_iff sets_text rfl).1 h
    cases h
    exact ⟨hverb, husage⟩
  · rintro ⟨hverb, husage⟩
    refine (readByField_cons_iff hset rfl).2 ⟨_, hverb, ?_⟩
    exact (readByField_cons_iff sets_text rfl).2 ⟨_, husage, rfl⟩

theorem text?_eq_some_iff {n : Node} {t : Text} : n.text? = some t ↔ n = .text t := by
  cases n <;> simp [Node.text?]

theorem given_verb_iff {v : Text} :
    given es "verb" (fun n => n.text?.map some) none = some (some v) ↔
      es.get? "verb".toList = some (.text v) := by
  rw [given]
  cases es.get? "verb".toList with
  | none => simp
  | some n => simp [text?_eq_some_iff]

theorem readCommand_toOption_iff {kind : Document.TableKind} {c : CatalogEntry}
    (hkeys : (es.map Prod.fst).Nodup) :
    (readCommand (.table kind es)).toOption = some c ↔ CommandSays es c := by
  rw [readCommand, readRecord, toOption_bind, foldlM_readKeyed_eq independent_commandFields hkeys,
    Option.bind_eq_some_iff]
  constructor
  · rintro ⟨⟨verb, usage⟩, hread, h⟩
    obtain ⟨hverb, husage⟩ := readByField_commandFields_iff.1 hread
    cases verb with
    | none => cases h
    | some verb =>
      cases h
      exact ⟨given_verb_iff.1 hverb, husage⟩
  · rintro ⟨hverb, husage⟩
    exact ⟨(some c.verb, c.usage), readByField_commandFields_iff.2 ⟨given_verb_iff.2 hverb, husage⟩,
      rfl⟩

theorem table?_eq_some_iff {n : Node} : n.table? = some es ↔ ∃ kind, n = .table kind es := by
  cases n <;> simp [Node.table?]

theorem exists_items_of_tables? {n : Node} {tables : List Entries} (h : n.tables? = some tables) :
    ∃ items, itemsOf? n = some items ∧ List.Forall₂ (fun n es => n.table? = some es) items tables := by
  cases n with
  | array items => exact ⟨items, rfl, mapM_eq_some_iff.1 h⟩
  | tables elements =>
    cases h
    exact ⟨_, rfl, List.forall₂_map_left_iff.2 (List.forall₂_same.2 fun _ _ => rfl)⟩
  | _ => cases h

theorem tidy_of_tables? {n : Node} {tables : List Entries} (hn : n.Tidy)
    (h : n.tables? = some tables) : ∀ es ∈ tables, Entries.Tidy es := by
  cases hn with
  | tables keys values =>
    cases h
    exact fun es hes => ⟨keys es hes, values es hes⟩
  | array values =>
    have hall := mapM_eq_some_iff.1 h
    clear h
    induction hall with
    | nil => exact fun es hes => by cases hes
    | cons hhead _ ih =>
      obtain ⟨hfirst, hrest⟩ := List.forall_mem_cons.1 values
      obtain ⟨kind, rfl⟩ := table?_eq_some_iff.1 hhead
      exact List.forall_mem_cons.2 ⟨Entries.tidy_of_table hfirst, ih hrest⟩
  | _ => cases h

theorem mapM_readCommand_iff {items : List Node} {tables : List Entries} {cs : List CatalogEntry}
    (h : List.Forall₂ (fun n es => n.table? = some es) items tables)
    (htidy : ∀ es ∈ tables, Entries.Tidy es) :
    (items.mapM readCommand).toOption = some cs ↔ List.Forall₂ CommandSays tables cs := by
  rw [mapM_toOption, mapM_eq_some_iff]
  induction h generalizing cs with
  | nil => rw [List.forall₂_nil_left_iff, List.forall₂_nil_left_iff]
  | cons hhead _ ih =>
    obtain ⟨hfirst, hrest⟩ := List.forall_mem_cons.1 htidy
    obtain ⟨kind, rfl⟩ := table?_eq_some_iff.1 hhead
    simp only [List.forall₂_cons_left_iff, ih hrest, readCommand_toOption_iff hfirst.keys]

/-! ## The catalog -/

theorem given_commands_iff {cs : List CatalogEntry} (hes : es.Tidy)
    (hshape : ∀ n, es.get? "commands".toList = some n → ∃ tables, n.tables? = some tables) :
    given es "commands" (fun n => (readList readCommand n).toOption) [] = some cs ↔
      List.Forall₂ CommandSays (commandTables es) cs := by
  rw [given, commandTables]
  cases hget : es.get? "commands".toList with
  | none =>
    change some [] = some cs ↔ List.Forall₂ CommandSays [] cs
    rw [List.forall₂_nil_left_iff, Option.some.injEq, eq_comm]
  | some n =>
    obtain ⟨tables, htables⟩ := hshape n hget
    obtain ⟨items, hitems, hall⟩ := exists_items_of_tables? htables
    have hread : readList readCommand n = items.mapM readCommand := by
      rw [readList, hitems]
    change (readList readCommand n).toOption = some cs ↔
      List.Forall₂ CommandSays (n.tables?.getD []) cs
    rw [hread, htables]
    exact mapM_readCommand_iff hall (tidy_of_tables? (hes.get? hget) htables)

theorem independent_catalogFields : Independent catalogFields := by
  refine ⟨by decide, ?_⟩
  simp only [catalogFields, List.pairwise_cons, List.forall_mem_cons, List.not_mem_nil,
    IsEmpty.forall_iff, implies_true, and_true, List.Pairwise.nil]
  and_intros <;> exact commutes_of fun _ _ _ => rfl

theorem readByField_catalogFields_iff {c : CatalogSettings} (hes : es.Tidy)
    (hcommands : ∀ n, es.get? "commands".toList = some n → ∃ tables, n.tables? = some tables)
    (hvariant : ∀ n, es.get? "variant".toList = some n → ∃ t, n.text? = some t) :
    readByField catalogFields es {} = some c ↔ CatalogSays es c := by
  have hname : (Field.of "variant" readVocabulary fun v (c : CatalogSettings) =>
      { c with vocabulary := v }).Sets es "variant" Node.vocabulary? fun v c =>
        { c with vocabulary := v } :=
    Field.sets_of fun n hn => readVocabulary_toOption (hvariant n hn)
  have hprefix : (Field.of "output_prefix" readText fun t (c : CatalogSettings) =>
      { c with replyPrefix := some t }).Sets es "output_prefix" (fun n => n.text?.map some)
        fun t c => { c with replyPrefix := t } := sets_some_text fun _ _ => rfl
  constructor
  · intro h
    obtain ⟨vocabulary, hvocabulary, h⟩ := (readByField_cons_iff hname rfl).1 h
    obtain ⟨replyPrefix, hreply, h⟩ := (readByField_cons_iff hprefix rfl).1 h
    obtain ⟨commands, hcs, h⟩ :=
      (readByField_cons_iff (Field.sets_of fun n _ => rfl) rfl).1 h
    cases h
    exact ⟨hvocabulary, hreply, (given_commands_iff hes hcommands).1 hcs⟩
  · rintro ⟨hvocabulary, hreply, hcs⟩
    refine (readByField_cons_iff hname rfl).2 ⟨_, hvocabulary, ?_⟩
    refine (readByField_cons_iff hprefix rfl).2 ⟨_, hreply, ?_⟩
    exact (readByField_cons_iff (Field.sets_of fun n _ => rfl) rfl).2
      ⟨_, (given_commands_iff hes hcommands).2 hcs, rfl⟩

/-! ## Sections -/

variable {doc : Entries} {s : Settings}

theorem tidy_sectionOf (hdoc : doc.Tidy) (name : String) : (sectionOf doc name).Tidy := by
  rw [sectionOf]
  cases hget : doc.get? name.toList with
  | none => exact Entries.tidy_nil
  | some n =>
    cases htable : n.table? with
    | none =>
      simp only [Option.bind_some, htable]
      exact Entries.tidy_nil
    | some es =>
      obtain ⟨kind, rfl⟩ := table?_eq_some_iff.1 htable
      exact Entries.tidy_of_table (hdoc.get? hget)

theorem given_section {wanted : String} {fields : List (Field ρ)} {start : ρ}
    (h : Independent fields) (hdoc : doc.Tidy)
    (hshape : ∀ n, doc.get? name.toList = some n → ∃ es, n.table? = some es) :
    given doc name (fun n => (readRecord wanted fields start n).toOption) start =
      readByField fields (sectionOf doc name) start := by
  have htidy := tidy_sectionOf hdoc name
  revert htidy
  rw [given, sectionOf]
  cases hget : doc.get? name.toList with
  | none => exact fun _ => (readByField_nil fields start).symm
  | some n =>
    obtain ⟨es, hes⟩ := hshape n hget
    obtain ⟨kind, rfl⟩ := table?_eq_some_iff.1 hes
    exact fun htidy => foldlM_readKeyed_eq h htidy.keys start

theorem independent_sections : Independent sections := by
  refine ⟨by decide, ?_⟩
  simp only [sections, List.pairwise_cons, List.forall_mem_cons, List.not_mem_nil,
    IsEmpty.forall_iff, implies_true, and_true, List.Pairwise.nil]
  and_intros <;> exact commutes_of fun _ _ _ => rfl

theorem readByField_sections_iff :
    readByField sections doc standard = some s ↔
      given doc "agent" (fun n => (readAgent n).toOption) {} = some s.agent ∧
      given doc "catalog" (fun n => (readCatalog n).toOption) {} = some s.catalog ∧
      given doc "shell" (fun n => (readShell n).toOption) {} = some s.shell ∧
      given doc "audit" (fun n => (readAudit n).toOption) {} = some s.audit := by
  constructor
  · intro h
    obtain ⟨agent, hagent, h⟩ := (readByField_cons_iff (Field.sets_of fun n _ => rfl) rfl).1 h
    obtain ⟨catalog, hcatalog, h⟩ := (readByField_cons_iff (Field.sets_of fun n _ => rfl) rfl).1 h
    obtain ⟨shell, hshell, h⟩ := (readByField_cons_iff (Field.sets_of fun n _ => rfl) rfl).1 h
    obtain ⟨audit, haudit, h⟩ := (readByField_cons_iff (Field.sets_of fun n _ => rfl) rfl).1 h
    cases h
    exact ⟨hagent, hcatalog, hshell, haudit⟩
  · rintro ⟨hagent, hcatalog, hshell, haudit⟩
    refine (readByField_cons_iff (Field.sets_of fun n _ => rfl) rfl).2 ⟨_, hagent, ?_⟩
    refine (readByField_cons_iff (Field.sets_of fun n _ => rfl) rfl).2 ⟨_, hcatalog, ?_⟩
    refine (readByField_cons_iff (Field.sets_of fun n _ => rfl) rfl).2 ⟨_, hshell, ?_⟩
    exact (readByField_cons_iff (Field.sets_of fun n _ => rfl) rfl).2 ⟨_, haudit, rfl⟩

/-- **What is read is what the document says.** -/
theorem ofDocument_eq_ok_iff (hdoc : doc.Tidy) (hshape : Shaped doc) :
    ofDocument doc = .ok s ↔ Says doc s := by
  have hagent : given doc "agent" (fun n => (readAgent n).toOption) {} =
      readByField agentFields (sectionOf doc "agent") {} :=
    given_section independent_agentFields hdoc (hshape.sections _ (by simp))
  have hcatalog : given doc "catalog" (fun n => (readCatalog n).toOption) {} =
      readByField catalogFields (sectionOf doc "catalog") {} :=
    given_section independent_catalogFields hdoc (hshape.sections _ (by simp))
  have hshell : given doc "shell" (fun n => (readShell n).toOption) {} =
      readByField shellFields (sectionOf doc "shell") {} :=
    given_section independent_shellFields hdoc (hshape.sections _ (by simp))
  have haudit : given doc "audit" (fun n => (readAudit n).toOption) {} =
      readByField auditFields (sectionOf doc "audit") {} :=
    given_section independent_auditFields hdoc (hshape.sections _ (by simp))
  rw [← toOption_eq_some_iff, ofDocument, foldlM_readKeyed_eq independent_sections hdoc.keys,
    readByField_sections_iff, hagent, hcatalog, hshell, haudit, readByField_agentFields_iff,
    readByField_catalogFields_iff (tidy_sectionOf hdoc _) hshape.commands hshape.variant,
    readByField_shellFields_iff, readByField_auditFields_iff]
  constructor
  · rintro ⟨hagent, hcatalog, hshell, haudit⟩
    exact ⟨hagent, hcatalog, hshell, haudit⟩
  · rintro ⟨hagent, hcatalog, hshell, haudit⟩
    exact ⟨hagent, hcatalog, hshell, haudit⟩

end OperatorShell.Settings
