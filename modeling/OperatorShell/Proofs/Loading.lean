import OperatorShell.Proofs.KeyTypes
import OperatorShell.Proofs.Spelling

/-!
# Loading settings

A file holds settings exactly if the known keys of its document have their types, and they are then
what the document says. Any settings at all, with timeouts that an integer can hold, come from some
file: a document that says them is spelled out.

* `Document.Entries.Spelled`: documents that can be written.
* `Settings.documentOf`: a document that says given settings; `Settings.spelled_documentOf`: it can
  be written.
* `Settings.load_reads_known_keys`: the settings of a file, by its known keys.
-/

namespace OperatorShell.Document

/-! ## Documents that can be written -/

/-- Values that have a spelling. -/
def Spelled (depth : Nat) (node : Node) : Prop := ∃ t, Spells depth t node

/-- Entries with bare keys of their own, and values that have spellings. -/
structure Entries.Spelled (depth : Nat) (es : Entries) : Prop where
  keys : (es.map Prod.fst).Nodup
  bare : ∀ e ∈ es, IsBare e.1
  values : ∀ e ∈ es, Document.Spelled depth e.2

variable {depth : Nat} {es : Entries}

theorem Entries.spelled_nil : Entries.Spelled depth [] :=
  ⟨List.nodup_nil, List.forall_mem_nil _, List.forall_mem_nil _⟩

theorem Entries.Spelled.cons (h : es.Spelled depth) {name : Text} {node : Node}
    (hnew : name ∉ es.map Prod.fst) (hbare : IsBare name) (hnode : Document.Spelled depth node) :
    Entries.Spelled depth ((name, node) :: es) :=
  ⟨List.nodup_cons.2 ⟨hnew, h.keys⟩, List.forall_mem_cons.2 ⟨hbare, h.bare⟩,
    List.forall_mem_cons.2 ⟨hnode, h.values⟩⟩

theorem Entries.Spelled.exists_fields (h : es.Spelled depth) :
    ∃ fields, List.Forall₂ (SpellsField depth) fields es := by
  have hall : ∀ e ∈ es, ∃ f, SpellsField depth f e := by
    intro e he
    obtain ⟨t, ht⟩ := h.values e he
    exact ⟨(e.1, t), rfl, h.bare e he, ht⟩
  obtain ⟨fields, hfields⟩ := Settings.exists_forall₂_iff.2 hall
  exact ⟨fields, hfields.flip⟩

theorem spelled_array {nodes : List Node} (h : ∀ n ∈ nodes, Spelled depth n) :
    Spelled (depth + 1) (.array nodes) := by
  obtain ⟨ts, hts⟩ := Settings.exists_forall₂_iff.2 h
  exact ⟨writeArray ts, spells_array hts.flip⟩

theorem spelled_table (h : es.Spelled depth) (hne : es ≠ []) :
    Spelled (depth + 1) (.table .inline es) := by
  obtain ⟨fields, hfields⟩ := h.exists_fields
  have hne' : fields ≠ [] := by
    rintro rfl
    exact hne (List.forall₂_nil_left_iff.1 hfields)
  exact ⟨writeTable fields, spells_table hfields hne' h.keys⟩

theorem Entries.Spelled.exists_text (h : es.Spelled depthLimit) : ∃ t, parse t = some es := by
  obtain ⟨fields, hfields⟩ := h.exists_fields
  exact ⟨writeLines fields, parse_writeLines hfields h.keys⟩

end OperatorShell.Document

namespace OperatorShell.Settings

open Document (Node Entries)

/-! ## A document of settings -/

/-- An entry for a text that may be left out. -/
def optionalText (name : String) : Option Text → Entries
  | none => []
  | some t => [(name.toList, .text t)]

def agentEntries (a : AgentSettings) : Entries := [
  ("address".toList, .text a.address), ("timeout_ms".toList, .integer a.timeout),
  ("connect_timeout_ms".toList, .integer a.connectTimeout),
  ("fail_fast".toList, .boolean a.failFast),
  ("cancel_on_interrupt".toList, .boolean a.cancelOnInterrupt)]

def commandEntries (c : CatalogEntry) : Entries := [
  ("verb".toList, .text c.verb), ("usage".toList, .text c.usage)]

def commandsNode (cs : List CatalogEntry) : Node :=
  .array (cs.map fun c => .table .inline (commandEntries c))

def catalogEntries (c : CatalogSettings) : Entries :=
  ("variant".toList, .text c.vocabulary.name) ::
    ("commands".toList, commandsNode c.commands) ::
    optionalText "output_prefix" c.replyPrefix

def shellEntries (s : ShellSettings) : Entries := [
  ("prompt".toList, .text s.prompt), ("color".toList, .boolean s.color)]

def auditEntries (a : AuditSettings) : Entries :=
  ("enabled".toList, .boolean a.enabled) :: optionalText "path" a.path

/-- A document that says given settings, all of them. -/
def documentOf (s : Settings) : Entries := [
  ("agent".toList, .table .inline (agentEntries s.agent)),
  ("catalog".toList, .table .inline (catalogEntries s.catalog)),
  ("shell".toList, .table .inline (shellEntries s.shell)),
  ("audit".toList, .table .inline (auditEntries s.audit))]

theorem agentSays_agentEntries (a : AgentSettings) : AgentSays (agentEntries a) a := by
  refine ⟨?_, ?_, ?_, ?_, ?_⟩ <;>
    simp [given, agentEntries, Entries.get?_cons, Node.text?, Node.natural?, Node.flag?]

theorem commandSays_commandEntries (c : CatalogEntry) : CommandSays (commandEntries c) c := by
  refine ⟨?_, ?_⟩ <;> simp [given, commandEntries, Entries.get?_cons, Node.text?]

theorem shellSays_shellEntries (s : ShellSettings) : ShellSays (shellEntries s) s := by
  refine ⟨?_, ?_⟩ <;> simp [given, shellEntries, Entries.get?_cons, Node.text?, Node.flag?]

theorem given_optionalText {name : String} (t : Option Text) :
    given (optionalText name t) name (fun n => n.text?.map some) none = some t := by
  cases t <;> simp [given, optionalText, Entries.get?, Node.text?]

theorem auditSays_auditEntries (a : AuditSettings) : AuditSays (auditEntries a) a := by
  refine ⟨?_, ?_⟩
  · simp [given, auditEntries, Entries.get?_cons, Node.flag?]
  · have hskip : (auditEntries a).get? "path".toList =
        (optionalText "path" a.path).get? "path".toList := by
      rw [auditEntries, Entries.get?_cons, if_neg (by decide)]
    exact (given_congr hskip).trans (given_optionalText a.path)

theorem tables?_commandsNode (cs : List CatalogEntry) :
    (commandsNode cs).tables? = some (cs.map commandEntries) := by
  refine mapM_eq_some_iff.2 ?_
  rw [List.forall₂_map_left_iff, List.forall₂_map_right_iff, List.forall₂_same]
  exact fun c _ => rfl

theorem get?_commands (c : CatalogSettings) :
    (catalogEntries c).get? "commands".toList = some (commandsNode c.commands) := by
  rw [catalogEntries, Entries.get?_cons, if_neg (by decide), Entries.get?_cons, if_pos rfl]

theorem catalogSays_catalogEntries (c : CatalogSettings) : CatalogSays (catalogEntries c) c := by
  refine ⟨?_, ?_, ?_⟩
  · simp only [given, catalogEntries, Entries.get?_cons, if_true]
    cases c.vocabulary <;> rfl
  · have hskip : (catalogEntries c).get? "output_prefix".toList =
        (optionalText "output_prefix" c.replyPrefix).get? "output_prefix".toList := by
      rw [catalogEntries, Entries.get?_cons, if_neg (by decide), Entries.get?_cons,
        if_neg (by decide)]
    exact (given_congr hskip).trans (given_optionalText c.replyPrefix)
  · rw [commandTables, get?_commands, Option.bind_some, tables?_commandsNode, Option.getD_some,
      List.forall₂_map_left_iff, List.forall₂_same]
    exact fun c _ => commandSays_commandEntries c

theorem sectionOf_documentOf (s : Settings) :
    sectionOf (documentOf s) "agent" = agentEntries s.agent ∧
      sectionOf (documentOf s) "catalog" = catalogEntries s.catalog ∧
      sectionOf (documentOf s) "shell" = shellEntries s.shell ∧
      sectionOf (documentOf s) "audit" = auditEntries s.audit := by
  refine ⟨?_, ?_, ?_, ?_⟩ <;> simp [sectionOf, documentOf, Entries.get?_cons, Node.table?]

theorem says_documentOf (s : Settings) : Says (documentOf s) s := by
  obtain ⟨hagent, hcatalog, hshell, haudit⟩ := sectionOf_documentOf s
  exact ⟨hagent ▸ agentSays_agentEntries s.agent, hcatalog ▸ catalogSays_catalogEntries s.catalog,
    hshell ▸ shellSays_shellEntries s.shell, haudit ▸ auditSays_auditEntries s.audit⟩

theorem shaped_documentOf (s : Settings) : Shaped (documentOf s) := by
  obtain ⟨-, hcatalog, -, -⟩ := sectionOf_documentOf s
  refine ⟨?_, ?_, ?_⟩
  · intro name _ n hget
    have hmem := Entries.mem_of_get? hget
    simp only [documentOf, List.mem_cons, Prod.mk.injEq, List.not_mem_nil, or_false] at hmem
    rcases hmem with ⟨-, rfl⟩ | ⟨-, rfl⟩ | ⟨-, rfl⟩ | ⟨-, rfl⟩ <;> exact ⟨_, rfl⟩
  · intro n hget
    rw [hcatalog, get?_commands] at hget
    cases hget
    exact ⟨_, tables?_commandsNode s.catalog.commands⟩
  · intro n hget
    rw [hcatalog, catalogEntries, Entries.get?_cons, if_pos rfl] at hget
    cases hget
    exact ⟨_, rfl⟩

/-! ## Its spelling -/

variable {depth : Nat}

theorem spelled_text (t : Text) : Document.Spelled depth (.text t) := ⟨_, Document.spells_text t⟩

theorem spelled_flag (b : Bool) : Document.Spelled depth (.boolean b) := ⟨_, Document.spells_flag b⟩

theorem spelled_natural {n : Nat} (hn : n ≤ Document.maxInteger) :
    Document.Spelled depth (.integer n) := ⟨_, Document.spells_natural hn⟩

theorem spelled_optionalText {name : String} (hname : Document.IsBare name.toList) (t : Option Text) :
    (optionalText name t).Spelled depth := by
  cases t with
  | none => exact Entries.spelled_nil
  | some t => exact Entries.spelled_nil.cons List.not_mem_nil hname (spelled_text t)

theorem spelled_agentEntries {a : AgentSettings} (ht : a.timeout ≤ Document.maxInteger)
    (hc : a.connectTimeout ≤ Document.maxInteger) : (agentEntries a).Spelled depth := by
  refine .cons ?_ (by simp) (by decide) (spelled_text _)
  refine .cons ?_ (by simp) (by decide) (spelled_natural ht)
  refine .cons ?_ (by simp) (by decide) (spelled_natural hc)
  refine .cons ?_ (by simp) (by decide) (spelled_flag _)
  exact .cons Entries.spelled_nil (by simp) (by decide) (spelled_flag _)

theorem spelled_commandEntries (c : CatalogEntry) : (commandEntries c).Spelled depth := by
  refine .cons ?_ (by simp) (by decide) (spelled_text _)
  exact .cons Entries.spelled_nil (by simp) (by decide) (spelled_text _)

theorem spelled_shellEntries (s : ShellSettings) : (shellEntries s).Spelled depth := by
  refine .cons ?_ (by simp) (by decide) (spelled_text _)
  exact .cons Entries.spelled_nil (by simp) (by decide) (spelled_flag _)

theorem spelled_auditEntries (a : AuditSettings) : (auditEntries a).Spelled depth := by
  have hpath : (optionalText "path" a.path).Spelled depth := spelled_optionalText (by decide) a.path
  refine .cons hpath ?_ (by decide) (spelled_flag _)
  cases a.path <;> simp [optionalText]

theorem spelled_commandsNode (cs : List CatalogEntry) :
    Document.Spelled (depth + 2) (commandsNode cs) := by
  refine Document.spelled_array fun n hn => ?_
  obtain ⟨c, -, rfl⟩ := List.mem_map.1 hn
  exact Document.spelled_table (spelled_commandEntries c) (List.cons_ne_nil _ _)

theorem spelled_catalogEntries (c : CatalogSettings) : (catalogEntries c).Spelled (depth + 2) := by
  have hprefix : (optionalText "output_prefix" c.replyPrefix).Spelled (depth + 2) :=
    spelled_optionalText (by decide) c.replyPrefix
  refine .cons (.cons hprefix ?_ (by decide) (spelled_commandsNode _)) ?_ (by decide)
    (spelled_text _)
  all_goals cases c.replyPrefix <;> simp [optionalText]

theorem spelled_documentOf {s : Settings} (ht : s.agent.timeout ≤ Document.maxInteger)
    (hc : s.agent.connectTimeout ≤ Document.maxInteger) :
    (documentOf s).Spelled (depth + 3) := by
  have hagent : (agentEntries s.agent).Spelled (depth + 2) := spelled_agentEntries ht hc
  refine .cons ?_ (by simp) (by decide) (Document.spelled_table hagent (List.cons_ne_nil _ _))
  refine .cons ?_ (by simp) (by decide)
    (Document.spelled_table (spelled_catalogEntries s.catalog) (List.cons_ne_nil _ _))
  refine .cons ?_ (by simp) (by decide)
    (Document.spelled_table (spelled_shellEntries s.shell) (List.cons_ne_nil _ _))
  exact .cons Entries.spelled_nil (by simp) (by decide)
    (Document.spelled_table (spelled_auditEntries s.audit) (List.cons_ne_nil _ _))

/-! ## Files -/

/-- Files of which only one is there. -/
def singleFile (name text : Text) : Files where
  root := .dir [(name, .file (Text.encodeUtf8 text))]

theorem readText_singleFile (text : Text) :
    (singleFile "s".toList text).readText "s".toList = .ok text := by
  have hread : (singleFile "s".toList text).read "s".toList = .ok (Text.encodeUtf8 text) := rfl
  have hdecode : Text.decodeUtf8? (Text.encodeUtf8 text) = some text :=
    Text.decodeUtf8?_eq_some_iff.2 rfl
  rw [Files.readText, bind_eq_ok_iff]
  refine ⟨_, hread, ?_⟩
  rw [hdecode]
  rfl

variable {fs : Files} {path text : Text} {doc : Entries}

theorem load_eq_ok_iff (hread : fs.readText path = .ok text)
    (hparse : Document.parse text = some doc) (hshape : Shaped doc) (s : Settings) :
    load fs path = .ok s ↔ Says doc s := by
  rw [← ofDocument_eq_ok_iff (Document.tidy_of_parse hparse) hshape, load, hread]
  change (ofText text).mapError _ = _ ↔ _
  rw [ofText, hparse]
  change ((ofDocument doc).mapError _).mapError _ = _ ↔ _
  cases ofDocument doc with
  | error e => simp [Except.mapError]
  | ok s' => simp [Except.mapError]

/-- **Settings by known keys.** A file whose document has tables for sections holds settings exactly
if its known keys have their types and its commands have verbs. The settings are then what the
document says, key by key: what stands under a key, or the default. Another file whose document
differs only in unknown keys and in the order of keys holds the same settings, or none either. And
any settings with timeouts that an integer of a document can hold come from some file. -/
theorem load_reads_known_keys :
    (∀ (fs : Files) (path text : Text) (doc : Entries), fs.readText path = .ok text →
      Document.parse text = some doc → Shaped doc →
        ((∃ s, load fs path = .ok s) ↔ WellTyped doc) ∧
        (∀ s, load fs path = .ok s ↔ Says doc s) ∧
        ∀ (fs' : Files) (path' text' : Text) (doc' : Entries), fs'.readText path' = .ok text' →
          Document.parse text' = some doc' → Shaped doc' → SameKnown doc doc' →
            ∀ s, load fs' path' = .ok s ↔ load fs path = .ok s) ∧
    ∀ s : Settings, s.agent.timeout ≤ Document.maxInteger →
      s.agent.connectTimeout ≤ Document.maxInteger →
        ∃ (fs : Files) (path text : Text) (doc : Entries), fs.readText path = .ok text ∧
          Document.parse text = some doc ∧ Shaped doc ∧ load fs path = .ok s := by
  constructor
  · intro fs path text doc hread hparse hshape
    have hload := load_eq_ok_iff hread hparse hshape
    refine ⟨?_, hload, ?_⟩
    · simp only [hload]
      exact exists_says_iff hshape
    · intro fs' path' text' doc' hread' hparse' hshape' hsame s
      have hdoc := Document.tidy_of_parse hparse
      have hdoc' := Document.tidy_of_parse hparse'
      rw [hload, load_eq_ok_iff hread' hparse' hshape']
      exact (says_congr hsame hdoc hdoc').symm
  · intro s htimeout hconnect
    have hspelled : (documentOf s).Spelled Document.depthLimit :=
      spelled_documentOf htimeout hconnect
    obtain ⟨text, hparse⟩ := hspelled.exists_text
    have hshape := shaped_documentOf s
    have hread := readText_singleFile text
    exact ⟨_, _, text, _, hread, hparse, hshape,
      (load_eq_ok_iff hread hparse hshape s).2 (says_documentOf s)⟩

/-! Two texts with the same settings, in another order and with other unknown keys. -/

def firstText : Text := "x=5\nagent=\x7by=5,timeout_ms=5,fail_fast=true\x7d\n".toList

def firstAgent : Entries := [
  ("y".toList, .integer 5), ("timeout_ms".toList, .integer 5), ("fail_fast".toList, .boolean true)]

def secondText : Text := "x=true\nagent=\x7bz=true,fail_fast=true,timeout_ms=5\x7d\n".toList

def secondAgent : Entries := [
  ("z".toList, .boolean true), ("fail_fast".toList, .boolean true),
  ("timeout_ms".toList, .integer 5)]

/-- An unknown key and an agent. -/
def withAgent (unknown : Node) (agent : Entries) : Entries := [
  ("x".toList, unknown), ("agent".toList, .table .inline agent)]

theorem parse_withAgent {t : Text} {unknown : Node} {fields : List (Text × Text)} {agent : Entries}
    (hx : Document.Spells Document.depthLimit t unknown)
    (h : List.Forall₂ (Document.SpellsField 78) fields agent) (hne : fields ≠ [])
    (hkeys : (agent.map Prod.fst).Nodup) :
    Document.parse (Document.writeLines
      [("x".toList, t), ("agent".toList, Document.writeTable fields)]) =
        some (withAgent unknown agent) := by
  have hbarex : Document.IsBare "x".toList := by decide
  have hbare : Document.IsBare "agent".toList := by decide
  have htable := Document.spells_table h hne hkeys
  refine Document.parse_writeLines ?_ (by simp [withAgent])
  exact .cons ⟨rfl, hbarex, hx⟩ (.cons ⟨rfl, hbare, htable⟩ .nil)

theorem shaped_withAgent (unknown : Node) (agent : Entries) : Shaped (withAgent unknown agent) := by
  refine ⟨?_, ?_, ?_⟩
  · intro name hname n hget
    simp only [List.mem_cons, List.not_mem_nil, or_false] at hname
    rcases hname with rfl | rfl | rfl | rfl <;> cases hget
    exact ⟨_, rfl⟩
  · intro n hget
    cases hget
  · intro n hget
    cases hget

theorem spells_five : Document.Spells depth "5".toList (.integer 5) := by
  have hfive : Text.decimal 5 = "5".toList := by simp [Text.decimal, Text.digits, Text.digit]
  exact hfive ▸ Document.spells_natural (by decide)

theorem parse_firstText : Document.parse firstText = some (withAgent (.integer 5) firstAgent) := by
  have hagent : List.Forall₂ (Document.SpellsField 78)
      [("y".toList, "5".toList), ("timeout_ms".toList, "5".toList),
        ("fail_fast".toList, "true".toList)] firstAgent := by
    refine .cons ⟨rfl, by decide, spells_five⟩ (.cons ⟨rfl, by decide, spells_five⟩ ?_)
    exact .cons ⟨rfl, by decide, Document.spells_flag true⟩ .nil
  have htext : firstText = Document.writeLines [("x".toList, "5".toList),
      ("agent".toList, Document.writeTable [("y".toList, "5".toList),
        ("timeout_ms".toList, "5".toList), ("fail_fast".toList, "true".toList)])] := by
    decide +kernel
  rw [htext]
  exact parse_withAgent spells_five hagent (List.cons_ne_nil _ _) (by decide)

theorem parse_secondText :
    Document.parse secondText = some (withAgent (.boolean true) secondAgent) := by
  have hagent : List.Forall₂ (Document.SpellsField 78)
      [("z".toList, "true".toList), ("fail_fast".toList, "true".toList),
        ("timeout_ms".toList, "5".toList)] secondAgent := by
    refine .cons ⟨rfl, by decide, Document.spells_flag true⟩ ?_
    refine .cons ⟨rfl, by decide, Document.spells_flag true⟩ ?_
    exact .cons ⟨rfl, by decide, spells_five⟩ .nil
  have htext : secondText = Document.writeLines [("x".toList, "true".toList),
      ("agent".toList, Document.writeTable [("z".toList, "true".toList),
        ("fail_fast".toList, "true".toList), ("timeout_ms".toList, "5".toList)])] := by
    decide +kernel
  rw [htext]
  exact parse_withAgent (Document.spells_flag true) hagent (List.cons_ne_nil _ _) (by decide)

theorem sameKnown_agents :
    SameKnown (withAgent (.integer 5) firstAgent) (withAgent (.boolean true) secondAgent) := by
  have hknown : Alike agentKeys KeyType.Same secondAgent.tail secondAgent.tail := by
    refine .cons (t := KeyType.flag) ?_ (by decide) (by simp [agentKeys]) rfl
    exact .cons (t := KeyType.natural) alike_nil (by decide) (by simp [agentKeys]) rfl
  have hagent : Alike agentKeys KeyType.Same firstAgent secondAgent :=
    ((hknown.of_perm (.swap _ _ _)).cons_unknown (by decide) _).cons_unknown_right (by decide) _
  have hsections : Alike knownKeys SameSection (withAgent (.integer 5) firstAgent).tail
      (withAgent (.boolean true) secondAgent).tail :=
    .cons (t := agentKeys) alike_nil (by decide) (by simp [knownKeys]) ⟨_, _, rfl, rfl, hagent⟩
  exact sameKnown_of_alike ((hsections.cons_unknown (by decide) _).cons_unknown_right (by decide) _)
    (Document.tidy_of_parse parse_firstText) (Document.tidy_of_parse parse_secondText)

theorem says_withFirstAgent : Says (withAgent (.integer 5) firstAgent)
    { agent := { timeout := 5, failFast := true } } :=
  ⟨⟨rfl, rfl, rfl, rfl, rfl⟩, ⟨rfl, rfl, .nil⟩, ⟨rfl, rfl⟩, ⟨rfl, rfl⟩⟩

/-- Both texts give the timeout and the flag, and the defaults for everything else. -/
theorem load_reads_known_keys_in_another_order :
    let s : Settings := { agent := { timeout := 5, failFast := true } }
    load (singleFile "s".toList firstText) "s".toList = .ok s ∧
      load (singleFile "s".toList secondText) "s".toList = .ok s ∧
      ∃ fs path, load fs path = .ok s := by
  intro s
  obtain ⟨hreads, hcomes⟩ := load_reads_known_keys
  obtain ⟨-, hload, hagain⟩ := hreads _ _ _ _ (readText_singleFile firstText) parse_firstText
    (shaped_withAgent _ _)
  have hfirst := (hload s).2 says_withFirstAgent
  refine ⟨hfirst, ?_, ?_⟩
  · exact (hagain _ _ _ _ (readText_singleFile secondText) parse_secondText (shaped_withAgent _ _)
      sameKnown_agents s).2 hfirst
  · obtain ⟨fs, path, -, -, -, -, -, hsome⟩ := hcomes s (by decide) (by decide)
    exact ⟨fs, path, hsome⟩

end OperatorShell.Settings
