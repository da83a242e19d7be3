import Mathlib.Data.List.Nodup
import Mathlib.Tactic.SplitIfs
import OperatorShell.Document

/-!
# Tables without repeated keys

However a document is written, by headers, by keys with dots, between braces or by repeated headers,
no table that is read from it has a key twice.

* `Document.Node.Tidy`, `Document.Entries.Tidy`: values and tables without repeated keys, at any
  depth.
* `Document.Change.Tidies`: changes that keep tables so; `Document.tidies_descend` takes them down a
  path.
* `Document.tidy_of_parse`: every document that is read is tidy.
-/

namespace OperatorShell.Document

/-- A value in which no table, at any depth, has a key twice. -/
inductive Node.Tidy : Node → Prop where
  | text (t : Text) : Tidy (.text t)
  | integer (n : Int) : Tidy (.integer n)
  | real (r : Real) : Tidy (.real r)
  | boolean (b : Bool) : Tidy (.boolean b)
  | moment : Tidy .moment
  | array {items : List Node} (values : ∀ item ∈ items, Tidy item) : Tidy (.array items)
  | table {kind : TableKind} {es : List (Text × Node)} (keys : (es.map Prod.fst).Nodup)
      (values : ∀ e ∈ es, Tidy e.2) : Tidy (.table kind es)
  | tables {items : List (List (Text × Node))} (keys : ∀ es ∈ items, (es.map Prod.fst).Nodup)
      (values : ∀ es ∈ items, ∀ e ∈ es, Tidy e.2) : Tidy (.tables items)

namespace Entries

/-- A table without repeated keys, and with tidy values. -/
structure Tidy (es : Entries) : Prop where
  keys : (es.map Prod.fst).Nodup
  values : ∀ e ∈ es, e.2.Tidy

variable {es : Entries} {key : Text} {node : Node}

theorem mem_of_get? (h : es.get? key = some node) : (key, node) ∈ es := by
  obtain ⟨e, hfind, rfl⟩ := Option.map_eq_some_iff.1 h
  have hkey : e.1 = key := by simpa using List.find?_some hfind
  rw [← hkey]
  exact List.mem_of_find?_eq_some hfind

theorem get?_eq_none_iff : es.get? key = none ↔ key ∉ es.map Prod.fst := by
  rw [get?, Option.map_eq_none_iff, List.find?_eq_none]
  simp only [decide_eq_true_eq, List.mem_map, not_exists, not_and]

theorem get?_cons (k : Text) (n : Node) (es : Entries) (key : Text) :
    get? ((k, n) :: es) key = if k = key then some n else get? es key := by
  rw [get?, List.find?_cons]
  by_cases h : k = key
  · simp [h]
  · simp [h, get?]

theorem get?_of_mem (hkeys : (es.map Prod.fst).Nodup) (h : (key, node) ∈ es) :
    es.get? key = some node := by
  induction es with
  | nil => cases h
  | cons e rest ih =>
    obtain ⟨k, n⟩ := e
    obtain ⟨hk, hkeys⟩ := List.nodup_cons.1 hkeys
    rw [get?_cons]
    rcases List.mem_cons.1 h with heq | hmem
    · obtain ⟨rfl, rfl⟩ := Prod.mk.inj heq
      rw [if_pos rfl]
    · have hne : k ≠ key := by
        rintro rfl
        exact hk (List.mem_map.2 ⟨_, hmem, rfl⟩)
      rw [if_neg hne]
      exact ih hkeys hmem

theorem set_of_get?_eq_none (h : es.get? key = none) : es.set key node = es ++ [(key, node)] := by
  induction es with
  | nil => rfl
  | cons e rest ih =>
    obtain ⟨k, n⟩ := e
    rw [get?_cons] at h
    split_ifs at h with hk
    rw [set, if_neg hk, ih h]
    rfl

theorem keys_set_of_mem (h : key ∈ es.map Prod.fst) :
    (es.set key node).map Prod.fst = es.map Prod.fst := by
  induction es with
  | nil => cases h
  | cons e rest ih =>
    obtain ⟨k, n⟩ := e
    rw [set]
    split_ifs with hk
    · rw [List.map_cons, List.map_cons, hk]
    · have hmem : key ∈ rest.map Prod.fst := by
        rcases List.mem_cons.1 h with heq | hmem
        · exact absurd heq.symm hk
        · exact hmem
      rw [List.map_cons, List.map_cons, ih hmem]

theorem mem_of_mem_set {e : Text × Node} (h : e ∈ es.set key node) : e ∈ es ∨ e = (key, node) := by
  induction es with
  | nil => exact .inr (List.mem_singleton.1 h)
  | cons e' rest ih =>
    obtain ⟨k, n⟩ := e'
    rw [set] at h
    split_ifs at h with hk
    · rcases List.mem_cons.1 h with heq | hmem
      · exact .inr heq
      · exact .inl (List.mem_cons_of_mem _ hmem)
    · rcases List.mem_cons.1 h with heq | hmem
      · exact .inl (heq ▸ List.mem_cons_self)
      · rcases ih hmem with hrest | heq
        · exact .inl (List.mem_cons_of_mem _ hrest)
        · exact .inr heq

theorem tidy_nil : Tidy [] := ⟨List.nodup_nil, fun e he => by cases he⟩

theorem Tidy.get? (h : es.Tidy) (hget : es.get? key = some node) : node.Tidy :=
  h.values _ (mem_of_get? hget)

theorem Tidy.set (h : es.Tidy) (hnode : node.Tidy) : (es.set key node).Tidy := by
  constructor
  · by_cases hmem : key ∈ es.map Prod.fst
    · rw [keys_set_of_mem hmem]
      exact h.keys
    · rw [set_of_get?_eq_none (get?_eq_none_iff.2 hmem), List.map_append]
      exact List.nodup_append.2 ⟨h.keys, List.nodup_singleton _, by
        intro k hk k' hk' heq
        rw [List.map_singleton, List.mem_singleton] at hk'
        rw [heq, hk'] at hk
        exact hmem hk⟩
  · intro e he
    rcases mem_of_mem_set he with hold | rfl
    · exact h.values e hold
    · exact hnode

theorem Tidy.erase (h : es.Tidy) : (es.erase key).Tidy :=
  ⟨h.keys.sublist (List.filter_sublist.map _), fun e he => h.values e (List.mem_of_mem_filter he)⟩

theorem tidy_of_table {kind : TableKind} (h : (Node.table kind es).Tidy) : es.Tidy := by
  cases h with
  | table keys values => exact ⟨keys, values⟩

theorem Tidy.table (h : es.Tidy) (kind : TableKind) : (Node.table kind es).Tidy :=
  .table h.keys h.values

theorem tidy_tables_iff {items : List Entries} :
    (Node.tables items).Tidy ↔ ∀ es ∈ items, Tidy es := by
  constructor
  · intro h es hes
    cases h with
    | tables keys values => exact ⟨keys es hes, values es hes⟩
  · intro h
    exact .tables (fun es hes => (h es hes).keys) fun es hes => (h es hes).values

end Entries

/-! ## Changes of tables -/

variable {α : Type}

/-- A change that keeps tables tidy, with a result of some kind. -/
def Change.Tidies (change : Change α) (good : α → Prop) : Prop :=
  ∀ kind es es' a, Entries.Tidy es → change kind es = some (es', a) → Entries.Tidy es' ∧ good a

theorem tidies_descend {change : Change α} {good : α → Prop} (h : change.Tidies good) (dots : Bool)
    (path : List Text) : Change.Tidies (descend dots change path) good := by
  induction path with
  | nil => exact h
  | cons key path ih =>
    intro kind es es' a hes heq
    rw [descend] at heq
    split at heq
    · next hget =>
      obtain ⟨⟨sub, b⟩, hsub, hpair⟩ := Option.map_eq_some_iff.1 heq
      cases hpair
      obtain ⟨htidy, hgood⟩ := ih _ _ _ _ Entries.tidy_nil hsub
      exact ⟨hes.set (htidy.table _), hgood⟩
    · next kind' old hget =>
      split_ifs at heq
      obtain ⟨⟨sub, b⟩, hsub, hpair⟩ := Option.map_eq_some_iff.1 heq
      cases hpair
      obtain ⟨htidy, hgood⟩ := ih _ _ _ _ (Entries.tidy_of_table (hes.get? hget)) hsub
      exact ⟨hes.set (htidy.table _), hgood⟩
    · next elements hget =>
      split at heq
      · cases heq
      · next last hlast =>
        have helements := Entries.tidy_tables_iff.1 (hes.get? hget)
        obtain ⟨⟨sub, b⟩, hsub, hpair⟩ := Option.map_eq_some_iff.1 heq
        cases hpair
        obtain ⟨htidy, hgood⟩ :=
          ih _ _ _ _ (helements last (List.mem_of_getLast? hlast)) hsub
        refine ⟨hes.set (Entries.tidy_tables_iff.2 fun element hmem => ?_), hgood⟩
        rcases List.mem_append.1 hmem with hold | hnew
        · exact helements element (List.dropLast_subset _ hold)
        · rw [List.mem_singleton.1 hnew]
          exact htidy
    · cases heq

theorem tidies_addEntry {key : Text} {node : Node} (hnode : node.Tidy) (byDots : Bool) :
    Change.Tidies (addEntry byDots key node) fun _ => True := by
  intro kind es es' a hes heq
  rw [addEntry] at heq
  split_ifs at heq
  cases heq
  exact ⟨hes.set hnode, trivial⟩

theorem tidies_takeImplied (key : Text) : Change.Tidies (takeImplied key) Entries.Tidy := by
  intro kind es es' sub hes heq
  rw [takeImplied] at heq
  split at heq
  · cases heq
    exact ⟨hes, Entries.tidy_nil⟩
  · next old hget =>
    cases heq
    exact ⟨hes.erase, Entries.tidy_of_table (hes.get? hget)⟩
  · cases heq

theorem tidies_ensureTables (key : Text) : Change.Tidies (ensureTables key) fun _ => True := by
  intro kind es es' a hes heq
  rw [ensureTables] at heq
  split at heq
  · cases heq
    exact ⟨hes.set (Entries.tidy_tables_iff.2 fun es hmem => by cases hmem), trivial⟩
  · cases heq
    exact ⟨hes, trivial⟩
  · cases heq

theorem tidies_placeTable (key : Text) {table : Entries} (htable : table.Tidy) :
    Change.Tidies (placeTable key table) fun _ => True := by
  intro kind es es' a hes heq
  cases heq
  exact ⟨hes.set (htable.table _), trivial⟩

theorem tidies_placeElement (key : Text) {table : Entries} (htable : table.Tidy) :
    Change.Tidies (placeElement key table) fun _ => True := by
  intro kind es es' a hes heq
  rw [placeElement] at heq
  split at heq
  · next elements hget =>
    cases heq
    refine ⟨hes.set (Entries.tidy_tables_iff.2 fun element hmem => ?_), trivial⟩
    rcases List.mem_append.1 hmem with hold | hnew
    · exact Entries.tidy_tables_iff.1 (hes.get? hget) element hold
    · rw [List.mem_singleton.1 hnew]
      exact htable
  · cases heq

theorem tidy_of_insert {kind : TableKind} {es es' : Entries} {names : List Text} {node : Node}
    (hes : es.Tidy) (hnode : node.Tidy) (h : insert kind es names node = some es') : es'.Tidy := by
  rw [insert] at h
  obtain ⟨⟨path, key⟩, -, h⟩ := Option.bind_eq_some_iff.1 h
  obtain ⟨⟨es'', u⟩, hdescend, hsome⟩ := Option.bind_eq_some_iff.1 h
  cases hsome
  exact (tidies_descend (tidies_addEntry hnode _) true path _ _ _ _ hes hdescend).1

/-! ## Values -/

theorem tidy_of_integer? {negative : Bool} {magnitude : Nat} {node : Node}
    (h : integer? negative magnitude = some node) : node.Tidy := by
  rw [integer?] at h
  split_ifs at h <;> cases h <;> exact .integer _

theorem tidy_of_real? {negative : Bool} {digits : Text} {exponent : Int} {node : Node}
    (h : real? negative digits exponent = some node) : node.Tidy := by
  rw [real?] at h
  split at h
  · cases h
    exact .real _
  · split_ifs at h
    cases h
    exact .real _

theorem tidy_of_real?_bind {negative : Bool} {digits t rest : Text} {exponent : Int} {node : Node}
    (h : (do return (← real? negative digits exponent, t)) = some (node, rest)) : node.Tidy := by
  obtain ⟨real, hreal, hpair⟩ := Option.bind_eq_some_iff.1 h
  cases hpair
  exact tidy_of_real? hreal

theorem tidy_of_readAfterWhole {negative : Bool} {whole t rest : Text} {node : Node}
    (h : readAfterWhole negative whole t = some (node, rest)) : node.Tidy := by
  rw [readAfterWhole.eq_def] at h
  split at h
  · obtain ⟨⟨fraction, t⟩, -, h⟩ := Option.bind_eq_some_iff.1 h
    dsimp only at h
    split at h
    · obtain ⟨⟨exponent, t⟩, -, h⟩ := Option.bind_eq_some_iff.1 h
      exact tidy_of_real?_bind h
    · obtain ⟨⟨exponent, t⟩, -, h⟩ := Option.bind_eq_some_iff.1 h
      exact tidy_of_real?_bind h
    · exact tidy_of_real?_bind h
  · obtain ⟨⟨exponent, t⟩, -, h⟩ := Option.bind_eq_some_iff.1 h
    exact tidy_of_real?_bind h
  · obtain ⟨⟨exponent, t⟩, -, h⟩ := Option.bind_eq_some_iff.1 h
    exact tidy_of_real?_bind h
  · obtain ⟨integer, hinteger, hpair⟩ := Option.bind_eq_some_iff.1 h
    cases hpair
    exact tidy_of_integer? hinteger

theorem tidy_of_readBased {base : Nat} {t rest : Text} {node : Node}
    (h : readBased base t = some (node, rest)) : node.Tidy := by
  rw [readBased] at h
  obtain ⟨⟨digits, t⟩, -, h⟩ := Option.bind_eq_some_iff.1 h
  obtain ⟨integer, hinteger, hpair⟩ := Option.bind_eq_some_iff.1 h
  cases hpair
  exact tidy_of_integer? hinteger

theorem tidy_of_readNumber {t rest : Text} {node : Node} (h : readNumber t = some (node, rest)) :
    node.Tidy := by
  rw [readNumber.eq_def] at h
  split at h
  · exact tidy_of_readBased h
  · exact tidy_of_readBased h
  · exact tidy_of_readBased h
  · split at h
    · cases h
      exact .real _
    · cases h
      exact .real _
    · obtain ⟨⟨whole, t⟩, -, h⟩ := Option.bind_eq_some_iff.1 h
      exact tidy_of_readAfterWhole h

theorem tidy_of_readPlain {t rest : Text} {node : Node} (h : readPlain t = some (node, rest)) :
    node.Tidy := by
  rw [readPlain] at h
  split_ifs at h
  · obtain ⟨after, -, hpair⟩ := Option.map_eq_some_iff.1 h
    cases hpair
    exact .moment
  · exact tidy_of_readNumber h

theorem eq_of_readWord {word t rest : Text} {node node' : Node}
    (h : readWord word node t = some (node', rest)) : node' = node := by
  rw [readWord] at h
  split_ifs at h
  cases h
  rfl

/-- What the readers of values give within so many steps is tidy. -/
structure TidyWithin (steps : Nat) : Prop where
  value : ∀ {depth t node rest}, readValueWithin steps depth t = some (node, rest) → node.Tidy
  items : ∀ {depth t items rest}, readItems steps depth t = some (items, rest) →
    ∀ item ∈ items, item.Tidy
  fields : ∀ {depth es t es' rest}, Entries.Tidy es →
    readFields steps depth es t = some (es', rest) → Entries.Tidy es'

theorem tidyWithin_zero : TidyWithin 0 := by
  refine ⟨?_, ?_, ?_⟩
  · intro depth t node rest h
    simp [readValueWithin] at h
  · intro depth t items rest h
    simp [readItems] at h
  · intro depth es t es' rest _ h
    simp [readFields] at h

theorem TidyWithin.succ {steps : Nat} (ih : TidyWithin steps) : TidyWithin (steps + 1) := by
  refine ⟨?_, ?_, ?_⟩
  · intro depth t node rest h
    cases t with
    | nil => simp [readValueWithin] at h
    | cons c t =>
      rw [readValueWithin] at h
      split_ifs at h
      · obtain ⟨⟨text, after⟩, -, hpair⟩ := Option.map_eq_some_iff.1 h
        cases hpair
        exact .text _
      · obtain ⟨⟨items, after⟩, hitems, hpair⟩ := Option.map_eq_some_iff.1 h
        cases hpair
        exact .array (ih.items hitems)
      · split at h
        · cases h
          exact Entries.tidy_nil.table _
        · obtain ⟨⟨es, after⟩, hfields, hpair⟩ := Option.map_eq_some_iff.1 h
          cases hpair
          exact (ih.fields Entries.tidy_nil hfields).table _
      · rw [eq_of_readWord h]
        exact .boolean _
      · rw [eq_of_readWord h]
        exact .boolean _
      · exact tidy_of_readPlain h
  · intro depth t items rest h
    rw [readItems] at h
    split at h
    · cases h
      intro item hmem
      cases hmem
    · obtain ⟨⟨first, after⟩, hfirst, h⟩ := Option.bind_eq_some_iff.1 h
      have htidy := ih.value hfirst
      dsimp only at h
      split at h
      · cases h
        intro item hmem
        rw [List.mem_singleton.1 hmem]
        exact htidy
      · obtain ⟨⟨others, after⟩, hothers, hpair⟩ := Option.bind_eq_some_iff.1 h
        cases hpair
        exact List.forall_mem_cons.2 ⟨htidy, ih.items hothers⟩
      · cases h
  · intro depth es t es' rest hes h
    rw [readFields] at h
    obtain ⟨⟨names, _⟩, -, h⟩ := Option.bind_eq_some_iff.1 h
    obtain ⟨_, -, h⟩ := Option.bind_eq_some_iff.1 h
    obtain ⟨⟨node, after⟩, hnode, h⟩ := Option.bind_eq_some_iff.1 h
    obtain ⟨more, hinsert, h⟩ := Option.bind_eq_some_iff.1 h
    have htidy := tidy_of_insert hes (ih.value hnode) hinsert
    split at h
    · cases h
      exact htidy
    · exact ih.fields htidy h
    · cases h

theorem tidyWithin (steps : Nat) : TidyWithin steps := by
  induction steps with
  | zero => exact tidyWithin_zero
  | succ steps ih => exact ih.succ

theorem tidy_of_readValue {t rest : Text} {node : Node} (h : readValue t = some (node, rest)) :
    node.Tidy :=
  (tidyWithin _).value h

/-! ## Lines and documents -/

/-- Lines whose values are tidy. -/
def Line.Tidy : Line → Prop
  | .entry _ node => node.Tidy
  | _ => True

theorem tidy_of_readLine {t rest : Text} {line : Line} (h : readLine t = some (line, rest)) :
    line.Tidy := by
  rw [readLine.eq_def] at h
  split at h
  · obtain ⟨⟨names, _⟩, -, h⟩ := Option.bind_eq_some_iff.1 h
    obtain ⟨_, -, h⟩ := Option.bind_eq_some_iff.1 h
    obtain ⟨_, -, h⟩ := Option.bind_eq_some_iff.1 h
    obtain ⟨_, -, hpair⟩ := Option.bind_eq_some_iff.1 h
    cases hpair
    trivial
  · obtain ⟨⟨names, _⟩, -, h⟩ := Option.bind_eq_some_iff.1 h
    obtain ⟨_, -, h⟩ := Option.bind_eq_some_iff.1 h
    obtain ⟨_, -, hpair⟩ := Option.bind_eq_some_iff.1 h
    cases hpair
    trivial
  · dsimp only at h
    split_ifs at h
    · obtain ⟨_, -, hpair⟩ := Option.bind_eq_some_iff.1 h
      cases hpair
      trivial
    · split at h
      · cases h
        trivial
      · obtain ⟨⟨names, _⟩, -, h⟩ := Option.bind_eq_some_iff.1 h
        obtain ⟨_, -, h⟩ := Option.bind_eq_some_iff.1 h
        obtain ⟨⟨node, _⟩, hnode, h⟩ := Option.bind_eq_some_iff.1 h
        obtain ⟨_, -, hpair⟩ := Option.bind_eq_some_iff.1 h
        cases hpair
        exact tidy_of_readValue hnode

theorem tidy_of_readLinesWithin {steps : Nat} {t : Text} {lines : List Line}
    (h : readLinesWithin steps t = some lines) : ∀ line ∈ lines, line.Tidy := by
  induction steps generalizing t lines with
  | zero => cases h
  | succ steps ih =>
    rw [readLinesWithin] at h
    split at h
    · cases h
      intro line hmem
      cases hmem
    · obtain ⟨⟨line, after⟩, hline, h⟩ := Option.bind_eq_some_iff.1 h
      obtain ⟨rest, hrest, hlines⟩ := Option.bind_eq_some_iff.1 h
      cases hlines
      exact List.forall_mem_cons.2 ⟨tidy_of_readLine hline, ih hrest⟩

namespace Draft

/-- A draft of which both parts are tidy. -/
structure Tidy (d : Draft) : Prop where
  root : d.root.Tidy
  current : d.current.Tidy

theorem Tidy.finish {d : Draft} {es : Entries} (h : d.Tidy) (heq : d.finish = some es) :
    es.Tidy := by
  rw [Draft.finish] at heq
  split at heq
  · cases heq
    exact h.current
  · obtain ⟨⟨placed, u⟩, hdescend, hfst⟩ := Option.map_eq_some_iff.1 heq
    cases hfst
    exact (tidies_descend (tidies_placeTable _ h.current) _ _ _ _ _ _ h.root hdescend).1
  · obtain ⟨⟨placed, u⟩, hdescend, hfst⟩ := Option.map_eq_some_iff.1 heq
    cases hfst
    exact (tidies_descend (tidies_placeElement _ h.current) _ _ _ _ _ _ h.root hdescend).1

theorem Tidy.take {d d' : Draft} {line : Line} (h : d.Tidy) (hline : line.Tidy)
    (heq : d.take line = some d') : d'.Tidy := by
  cases line with
  | nothing =>
    cases heq
    exact h
  | entry names node =>
    obtain ⟨current, hinsert, hd⟩ := Option.bind_eq_some_iff.1 heq
    cases hd
    exact ⟨h.root, tidy_of_insert h.current hline hinsert⟩
  | header names =>
    obtain ⟨⟨path, key⟩, -, heq⟩ := Option.bind_eq_some_iff.1 heq
    obtain ⟨root, hfinish, heq⟩ := Option.bind_eq_some_iff.1 heq
    obtain ⟨⟨opened, current⟩, hdescend, hd⟩ := Option.bind_eq_some_iff.1 heq
    cases hd
    obtain ⟨hroot, hcurrent⟩ :=
      tidies_descend (tidies_takeImplied key) _ _ _ _ _ _ (h.finish hfinish) hdescend
    exact ⟨hroot, hcurrent⟩
  | element names =>
    obtain ⟨⟨path, key⟩, -, heq⟩ := Option.bind_eq_some_iff.1 heq
    obtain ⟨root, hfinish, heq⟩ := Option.bind_eq_some_iff.1 heq
    obtain ⟨⟨opened, u⟩, hdescend, hd⟩ := Option.bind_eq_some_iff.1 heq
    cases hd
    have hroot := tidies_descend (tidies_ensureTables key) _ _ _ _ _ _ (h.finish hfinish) hdescend
    exact ⟨hroot.1, Entries.tidy_nil⟩

theorem Tidy.foldlM {d d' : Draft} {lines : List Line} (h : d.Tidy)
    (hlines : ∀ line ∈ lines, line.Tidy) (heq : lines.foldlM Draft.take d = some d') : d'.Tidy := by
  induction lines generalizing d with
  | nil =>
    cases heq
    exact h
  | cons line lines ih =>
    rw [List.foldlM_cons] at heq
    obtain ⟨next, htake, hrest⟩ := Option.bind_eq_some_iff.1 heq
    obtain ⟨hline, hlines⟩ := List.forall_mem_cons.1 hlines
    exact ih (h.take hline htake) hlines hrest

end Draft

/-- **No key twice.** Every document that is read is tidy. -/
theorem tidy_of_parse {t : Text} {es : Entries} (h : parse t = some es) : es.Tidy := by
  obtain ⟨lines, hlines, h⟩ := Option.bind_eq_some_iff.1 h
  obtain ⟨draft, hdraft, hfinish⟩ := Option.bind_eq_some_iff.1 h
  have hempty : Draft.Tidy {} := ⟨Entries.tidy_nil, Entries.tidy_nil⟩
  exact (hempty.foldlM (tidy_of_readLinesWithin hlines) hdraft).finish hfinish

end OperatorShell.Document
