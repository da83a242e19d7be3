import OperatorShell.Text.Blank
import OperatorShell.Text.Printable

/-!
# The catalog of commands

A catalog lists the verbs that the shell forwards to the agent, with their usage texts, and the
text put in front of every reply. The words that the shell answers itself are no verbs. Only the
first word of a line is looked at, and it is compared exactly, letter case included; what follows
the word belongs to the agent and is never read here.

* `Catalog.ofEntries?`: a catalog of the given entries, or the first reason why the shell could not
  route them.
* `Catalog.lookup?`, `Catalog.contains`, `Catalog.verbs`: look-up by exact verb, and the vocabulary
  in declaration order.
* `Catalog.builtin`: the two vocabularies that come with the shell.
* `Input.classify`: what the shell does with a line.
-/

namespace OperatorShell

/-! ## Reserved words -/

/-- Words that print the catalog. -/
def helpWords : List Text := ["help".toList, "h".toList, "?".toList]

/-- Words that end the session. -/
def quitWords : List Text := ["quit".toList, "exit".toList]

/-- All reserved words, help words first. -/
def reservedWords : List Text := helpWords ++ quitWords

/-- Whether a word is reserved. The comparison is exact. -/
def isReserved (word : Text) : Bool := reservedWords.contains word

/-! ## Catalogs -/

/-- A verb and the shape of its arguments, which may be empty. -/
structure CatalogEntry where
  verb : Text
  usage : Text
  deriving DecidableEq, Repr

/-- An entry as one line: the verb, then the usage if there is one. -/
def CatalogEntry.display (e : CatalogEntry) : Text :=
  if e.usage = [] then e.verb else e.verb ++ ' ' :: e.usage

/-- Why a list of entries makes no catalog. -/
inductive CatalogError where
  | empty
  | badVerb (verb : Text)
  | duplicate (verb : Text)
  | reserved (verb : Text)
  deriving DecidableEq, Repr

/-- The wording of a catalog's fault. -/
def CatalogError.message : CatalogError → Text
  | .empty => "catalog has no commands".toList
  | .badVerb v =>
    "catalog verb must be a single non-empty word, got ".toList ++ Text.quoted v
  | .duplicate v => "catalog verb '".toList ++ v ++ "' is declared more than once".toList
  | .reserved v => "catalog verb '".toList ++ v ++ "' is reserved by the shell".toList

/-- Verbs with their usage texts in declaration order, and the text put before each reply. -/
structure Catalog where
  entries : List CatalogEntry
  replyPrefix : Text
  deriving DecidableEq, Repr

namespace Catalog

/-- Whether a text can be a verb: it is not empty and has no blank. -/
def isWord (verb : Text) : Bool := verb ≠ [] && !verb.any Text.isBlank

/-- The fault of one entry after entries with the verbs `seen`. -/
def faultOf? (seen : List Text) (e : CatalogEntry) : Option CatalogError :=
  if !isWord e.verb then some (.badVerb e.verb)
  else if isReserved e.verb then some (.reserved e.verb)
  else if seen.contains e.verb then some (.duplicate e.verb)
  else none

/-- The fault of the first faulty entry, after entries with the verbs `seen`. -/
def firstFault? (seen : List Text) : List CatalogEntry → Option CatalogError
  | [] => none
  | e :: rest =>
    match faultOf? seen e with
    | some fault => some fault
    | none => firstFault? (e.verb :: seen) rest

/-- The catalog of the given entries, if the shell can route every one of them. -/
def ofEntries? (entries : List CatalogEntry) (replyPrefix : Text) : Except CatalogError Catalog :=
  if entries = [] then
    .error .empty
  else
    match firstFault? [] entries with
    | some fault => .error fault
    | none => .ok ⟨entries, replyPrefix⟩

/-- The first entry with exactly this verb. -/
def lookup? (c : Catalog) (verb : Text) : Option CatalogEntry :=
  c.entries.find? fun e => e.verb = verb

/-- Whether some entry has exactly this verb. -/
def contains (c : Catalog) (verb : Text) : Bool := (c.lookup? verb).isSome

/-- The vocabulary, in declaration order. -/
def verbs (c : Catalog) : List Text := c.entries.map CatalogEntry.verb

/-- How many entries there are. -/
def size (c : Catalog) : Nat := c.entries.length

/-- Whether there is no entry. -/
def isEmpty (c : Catalog) : Bool := c.entries.isEmpty

end Catalog

/-! ## Built-in vocabularies -/

/-- The built-in vocabularies. -/
inductive Vocabulary where
  /-- Packet injection and routing. -/
  | packet
  /-- Management of object tables. -/
  | table
  deriving DecidableEq, Repr

namespace Vocabulary

/-- The name by which a vocabulary is chosen. -/
def name : Vocabulary → Text
  | .packet => "packet".toList
  | .table => "table".toList

/-- The vocabulary of a name, compared exactly. -/
def ofName? (name : Text) : Option Vocabulary :=
  if name = Vocabulary.packet.name then some .packet
  else if name = Vocabulary.table.name then some .table
  else none

/-- The text that the packet vocabulary puts before each reply. -/
def packetReplyPrefix : Text := "Cmd output: ".toList

/-- The entries of a vocabulary. -/
def entries : Vocabulary → List CatalogEntry
  | .packet => [
    ⟨"inject-l2-pkt".toList, "<sandbox-index> <port-index>".toList⟩,
    ⟨"add-ether-encap".toList,
      "<src-mac> <dst-mac> <inner-vlan-id|0> <outer-vlan-id|0> <output-port-token>".toList⟩,
    ⟨"set-input-port-next-node".toList, "<port-index> <next-node-token>".toList⟩,
    ⟨"add-route".toList, "<rtt-token> <prefix> <next-node-token>".toList⟩,
    ⟨"add-receive".toList, "<receive-code> <context>".toList⟩]
  | .table => [
    ⟨"add-table".toList,
      "<table-name> <key-field> <protocol-num> <default-next-obj> <table-size>".toList⟩,
    ⟨"add-table-entry".toList, "<table-name> <prefix> <prefix-length>".toList⟩,
    ⟨"show-afi-objects".toList, []⟩]

/-- The text that a vocabulary puts before each reply. -/
def replyPrefix : Vocabulary → Text
  | .packet => packetReplyPrefix
  | .table => []

end Vocabulary

/-- The catalog of a built-in vocabulary. -/
def Catalog.builtin (v : Vocabulary) : Catalog := ⟨v.entries, v.replyPrefix⟩

/-! ## Lines -/

/-- What the shell does with a line. -/
inductive Input where
  /-- Nothing but blanks. -/
  | blank
  /-- A help word. -/
  | help
  /-- A quit word. -/
  | quit
  /-- A first word that the catalog does not list. -/
  | unknown (verb : Text)
  /-- A catalog verb, with the whole line as it was typed. -/
  | command (line : Text)
  deriving DecidableEq, Repr

/-- Classifies a line by its first word. -/
def Input.classify (catalog : Catalog) (line : Text) : Input :=
  match Text.firstWord? line with
  | none => .blank
  | some verb =>
    if helpWords.contains verb then .help
    else if quitWords.contains verb then .quit
    else if catalog.contains verb then .command line
    else .unknown verb

end OperatorShell
