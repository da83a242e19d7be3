import OperatorShell.Proofs.Acceptance
import OperatorShell.Proofs.Printing
import OperatorShell.Text.Layout
import Mathlib.Data.List.TakeWhile

/-!
# Listings read back

A plain listing is a heading and one item for each entry: two spaces, the entry as one line, and a
newline. Verbs have no blanks and usage texts may hold any, so the first space of an item behind its
indent is the one between verb and usage, and every other space belongs to the usage. If no usage has
a newline, the lines of a listing are its heading and items, and the entries can be read off them.

* `Text.endedLines`: the lines of a text.
* `Catalog.listing`, `Catalog.readListing`: the listing of a catalog, and the entries of a listing.
* `listing_reads_back`: the listing of an accepted catalog gives back its entries.
-/

namespace OperatorShell

namespace Text

/-- The lines of a text, without the newlines that end them. A carriage return belongs to its
line. -/
def endedLines (t : Text) : List Text := (cutLines [] t).map fun l => l.takeWhile (· ≠ '\n')

theorem endedLines_flatMap_line {bodies : List Text} (h : ∀ body ∈ bodies, '\n' ∉ body) :
    endedLines (bodies.flatMap line) = bodies := by
  have hends : ∀ body ∈ bodies, (line body).takeWhile (· ≠ '\n') = body := by
    intro body hbody
    rw [line, List.takeWhile_append_of_pos (decide_ne_of_not_mem (h body hbody))]
    simp
  rw [endedLines, cutLines_flatMap_line h, List.map_map]
  exact (List.map_congr_left hends).trans (List.map_id bodies)

end Text

namespace Catalog

/-! ## Listings -/

/-- What printing a catalog in a plain style writes. -/
def listing (c : Catalog) : Text := (Display.emitListing ⟨({} : Transcript), .plain⟩ c).writer.text

def listingBodies (c : Catalog) : List Text :=
  "Available commands:".toList :: c.entries.map fun e => "  ".toList ++ e.display

variable {c : Catalog} {e : CatalogEntry}

theorem listingHeading_plain : listingHeading .plain = Text.line "Available commands:".toList := rfl

theorem listingItem_plain (e : CatalogEntry) :
    listingItem .plain e = Text.line ("  ".toList ++ e.display) := by
  rw [listingItem, CatalogEntry.display]
  split_ifs with husage
  · rfl
  · simp [Style.dim, Style.reset, Style.code]

theorem listing_eq (c : Catalog) : c.listing = c.listingBodies.flatMap Text.line := by
  have hitems : c.entries.map (listingItem .plain) =
      c.entries.map fun e => Text.line ("  ".toList ++ e.display) :=
    List.map_congr_left fun e _ => listingItem_plain e
  rw [listing, Display.emitListing_eq, Display.writer_call, Transcript.applyAll_eq rfl,
    WriterCall.textOf_listing, WriterCall.listingText, listingLines, listingHeading_plain, hitems,
    listingBodies, List.flatMap_cons, List.flatMap_map, List.flatten_cons, List.flatMap_def]
  rfl

/-! ## Reading a listing -/

/-- The entry of an item: behind the indent, the first space ends the verb. -/
def readItem (body : Text) : CatalogEntry where
  verb := (body.drop 2).takeWhile (· ≠ ' ')
  usage := ((body.drop 2).dropWhile (· ≠ ' ')).drop 1

def readListing (t : Text) : List CatalogEntry := (Text.endedLines t).tail.map readItem

theorem readItem_item (hverb : ' ' ∉ e.verb) : readItem ("  ".toList ++ e.display) = e := by
  have hall := Text.decide_ne_of_not_mem hverb
  have hdrop : ("  ".toList ++ e.display).drop 2 = e.display := rfl
  obtain ⟨verb, usage⟩ := e
  rw [readItem, hdrop, CatalogEntry.display]
  split_ifs with husage
  · -- without a space the whole item is the verb
    have htake : verb.takeWhile (· ≠ ' ') = verb := List.takeWhile_eq_self_iff.2 hall
    have hrest : verb.dropWhile (· ≠ ' ') = [] := List.dropWhile_eq_nil_iff.2 hall
    have hnone : usage = [] := husage
    rw [htake, hrest, hnone]
    rfl
  · rw [List.takeWhile_append_of_pos hall, List.dropWhile_append_of_pos hall]
    simp

theorem Accepted.not_mem_verb (h : c.Accepted) (he : e ∈ c.entries) {ch : Char}
    (hblank : Text.isBlank ch = true) : ch ∉ e.verb := by
  intro hmem
  have hverb := (h.isVerb (List.mem_map.2 ⟨e, he, rfl⟩)).1
  have hany : e.verb.any Text.isBlank = true := List.any_eq_true.2 ⟨ch, hmem, hblank⟩
  rw [(isWord_iff.1 hverb).2] at hany
  cases hany

theorem newline_not_mem_display (hverb : '\n' ∉ e.verb) (husage : '\n' ∉ e.usage) :
    '\n' ∉ e.display := by
  rw [CatalogEntry.display]
  split_ifs
  · exact hverb
  · simp [hverb, husage]

theorem endedLines_listing (accepted : c.Accepted) (husages : ∀ e ∈ c.entries, '\n' ∉ e.usage) :
    Text.endedLines c.listing = c.listingBodies := by
  rw [listing_eq]
  apply Text.endedLines_flatMap_line
  intro body hbody
  rcases List.mem_cons.1 hbody with rfl | hitem
  · decide
  · obtain ⟨e, he, rfl⟩ := List.mem_map.1 hitem
    have hdisplay := newline_not_mem_display (accepted.not_mem_verb he rfl) (husages e he)
    simp [hdisplay]

theorem readListing_listing (accepted : c.Accepted) (husages : ∀ e ∈ c.entries, '\n' ∉ e.usage) :
    readListing c.listing = c.entries := by
  rw [readListing, endedLines_listing accepted husages, listingBodies, List.tail_cons, List.map_map]
  have hitems : ∀ e ∈ c.entries, readItem ("  ".toList ++ e.display) = id e :=
    fun e he => readItem_item (accepted.not_mem_verb he rfl)
  exact (List.map_congr_left hitems).trans (List.map_id c.entries)

/-- **A listing reads back.** A plain listing is the heading and an item for each entry, in their
order. If no usage has a newline, these are its lines, and behind their indents the items give back
verb and usage at their first spaces, so that catalogs with other entries have other listings. -/
theorem listing_reads_back (c : Catalog) (accepted : c.Accepted) :
    c.listing = "Available commands:\n".toList ++
        c.entries.flatMap (fun e => "  ".toList ++ e.display ++ "\n".toList) ∧
      ((∀ e ∈ c.entries, '\n' ∉ e.usage) →
        (Text.endedLines c.listing).length = c.size + 1 ∧
          readListing c.listing = c.entries ∧
          ∀ c' : Catalog, c'.Accepted → (∀ e ∈ c'.entries, '\n' ∉ e.usage) →
            c'.entries ≠ c.entries → c'.listing ≠ c.listing) := by
  constructor
  · rw [listing_eq, listingBodies, List.flatMap_cons, List.flatMap_map]
    rfl
  · intro husages
    refine ⟨?_, readListing_listing accepted husages, ?_⟩
    · rw [endedLines_listing accepted husages, listingBodies, List.length_cons, List.length_map, size]
    · intro c' accepted' husages' hne heq
      apply hne
      calc c'.entries = readListing c'.listing := (readListing_listing accepted' husages').symm
        _ = readListing c.listing := by rw [heq]
        _ = c.entries := readListing_listing accepted husages

/-- Usage texts with spaces at their ends, with a carriage return, and with the look of an item. -/
theorem listing_reads_back_spaced_usages :
    let c : Catalog :=
      ⟨[⟨"go".toList, "  <n> ".toList⟩, ⟨"stop".toList, []⟩, ⟨"wait".toList, "\r".toList⟩,
        ⟨"go-on".toList, "  go <n>".toList⟩], []⟩
    let c' : Catalog := ⟨c.entries.set 0 ⟨"go".toList, " <n> ".toList⟩, []⟩
    c.Accepted ∧ c'.Accepted ∧
      Text.endedLines c.listing = ["Available commands:", "  go   <n> ", "  stop", "  wait \r",
        "  go-on   go <n>"].map String.toList ∧
      readListing c.listing = c.entries ∧ c'.listing ≠ c.listing := by
  intro c c'
  have accepted : c.Accepted :=
    .inl ⟨c.entries, [], ofEntries?_eq_ok_iff.2 ⟨rfl, by decide, by decide⟩⟩
  have accepted' : c'.Accepted :=
    .inl ⟨c'.entries, [], ofEntries?_eq_ok_iff.2 ⟨rfl, by decide, by decide⟩⟩
  obtain ⟨-, hread⟩ := listing_reads_back c accepted
  obtain ⟨-, hentries, hother⟩ := hread (by decide)
  exact ⟨accepted, accepted', by decide +kernel, hentries,
    hother c' accepted' (by decide) (by decide)⟩

end Catalog

end OperatorShell
