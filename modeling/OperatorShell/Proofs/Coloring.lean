import OperatorShell.Proofs.Decoration
import OperatorShell.Proofs.Independence
import OperatorShell.Proofs.Json

/-!
# Color in a session

A session prints by operations of its display, one for each line that is answered and one for its
end, and the style has no part in which they are. What an operation prints is put together from
pieces that the style decorates or not. So a colored run prints what a plain one does, and codes.

* `Emission`, `Emission.print`: what is printed by one operation.
* `Emission.pieces`, `text_eq`: the pieces of what an operation prints.
* `Session.emissions`: the operations of a run.
* `run_colors_by_codes`: a colored transcript without its codes is the plain one, and in it every
  code that starts a decoration is closed.
-/

namespace OperatorShell

open Style (escape)

/-! ## Pieces of what is printed -/

def itemPieces (e : CatalogEntry) : List Piece :=
  if e.usage = [] then [.bare (Text.line ("  ".toList ++ e.verb))]
  else [.bare ("  ".toList ++ e.verb ++ " ".toList), .decorated .dim e.usage, .bare "\n".toList]

def listingPieces (c : Catalog) : List Piece :=
  .decorated .bold "Available commands:".toList :: .bare "\n".toList :: c.entries.flatMap itemPieces

theorem renderAll_itemPieces (st : Style) (e : CatalogEntry) :
    renderAll st (itemPieces e) = listingItem st e := by
  rw [itemPieces, listingItem]
  split_ifs <;> simp [Piece.render, Decoration.start, Text.line]

theorem renderAll_listingPieces (st : Style) (c : Catalog) :
    renderAll st (listingPieces c) = WriterCall.listingText st c := by
  have hitems : renderAll st (c.entries.flatMap itemPieces) =
      (c.entries.map (listingItem st)).flatten := by
    rw [renderAll_flatMap, ← List.flatMap_def]
    simp only [renderAll_itemPieces]
  rw [listingPieces, renderAll_cons, renderAll_cons, hitems, WriterCall.listingText, listingLines,
    List.flatten_cons, ← List.append_assoc]
  rfl

/-! ## Operations of a display -/

/-- What one operation prints. -/
inductive Emission where
  | listing
  | unknown (verb : Text)
  | outcome (outcome : Outcome)
  | exit

namespace Emission

section

variable {ω : Type} [Writer ω]

def print (c : Catalog) (d : Display ω) : Emission → Display ω
  | listing => d.emitListing c
  | unknown verb => d.emitUnknown verb c
  | outcome o => Session.showOutcome c d o
  | exit => d.emitExit

def calls (st : Style) (c : Catalog) : Emission → List WriterCall
  | listing => WriterCall.listing st c
  | unknown verb => WriterCall.unknown st c verb
  | outcome o => WriterCall.lineCalls (WriterCall.outcomeLine c o)
  | exit => WriterCall.lineCalls (Text.line exitNotice)

theorem print_eq (c : Catalog) (d : Display ω) (e : Emission) :
    e.print c d = d.call (e.calls d.style c) := by
  cases e with
  | listing => exact d.emitListing_eq c
  | unknown verb => exact d.emitUnknown_eq verb c
  | outcome o => exact Session.showOutcome_eq c d o
  | exit => exact d.emitExit_eq

theorem foldl_print (c : Catalog) (d : Display ω) (es : List Emission) :
    es.foldl (print c) d = d.call (es.flatMap (calls d.style c)) := by
  induction es generalizing d with
  | nil => rfl
  | cons e es ih =>
    rw [List.foldl_cons, ih, print_eq, Display.call_call, List.flatMap_cons, Display.style_call]

end

variable {c : Catalog} {e : Emission}

/-- What an operation prints. -/
def text (st : Style) (c : Catalog) (e : Emission) : Text :=
  (e.print c (⟨{}, st⟩ : Display Transcript)).writer.text

def pieces (c : Catalog) : Emission → List Piece
  | listing => listingPieces c
  | unknown verb =>
    .decorated .red ("Invalid command: ".toList ++ verb) :: .bare "\n".toList :: listingPieces c
  | outcome o => [.bare (WriterCall.outcomeLine c o)]
  | exit => [.bare (Text.line exitNotice)]

theorem text_eq_textOf (st : Style) (c : Catalog) (e : Emission) :
    e.text st c = WriterCall.textOf (e.calls st c) := by
  rw [text, print_eq, Display.writer_call, Transcript.applyAll_eq rfl]
  rfl

theorem text_eq (st : Style) (c : Catalog) (e : Emission) :
    e.text st c = renderAll st (e.pieces c) := by
  rw [text_eq_textOf]
  cases e with
  | listing => rw [calls, WriterCall.textOf_listing, pieces, renderAll_listingPieces]
  | unknown verb =>
    rw [calls, WriterCall.textOf_unknown, pieces, renderAll_cons, renderAll_cons,
      renderAll_listingPieces, ← List.append_assoc]
    exact congrArg (· ++ _) (by simp [unknownLine, Piece.render, Decoration.start, Text.line])
  | outcome o => rw [calls, WriterCall.textOf_lineCalls]; simp [pieces, Piece.render]
  | exit => rw [calls, WriterCall.textOf_lineCalls]; simp [pieces, Piece.render]

theorem text_of_bare {t : Text} (h : e.pieces c = [.bare t]) (st : Style) : e.text st c = t := by
  rw [text_eq, h]
  simp [Piece.render]

end Emission

/-! ## Texts without escape characters -/

/-- What an outcome shows of the agent's own words has no escape character in it. -/
def Outcome.Unescaped : Outcome → Prop
  | .ok reply => escape ∉ reply
  | .error (.remote details) => escape ∉ details
  | .error .unavailable | .error (.timeout _) | .error .cancelled => True

/-- What an operation shows besides the catalog and its own words has no escape character in it. -/
def Emission.Unescaped : Emission → Prop
  | listing | exit => True
  | unknown verb => escape ∉ verb
  | outcome o => o.Unescaped

structure Catalog.Unescaped (c : Catalog) : Prop where
  verbs : ∀ e ∈ c.entries, escape ∉ e.verb
  usages : ∀ e ∈ c.entries, escape ∉ e.usage
  replyPrefix : escape ∉ c.replyPrefix

variable {c : Catalog} {e : Emission}

theorem escape_not_mem_decimal (n : Nat) : escape ∉ Text.decimal n := by
  intro hmem
  have hdigit : Json.isDigit escape = true := (Json.numeral_decimal n).isDigit escape hmem
  exact absurd hdigit (by decide)

theorem Outcome.Unescaped.line {o : Outcome} (h : o.Unescaped) (hc : c.Unescaped) :
    escape ∉ WriterCall.outcomeLine c o := by
  have hend : ∀ t : Text, escape ∉ t → escape ∉ Text.line t := by
    intro t ht hmem
    rcases List.mem_append.1 hmem with hmem | hmem
    · exact ht hmem
    · exact absurd hmem (by decide)
  cases o with
  | ok reply =>
    apply hend
    intro hmem
    rcases List.mem_append.1 hmem with hmem | hmem
    · exact hc.replyPrefix hmem
    · exact h hmem
  | error err =>
    apply hend
    cases err with
    | remote details => exact h
    | timeout limit =>
      intro hmem
      rcases List.mem_append.1 hmem with hmem | hmem
      · rcases List.mem_append.1 hmem with hmem | hmem
        · exact absurd hmem (by decide)
        · exact escape_not_mem_decimal _ hmem
      · exact absurd hmem (by decide)
    | unavailable =>
      show escape ∉ DispatchError.unavailableMessage
      decide
    | cancelled =>
      show escape ∉ "Command cancelled.".toList
      decide

theorem escape_not_mem_listingPieces (hc : c.Unescaped) :
    ∀ piece ∈ listingPieces c, escape ∉ piece.body := by
  have hindent : escape ∉ "  ".toList := by decide
  have hend : ¬escape = '\n' := by decide
  have hspace : ¬escape = ' ' := by decide
  intro piece hpiece
  simp only [listingPieces, List.mem_cons, List.mem_flatMap] at hpiece
  rcases hpiece with rfl | rfl | ⟨e, he, hpiece⟩
  · decide
  · decide
  · rw [itemPieces] at hpiece
    split_ifs at hpiece
    · obtain rfl := List.mem_singleton.1 hpiece
      simp [Piece.body, Text.line, hc.verbs e he, hend, hspace]
    · simp only [List.mem_cons, List.not_mem_nil, or_false] at hpiece
      rcases hpiece with rfl | rfl | rfl
      · simp [Piece.body, hc.verbs e he, hspace]
      · exact hc.usages e he
      · decide

theorem Emission.Unescaped.pieces (h : e.Unescaped) (hc : c.Unescaped) :
    ∀ piece ∈ e.pieces c, escape ∉ piece.body := by
  intro piece hpiece
  cases e with
  | listing => exact escape_not_mem_listingPieces hc piece hpiece
  | unknown verb =>
    simp only [Emission.pieces, List.mem_cons] at hpiece
    rcases hpiece with rfl | rfl | hpiece
    · have hverb : escape ∉ verb := h
      simp [Piece.body, hverb]
      decide
    · decide
    · exact escape_not_mem_listingPieces hc piece hpiece
  | outcome o =>
    obtain rfl := List.mem_singleton.1 hpiece
    exact Outcome.Unescaped.line h hc
  | exit =>
    obtain rfl := List.mem_singleton.1 hpiece
    decide

/-! ## Runs -/

def Turn.emission? : Turn → Option Emission
  | idle => none
  | listed => some .listing
  | refused verb => some (.unknown verb)
  | sent outcome _ => some (.outcome outcome)

namespace Session

variable {α ω : Type} [Agent α]

/-- The operations of a run, in their order. -/
def emissions (s : Session α ω) : List Emission :=
  s.turnsBefore.filterMap Turn.emission? ++ [.exit]

/-- The session with an empty transcript in a style. -/
def printing (s : Session α ω) (st : Style) : Session α Transcript :=
  { s with display := ⟨{}, st⟩ }

/-- What a run of the session prints in a style. -/
def transcript (s : Session α ω) (st : Style) : Text := (s.printing st).run.2.display.writer.text

/-- The texts that a session shows in a run, other than the shell's own, have no escape characters
in them: those of the catalog, the lines that are read, the replies, and the details of errors. -/
structure Unescaped (s : Session α ω) : Prop where
  catalog : s.catalog.Unescaped
  lines : ∀ line ∈ Script.lines (Script.before s.reader.script), escape ∉ line
  replies : ∀ reply, .ok reply ∈ Agent.outcomes s.agent s.commands → escape ∉ reply
  details : ∀ details, .error (.remote details) ∈ Agent.outcomes s.agent s.commands →
    escape ∉ details

theorem callsOfTurns_eq (st : Style) (c : Catalog) (turns : List Turn) :
    callsOfTurns st c turns = (turns.filterMap Turn.emission?).flatMap (Emission.calls st c) := by
  induction turns with
  | nil => rfl
  | cons t turns ih =>
    rw [callsOfTurns, List.flatMap_cons, ← callsOfTurns, ih]
    cases t <;> rfl

theorem display_printing_run (s : Session α ω) (st : Style) :
    (s.printing st).run.2.display = s.emissions.foldl (Emission.print s.catalog) ⟨{}, st⟩ := by
  have hquiet : ∀ (w : Transcript) (t : Text), Writer.prompt w t = w := fun _ _ => rfl
  have hcalls := applyAll_callsOf hquiet (s.printing st) {}
  rw [callsOfTurns_eq] at hcalls
  rw [display_run, Emission.foldl_print, emissions, List.flatMap_append, Display.call, Display.call,
    WriterCall.applyAll_append, WriterCall.applyAll_append]
  exact congrArg (fun w => Display.mk (WriterCall.applyAll w _) st) hcalls

theorem transcript_eq (s : Session α ω) (st : Style) :
    s.transcript st = (s.emissions.map (Emission.text st s.catalog)).flatten := by
  rw [transcript, display_printing_run, Emission.foldl_print, Display.writer_call,
    Transcript.applyAll_eq rfl]
  show WriterCall.textOf (s.emissions.flatMap (Emission.calls st s.catalog)) = _
  rw [WriterCall.textOf, List.flatMap_assoc, ← List.flatMap_def]
  exact congrArg (s.emissions.flatMap ·) (funext fun e => (e.text_eq_textOf st s.catalog).symm)

theorem not_mem_firstWord {line verb : Text} (hline : escape ∉ line)
    (h : Text.firstWord? line = some verb) : escape ∉ verb := by
  obtain ⟨blanks, rest, rfl, -⟩ := Text.firstWord?_eq_some_iff.1 h
  simp only [List.mem_append, not_or] at hline
  exact hline.1.2

theorem unescaped_turns {c : Catalog} {a : α} {events : List ReadEvent}
    (hlines : ∀ line ∈ Script.lines events, escape ∉ line)
    (houtcomes : ∀ o ∈ Agent.outcomes a (Script.commandsIn c events), Outcome.Unescaped o) :
    ∀ e ∈ (turns c a events).filterMap Turn.emission?, e.Unescaped := by
  -- the events before have used up the agent's first outcomes, so the agent varies
  induction events generalizing a with
  | nil => simp [turns]
  | cons event rest ih =>
    rw [Script.lines_cons, List.forall_mem_append] at hlines
    rw [Script.commandsIn_cons, Agent.outcomes_append, List.forall_mem_append] at houtcomes
    rw [← turn_snd] at houtcomes
    have hrest := ih hlines.2 houtcomes.2
    have hfirst : ∀ e, (turn c a event).1.emission? = some e → e.Unescaped := by
      cases event with
      | interrupted | endOfInput => rintro e ⟨⟩
      | line text =>
        have hline : escape ∉ text := hlines.1 text (by simp)
        have hsent := houtcomes.1
        rw [Script.commandsIn_line, Line.isCommand_eq] at hsent
        rw [turn]
        cases hclass : Input.classify c text with
        | blank | quit => rintro e ⟨⟩
        | help =>
          rintro e ⟨⟩
          trivial
        | unknown verb =>
          rintro e ⟨⟩
          exact not_mem_firstWord hline (Line.firstWord_of_classify_unknown hclass)
        | command line =>
          rintro e ⟨⟩
          obtain rfl := Line.eq_of_classify_command hclass
          exact hsent _ (by simp [hclass])
    intro e he
    rw [turns, List.filterMap_cons] at he
    cases hemission : (turn c a event).1.emission? with
    | none => exact hrest e (by simpa [hemission] using he)
    | some e' =>
      rw [hemission] at he
      rcases List.mem_cons.1 he with rfl | he
      · exact hfirst _ hemission
      · exact hrest e he

theorem Unescaped.emissions {s : Session α ω} (h : s.Unescaped) :
    ∀ e ∈ s.emissions, e.Unescaped := by
  have houtcomes : ∀ o ∈ Agent.outcomes s.agent s.commands, Outcome.Unescaped o := by
    intro o ho
    cases o with
    | ok reply => exact h.replies reply ho
    | error err =>
      cases err with
      | remote details => exact h.details details ho
      | unavailable | timeout | cancelled => trivial
  intro e he
  rcases List.mem_append.1 he with he | he
  · exact unescaped_turns h.lines houtcomes e he
  · obtain rfl := List.mem_singleton.1 he
    trivial

theorem transcript_eq_renderAll (s : Session α ω) (st : Style) :
    s.transcript st = renderAll st (s.emissions.flatMap (Emission.pieces s.catalog)) := by
  rw [transcript_eq, renderAll_flatMap, ← List.flatMap_def]
  exact congrArg (s.emissions.flatMap ·) (funext fun e => e.text_eq st s.catalog)

/-- **Color only decorates.** A run prints by the same operations in either style. If nothing that it
shows has an escape character in it, the colored transcript without its codes is the plain one,
which has none; and every code that starts a decoration is followed by a reset, in what the same
operation prints and before the next such code. Outcomes and the notice at the end, whatever they
say, are printed alike in both styles. -/
theorem run_colors_by_codes (s : Session α ω) (unescaped : s.Unescaped) :
    (∀ st, (s.printing st).run.2.display =
        s.emissions.foldl (Emission.print s.catalog) ⟨{}, st⟩) ∧
      (∀ st, s.transcript st = (s.emissions.map (Emission.text st s.catalog)).flatten) ∧
      Text.undecorated (s.transcript .colored) = s.transcript .plain ∧
      escape ∉ s.transcript .plain ∧
      Closed (s.emissions.map (Emission.text .colored s.catalog)) ∧
      ∀ c, (∀ o, Emission.text .colored c (.outcome o) = Emission.text .plain c (.outcome o)) ∧
        Emission.text .colored c .exit = Emission.text .plain c .exit := by
  have hpieces : ∀ e ∈ s.emissions, ∀ piece ∈ e.pieces s.catalog, escape ∉ piece.body :=
    fun e he => (unescaped.emissions e he).pieces unescaped.catalog
  have hall : ∀ piece ∈ s.emissions.flatMap (Emission.pieces s.catalog), escape ∉ piece.body := by
    intro piece hpiece
    obtain ⟨e, he, hin⟩ := List.mem_flatMap.1 hpiece
    exact hpieces e he piece hin
  refine ⟨s.display_printing_run, s.transcript_eq, ?_, ?_, ?_, ?_⟩
  · rw [transcript_eq_renderAll, transcript_eq_renderAll]
    exact undecorated_render hall
  · rw [transcript_eq_renderAll]
    exact not_mem_renderAll_plain hall
  · have htexts : s.emissions.map (Emission.text .colored s.catalog) =
        (s.emissions.map (Emission.pieces s.catalog)).map (renderAll .colored) := by
      rw [List.map_map]
      exact List.map_congr_left fun e _ => Emission.text_eq .colored s.catalog e
    rw [htexts]
    apply closed_render
    intro pieces hmem
    obtain ⟨e, he, rfl⟩ := List.mem_map.1 hmem
    exact hpieces e he
  · intro c
    refine ⟨fun o => ?_, ?_⟩
    · rw [Emission.text_of_bare rfl, Emission.text_of_bare rfl]
    · rw [Emission.text_of_bare rfl, Emission.text_of_bare rfl]

/-- A refused verb, a listing with and without usage texts, a reply, an error and a timeout. -/
theorem run_colors_by_codes_every_kind :
    let s : Session ScriptedAgent Transcript :=
      { agent := { responses := [.output "[1m".toList, .remote "no".toList, .timeout 500] }
        reader :=
          { script := ["go 1", " x y", "go 2", "?", "go 3", "exit"].map fun line =>
              .line line.toList }
        catalog := ⟨[⟨"go".toList, "<n>".toList⟩, ⟨"stop".toList, []⟩], "> ".toList⟩
        display := ⟨{}, .plain⟩ }
    s.Unescaped ∧
      s.transcript .colored =
        ["> [1m\n", "\x1b[31mInvalid command: x\x1b[0m\n",
          "\x1b[1mAvailable commands:\x1b[0m\n", "  go \x1b[2m<n>\x1b[0m\n", "  stop\n", "no\n",
          "\x1b[1mAvailable commands:\x1b[0m\n", "  go \x1b[2m<n>\x1b[0m\n", "  stop\n",
          "JP4Agent did not respond within 500 ms.\n", "Exiting JP4Agent CLI.\n"].flatMap
            String.toList ∧
      Text.undecorated (s.transcript .colored) = s.transcript .plain ∧
      Closed (s.emissions.map (Emission.text .colored s.catalog)) := by
  intro s
  have hcommands : s.commands = ["go 1", "go 2", "go 3"].map String.toList := by decide +kernel
  have houtcomes : Agent.outcomes s.agent s.commands =
      [.ok "[1m".toList, .error (.remote "no".toList), .error (.timeout (.ofMillis 500))] := by
    rw [hcommands]
    rfl
  have unescaped : s.Unescaped := by
    refine ⟨⟨by decide, by decide, by decide⟩, by decide +kernel, ?_, ?_⟩
    · rw [houtcomes]
      intro reply hreply
      obtain rfl : reply = "[1m".toList := by simpa using hreply
      decide
    · rw [houtcomes]
      intro details hdetails
      obtain rfl : details = "no".toList := by simpa using hdetails
      decide
  obtain ⟨-, -, hcodes, -, hclosed, -⟩ := run_colors_by_codes s unescaped
  exact ⟨unescaped, (s.transcript_eq .colored).trans (by decide +kernel), hcodes, hclosed⟩

end Session

end OperatorShell
