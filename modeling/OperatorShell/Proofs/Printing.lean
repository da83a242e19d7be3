import OperatorShell.Display

/-!
# What is done to a writer

Whatever a display prints is a list of calls of its writer, fixed before the first of them is made:
how a call ends decides nothing. A writer that keeps what it is given then holds the texts of the
calls, one after another.

* `WriterCall`, `WriterCall.applyAll`: one use of a writer, and one after another.
* `emitListing_eq`, `emitUnknown_eq`, `emitReply_eq`, `emitError_eq`, `emitExit_eq`: what is
  printed, as calls.
* `Transcript.applyAll_eq`: what calls leave in a transcript.
-/

namespace OperatorShell

/-- One use of a writer. -/
inductive WriterCall where
  | write (text : Text)
  | flush
  | prompt (text : Text)
  deriving DecidableEq

namespace WriterCall

/-- What a call writes. Prompts are not written, but shown beside what is. -/
def text : WriterCall → Text
  | write text => text
  | flush | prompt _ => []

/-- The text written by calls. -/
def textOf (calls : List WriterCall) : Text := calls.flatMap text

/-- How often calls flush. -/
def flushesOf (calls : List WriterCall) : Nat := calls.count flush

/-! ## What is printed -/

/-- The calls that print a listing. -/
def listing (s : Style) (c : Catalog) : List WriterCall := (listingLines s c).map write ++ [flush]

/-- The calls that print that a verb is unknown. -/
def unknown (s : Style) (c : Catalog) (verb : Text) : List WriterCall :=
  write (unknownLine s verb) :: listing s c

/-- The line of an outcome. -/
def outcomeLine (c : Catalog) : Outcome → Text
  | .ok reply => Text.line (c.replyPrefix ++ reply)
  | .error e => Text.line e.message

/-- The calls that print one line of text. -/
def lineCalls (line : Text) : List WriterCall := [write line, flush]

/-- The text of a listing. -/
def listingText (s : Style) (c : Catalog) : Text := (listingLines s c).flatten

@[simp] theorem textOf_nil : textOf [] = [] := rfl

@[simp] theorem textOf_cons (call : WriterCall) (calls : List WriterCall) :
    textOf (call :: calls) = call.text ++ textOf calls := rfl

@[simp] theorem textOf_append (calls calls' : List WriterCall) :
    textOf (calls ++ calls') = textOf calls ++ textOf calls' :=
  List.flatMap_append

@[simp] theorem flushesOf_nil : flushesOf [] = 0 := rfl

@[simp] theorem flushesOf_cons (call : WriterCall) (calls : List WriterCall) :
    flushesOf (call :: calls) = (if call = flush then 1 else 0) + flushesOf calls := by
  rw [flushesOf, List.count_cons, Nat.add_comm]
  simp [flushesOf]

@[simp] theorem flushesOf_append (calls calls' : List WriterCall) :
    flushesOf (calls ++ calls') = flushesOf calls + flushesOf calls' :=
  List.count_append

theorem textOf_map_write (texts : List Text) : textOf (texts.map write) = texts.flatten := by
  induction texts with
  | nil => rfl
  | cons t texts ih => rw [List.map_cons, textOf_cons, ih, text, List.flatten_cons]

theorem flushesOf_map_write (texts : List Text) : flushesOf (texts.map write) = 0 := by
  induction texts with
  | nil => rfl
  | cons t texts ih => simp [ih]

@[simp] theorem textOf_listing (s : Style) (c : Catalog) :
    textOf (listing s c) = listingText s c := by
  simp [listing, textOf_map_write, listingText, text]

@[simp] theorem flushesOf_listing (s : Style) (c : Catalog) : flushesOf (listing s c) = 1 := by
  simp [listing, flushesOf_map_write]

@[simp] theorem textOf_unknown (s : Style) (c : Catalog) (verb : Text) :
    textOf (unknown s c verb) = unknownLine s verb ++ listingText s c := by
  simp [unknown, text]

@[simp] theorem flushesOf_unknown (s : Style) (c : Catalog) (verb : Text) :
    flushesOf (unknown s c verb) = 1 := by
  simp [unknown]

@[simp] theorem textOf_lineCalls (line : Text) : textOf (lineCalls line) = line := by
  simp [lineCalls, text]

@[simp] theorem flushesOf_lineCalls (line : Text) : flushesOf (lineCalls line) = 1 := by
  simp [lineCalls]

/-! ## Displays -/

variable {ω : Type} [Writer ω]

/-- The writer after a call. -/
def apply (w : ω) : WriterCall → ω
  | write text => (Writer.write w text).1
  | flush => (Writer.flush w).1
  | prompt text => Writer.prompt w text

/-- The writer after calls, one after another. -/
def applyAll (w : ω) (calls : List WriterCall) : ω := calls.foldl apply w

@[simp] theorem applyAll_nil (w : ω) : applyAll w [] = w := rfl

@[simp] theorem applyAll_cons (w : ω) (call : WriterCall) (calls : List WriterCall) :
    applyAll w (call :: calls) = applyAll (apply w call) calls := rfl

theorem applyAll_append (w : ω) (calls calls' : List WriterCall) :
    applyAll w (calls ++ calls') = applyAll (applyAll w calls) calls' :=
  List.foldl_append

end WriterCall

namespace Display

open WriterCall

variable {ω : Type} [Writer ω] (d : Display ω)

/-- The display after calls of its writer. -/
def call (calls : List WriterCall) : Display ω := { d with writer := applyAll d.writer calls }

@[simp] theorem style_call (calls : List WriterCall) : (d.call calls).style = d.style := rfl

@[simp] theorem writer_call (calls : List WriterCall) :
    (d.call calls).writer = applyAll d.writer calls := rfl

@[simp] theorem call_call (calls calls' : List WriterCall) :
    (d.call calls).call calls' = d.call (calls ++ calls') := by
  simp [call, applyAll_append]

theorem foldl_write (texts : List Text) : texts.foldl write d = d.call (texts.map .write) := by
  induction texts generalizing d with
  | nil => rfl
  | cons t texts ih => rw [List.foldl_cons, ih]; rfl

theorem emitListing_eq (c : Catalog) : d.emitListing c = d.call (listing d.style c) := by
  rw [emitListing, foldl_write, listing, ← call_call]
  rfl

theorem emitUnknown_eq (verb : Text) (c : Catalog) :
    d.emitUnknown verb c = d.call (unknown d.style c verb) := by
  rw [emitUnknown, emitListing_eq]
  rfl

theorem emitReply_eq (replyPrefix reply : Text) :
    d.emitReply replyPrefix reply = d.call (lineCalls (Text.line (replyPrefix ++ reply))) := rfl

theorem emitError_eq (e : DispatchError) :
    d.emitError e = d.call (lineCalls (Text.line e.message)) := rfl

theorem emitExit_eq : d.emitExit = d.call (lineCalls (Text.line exitNotice)) := rfl

end Display

namespace Transcript

open WriterCall

variable {w : Transcript}

theorem apply_eq (h : w.broken = false) (call : WriterCall) :
    apply w call =
      { w with
        text := w.text ++ call.text
        flushes := w.flushes + if call = flush then 1 else 0 } := by
  cases call with
  | write t => simp [apply, Writer.write, h, WriterCall.text]
  | flush => simp [apply, Writer.flush, WriterCall.text]
  | prompt t => simp [apply, Writer.prompt, WriterCall.text]

theorem applyAll_eq (h : w.broken = false) (calls : List WriterCall) :
    applyAll w calls =
      { w with text := w.text ++ textOf calls, flushes := w.flushes + flushesOf calls } := by
  induction calls generalizing w with
  | nil => simp
  | cons call calls ih =>
    have hcall : (apply w call).broken = false := by rw [apply_eq h]; exact h
    rw [applyAll_cons, ih hcall, apply_eq h]
    simp [Nat.add_assoc]

end Transcript

end OperatorShell
