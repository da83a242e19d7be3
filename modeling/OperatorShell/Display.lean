import OperatorShell.Catalog
import OperatorShell.Outcome
import OperatorShell.Style

/-!
# What the operator sees

Everything the shell prints goes through a display: a writer and a style. Writing may fail; the
shell carries on as if it had not.

* `Display.emitListing`, `Display.emitUnknown`, `Display.emitReply`, `Display.emitError`,
  `Display.emitExit`: the five things that are printed. Each ends with one flush.
* `Transcript`: a writer that keeps what it is given.
-/

namespace OperatorShell

/-- Something that takes text. Every operation gives the writer afterwards and whether it worked. -/
class Writer (ω : Type) where
  /-- Writes a text. -/
  write : ω → Text → ω × Bool
  /-- Passes on everything written so far. -/
  flush : ω → ω × Bool
  /-- Shows a prompt before a line is read; most writers show none. -/
  prompt : ω → Text → ω := fun w _ => w

/-- A writer that keeps what it is given, and counts the times it was flushed. A broken one refuses
every text. -/
structure Transcript where
  text : Text := []
  flushes : Nat := 0
  broken : Bool := false
  deriving DecidableEq, Repr

instance : Writer Transcript where
  write w t := if w.broken then (w, false) else ({ w with text := w.text ++ t }, true)
  flush w := ({ w with flushes := w.flushes + 1 }, true)

/-- A writer, and the style in which it is written to. -/
structure Display (ω : Type) where
  writer : ω
  style : Style

/-! ## Lines -/

/-- The line over a listing. -/
def listingHeading (s : Style) : Text :=
  Text.line (s.bold ++ "Available commands:".toList ++ s.reset)

/-- The line of an entry in a listing. -/
def listingItem (s : Style) (e : CatalogEntry) : Text :=
  Text.line <|
    if e.usage = [] then "  ".toList ++ e.verb
    else "  ".toList ++ e.verb ++ ' ' :: (s.dim ++ e.usage ++ s.reset)

/-- The lines of a listing, in declaration order. -/
def listingLines (s : Style) (c : Catalog) : List Text :=
  listingHeading s :: c.entries.map (listingItem s)

/-- The line that names a verb the catalog does not list. -/
def unknownLine (s : Style) (verb : Text) : Text :=
  Text.line (s.red ++ "Invalid command: ".toList ++ verb ++ s.reset)

/-- The last line of a session. -/
def exitNotice : Text := "Exiting JP4Agent CLI.".toList

namespace Display

variable {ω : Type} [Writer ω]

/-- Writes a text, whether that works or not. -/
def write (d : Display ω) (t : Text) : Display ω := { d with writer := (Writer.write d.writer t).1 }

/-- Flushes, whether that works or not. -/
def flush (d : Display ω) : Display ω := { d with writer := (Writer.flush d.writer).1 }

/-- Shows a prompt. -/
def prompt (d : Display ω) (t : Text) : Display ω := { d with writer := Writer.prompt d.writer t }

/-- Prints the catalog, one write for each line. -/
def emitListing (d : Display ω) (c : Catalog) : Display ω :=
  ((listingLines d.style c).foldl write d).flush

/-- Prints that a verb is unknown, and the catalog. -/
def emitUnknown (d : Display ω) (verb : Text) (c : Catalog) : Display ω :=
  (d.write (unknownLine d.style verb)).emitListing c

/-- Prints a reply after the catalog's prefix. -/
def emitReply (d : Display ω) (replyPrefix reply : Text) : Display ω :=
  (d.write (Text.line (replyPrefix ++ reply))).flush

/-- Prints why a dispatch brought no reply. -/
def emitError (d : Display ω) (e : DispatchError) : Display ω :=
  (d.write (Text.line e.message)).flush

/-- Prints the notice that the session ends. -/
def emitExit (d : Display ω) : Display ω := (d.write (Text.line exitNotice)).flush

end Display

end OperatorShell
