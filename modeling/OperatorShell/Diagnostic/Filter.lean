import OperatorShell.Diagnostic
import OperatorShell.Pattern
import OperatorShell.Text.Blank

/-!
# Which diagnostics are shown

Directives divided by commas say up to which level the diagnostics of a part are shown. A part is
named by the beginning of its path; the longest beginning decides. After a slash may stand a pattern
that every message shown has to match somewhere.

* `DiagnosticFilter.parse`: the filter of directives, and complaints about what makes no sense.
* `DiagnosticFilter.shows`: whether a diagnostic is shown.
-/

namespace OperatorShell

/-- Up to which rank diagnostics are shown, of a part or of all; rank zero shows none. -/
structure Directive where
  part : Option Text
  rank : Nat
  deriving DecidableEq, Repr

/-- Directives, and a pattern that messages have to match. -/
structure DiagnosticFilter where
  directives : List Directive
  pattern : Option Pattern := none

/-- The rank of a level by name, whatever the letter case; `off` shows nothing. -/
def Level.rankOfName? (name : Text) : Option Nat :=
  let upper := name.map Char.toUpper
  if upper = "OFF".toList then some 0
  else (Level.all.find? fun l => l.name = upper).map Level.rank

namespace DiagnosticFilter

/-! ## Directives -/

/-- The directive of a text, or the text for which it makes no sense. -/
def readDirective (t : Text) : Except Text Directive :=
  match Text.splitOn '=' t with
  | [part] =>
    match Level.rankOfName? part with
    | some rank => .ok ⟨none, rank⟩
    | none => .ok ⟨some part, Level.trace.rank⟩
  | [part, level] =>
    let level := Text.trim level
    if level = [] then .ok ⟨some part, Level.trace.rank⟩
    else
      match Level.rankOfName? level with
      | some rank => .ok ⟨some part, rank⟩
      | none => .error level
  | _ => .error t

/-- Adds a directive; of two for one part the later counts, in the place of the earlier. -/
def add (d : Directive) : List Directive → List Directive
  | [] => [d]
  | e :: ds => if e.part = d.part then d :: ds else e :: add d ds

/-- Directives when there are none: errors only. -/
def orErrors (ds : List Directive) : List Directive :=
  if ds = [] then [⟨none, Level.error.rank⟩] else ds

/-! ## Complaints -/

/-- A complaint about directives that make no sense. -/
def complaint (t : Text) : Text := "invalid logging spec '".toList ++ t ++ ['\'']

/-- A complaint about a pattern. -/
def patternComplaint (e : PatternError) : Text := "invalid regex filter - ".toList ++ e.message

/-- A complaint as it is printed. -/
def complaintLine (complaint : Text) : Text :=
  Text.line ("warning: ".toList ++ complaint ++ ", ignoring it".toList)

/-! ## Filters -/

/-- The pattern of a filter, and a complaint about it. -/
def readPattern : Option Text → Option Pattern × List Text
  | none => (none, [])
  | some t =>
    match Pattern.ofText t with
    | .ok p => (some p, [])
    | .error e => (none, [patternComplaint e])

/-- The filter of directives, and complaints about what makes no sense. -/
def parse (t : Text) : DiagnosticFilter × List Text :=
  match Text.splitOn '/' t with
  | _ :: _ :: _ :: _ => (⟨orErrors [], none⟩, [complaint t ++ " (too many '/'s)".toList])
  | parts =>
    let texts := ((Text.splitOn ',' (parts.headD [])).map Text.trim).filter (· ≠ [])
    let read := texts.map readDirective
    let directives := (read.filterMap Except.toOption).foldl (fun ds d => add d ds) []
    let complaints := read.filterMap fun
      | .error t => some (complaint t)
      | .ok _ => none
    let (pattern, more) := readPattern parts.tail.head?
    (⟨orErrors directives, pattern⟩, complaints ++ more)

/-- Of two directives the one with the longer part, and the later of two that are as long. -/
def longer (best : Option Directive) (d : Directive) : Option Directive :=
  match best with
  | none => some d
  | some b => if (b.part.getD []).length ≤ (d.part.getD []).length then some d else some b

/-- The directive that decides about a part. -/
def decisive? (f : DiagnosticFilter) (path : Text) : Option Directive :=
  (f.directives.filter fun d => (d.part.getD []).isPrefixOf path).foldl longer none

/-- Whether a diagnostic is shown. -/
def shows (f : DiagnosticFilter) (d : Diagnostic) : Bool :=
  (f.decisive? d.origin.path).any (fun e => d.level.rank ≤ e.rank) &&
    f.pattern.all fun p => p.occursIn d.message

end DiagnosticFilter

end OperatorShell
