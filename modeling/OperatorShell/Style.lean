import OperatorShell.Text.Basic

/-!
# Surroundings and styles

The variables that a program is started with decide, among other things, how text is shown. A
variable that is set to the empty text is set.

Text is shown plain or coloured. A style gives the codes that start and end a decoration; a plain
style gives empty codes, so that whoever prints need not ask which style is in force.

* `Environment.get?`, `Environment.isSet`: look-up of a variable.
* `Style.detected`, `Style.preferred`: the style that the surroundings and the settings allow.
-/

namespace OperatorShell

/-! ## Environment variables -/

/-- Names with their values. -/
abbrev Environment := List (Text × Text)

namespace Environment

/-- The value of a variable. -/
def get? (env : Environment) (name : Text) : Option Text :=
  (env.find? fun v => v.1 = name).map (·.2)

/-- Whether a variable is set. -/
def isSet (env : Environment) (name : Text) : Bool := (env.get? name).isSome

/-- The directives for diagnostics. -/
def logDirectives? (env : Environment) : Option Text := env.get? "RUST_LOG".toList

/-- Whether color is allowed. -/
def allowsColor (env : Environment) : Bool := !env.isSet "NO_COLOR".toList

/-- Whether color is asked for even where no terminal is. -/
def forcesColor (env : Environment) : Bool :=
  (env.get? "CLICOLOR_FORCE".toList).any (· ≠ ['0']) &&
    (env.get? "NO_COLOR".toList).all (· = [])

end Environment

/-! ## Styles -/

/-- How text is shown. -/
inductive Style where
  | plain
  | colored
  deriving DecidableEq, Repr

namespace Style

/-- The escape character that begins every code. -/
def escape : Char := '\x1b'

/-- A code in a colored style, nothing in a plain one. -/
def code (s : Style) (body : Text) : Text :=
  match s with
  | plain => []
  | colored => escape :: body

/-- Starts bold text. -/
def bold (s : Style) : Text := s.code "[1m".toList

/-- Starts dim text. -/
def dim (s : Style) : Text := s.code "[2m".toList

/-- Starts underlined text. -/
def underlined (s : Style) : Text := s.code "[4m".toList

/-- Starts red text. -/
def red (s : Style) : Text := s.code "[31m".toList

/-- Starts yellow text. -/
def yellow (s : Style) : Text := s.code "[33m".toList

/-- Ends every decoration. -/
def reset (s : Style) : Text := s.code "[0m".toList

/-- The style of an output that may be a terminal. Color is allowed unless the surroundings refuse
it. -/
def detected (allowed terminal : Bool) : Style := if allowed && terminal then colored else plain

/-- The style for a preference: color where it can be shown, or none at all. -/
def preferred (color allowed terminal : Bool) : Style :=
  if color then detected allowed terminal else plain

end Style

end OperatorShell
