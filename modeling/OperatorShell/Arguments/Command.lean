import OperatorShell.Style
import OperatorShell.Text.Numeral
import OperatorShell.Text.Visible

/-!
# Commands and their options

What a command line may hold: options with a value, which may also come from the environment or have
a default, and switches.

* `OptionSpec.display`: an option as faults name it.
* `ArgumentError.colored`, `ArgumentError.message`: the wording of a fault, in color and without.
* `ValueRule.check`: whether an option takes a value.
-/

namespace OperatorShell

/-- A name out of a fixed list, and what it stands for. -/
structure Choice where
  name : Text
  help : Text
  deriving DecidableEq, Repr

/-- Which values an option takes. -/
inductive ValueRule where
  | anyText
  | nonEmpty
  /-- A decimal numeral up to a limit. -/
  | number (limit : Nat)
  | choice (choices : List Choice)
  deriving DecidableEq, Repr

/-- What an option is for. -/
inductive OptionRole where
  | switch
  | help
  | version
  /-- A value with a label, which a variable or a default can stand in for. -/
  | value (label : Text) (rule : ValueRule) (stands : Option Text) (default : Option Text)
  deriving DecidableEq, Repr

/-- An option. Only options without a value have a short form. -/
structure OptionSpec where
  long : Text
  short : Option Char
  help : Text
  role : OptionRole
  deriving DecidableEq, Repr

/-- A command. -/
structure CommandSpec where
  name : Text
  version : Text
  about : Text
  options : List OptionSpec
  deriving DecidableEq, Repr

/-- Why arguments are refused. Options are named as `OptionSpec.display` names them. -/
inductive ArgumentError where
  | unknown (argument : Text)
  | missingValue (option : Text)
  | unneededValue (value option : Text)
  | repeated (option : Text)
  | badChoice (value option : Text)
  | badNumber (value option : Text) (fault : Text.NumeralError)
  deriving DecidableEq, Repr

namespace Arguments

/-- A text in color as it is printed: the codes stay only where color is asked for. -/
def printed (env : Environment) (t : Text) : Text :=
  if env.forcesColor then t else Text.visible t

/-- A word of the command line in its color. -/
def literal (t : Text) : Text := Style.colored.bold ++ t ++ Style.colored.reset

/-- A heading in its color. -/
def heading (t : Text) : Text :=
  Style.colored.bold ++ Style.colored.underlined ++ t ++ Style.colored.reset

/-- What is wrong, in quotes and in its color. -/
def wrong (t : Text) : Text :=
  '\'' :: Style.colored.yellow ++ t ++ Style.colored.reset ++ ['\'']

/-- What it is wrong for, in quotes and in its color. -/
def wrongFor (t : Text) : Text := '\'' :: literal t ++ ['\'']

end Arguments

namespace ArgumentError

open Arguments

/-- What a fault says after the word that begins it. -/
def description : ArgumentError → Text
  | unknown argument => "unexpected argument ".toList ++ wrong argument ++ " found".toList
  | missingValue option =>
    "a value is required for ".toList ++ wrong option ++ " but none was supplied".toList
  | unneededValue value option =>
    "unexpected value ".toList ++ wrong value ++ " for ".toList ++ wrongFor option ++
      " found; no more were expected".toList
  | repeated option =>
    "the argument ".toList ++ wrong option ++ " cannot be used multiple times".toList
  | badChoice value option =>
    "invalid value ".toList ++ wrong value ++ " for ".toList ++ wrongFor option
  | badNumber value option fault =>
    "invalid value ".toList ++ wrong value ++ " for ".toList ++ wrongFor option ++
      ": ".toList ++ fault.message

/-- The wording of an argument's fault in color. -/
def colored (e : ArgumentError) : Text :=
  Style.colored.bold ++ Style.colored.red ++ "error:".toList ++ Style.colored.reset ++
    ' ' :: e.description

/-- The wording of an argument's fault. Codes in the argument are left out with the colors. -/
def message (e : ArgumentError) : Text := Text.visible e.colored

end ArgumentError

/-- The label of an option's value, after a space. -/
def OptionSpec.labelPart (o : OptionSpec) : Text :=
  match o.role with
  | .value label .. => " <".toList ++ label ++ ['>']
  | _ => []

/-- The long form of an option, with the label of its value. -/
def OptionSpec.display (o : OptionSpec) : Text := "--".toList ++ o.long ++ o.labelPart

/-- Refuses a value that a rule does not allow. -/
def ValueRule.check (rule : ValueRule) (option value : Text) : Except ArgumentError Unit :=
  match rule with
  | .anyText => .ok ()
  | .nonEmpty => if value = [] then .error (.missingValue option) else .ok ()
  | .number limit =>
    match Text.readBounded limit value with
    | .ok _ => .ok ()
    | .error fault => .error (.badNumber value option fault)
  | .choice choices =>
    if choices.any fun c => c.name = value then .ok ()
    else if value = [] then .error (.missingValue option)
    else .error (.badChoice value option)

namespace CommandSpec

/-- The option with a long form. -/
def long? (c : CommandSpec) (name : Text) : Option OptionSpec :=
  c.options.find? fun o => o.long = name

/-- The option with a short form. -/
def short? (c : CommandSpec) (letter : Char) : Option OptionSpec :=
  c.options.find? fun o => o.short = some letter

end CommandSpec

end OperatorShell
