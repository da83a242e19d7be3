import OperatorShell.Arguments.Help

/-!
# Arguments

The arguments of a command are read from left to right, and the first fault counts. A value that
stands in an argument of its own is looked at only when the next option begins or the arguments end.

* `CommandSpec.parse`: what the arguments give, or why they are refused.
-/

namespace OperatorShell

/-- What arguments give: options by their long forms, with values where they have some. -/
abbrev Given := List (Text × Option Text)

/-- What arguments ask for. -/
inductive Request where
  /-- The work of the command. -/
  | given (options : Given)
  /-- A text to show instead. -/
  | shown (text : Text)
  deriving DecidableEq, Repr

namespace Arguments

/-- Why reading stops before the arguments end. -/
inductive Stop where
  | refused (fault : ArgumentError)
  | shown (text : Text)

/-- The options so far, and an option whose value is still open or not yet looked at. -/
structure Progress where
  given : Given := []
  pending : Option (OptionSpec × Option Text) := none

namespace Progress

/-- Refuses an option that was given before. -/
def refuseRepeated (p : Progress) (o : OptionSpec) : Except Stop Unit :=
  if p.given.any fun g => g.1 = o.long then .error (.refused (.repeated o.display)) else .ok ()

/-- Adds an option with its value. -/
def addValue (p : Progress) (o : OptionSpec) (value : Text) : Except Stop Progress := do
  p.refuseRepeated o
  match o.role with
  | .value _ rule _ _ =>
    match rule.check o.display value with
    | .error fault => throw (.refused fault)
    | .ok () => return { p with given := p.given ++ [(o.long, some value)] }
  | _ => throw (.refused (.unneededValue value o.display))

/-- Looks at the open option. -/
def settle (p : Progress) : Except Stop Progress :=
  match p.pending with
  | none => .ok p
  | some (o, none) => .error (.refused (.missingValue o.display))
  | some (o, some value) => { p with pending := none }.addValue o value

/-- Adds an option without a value. -/
def addSwitch (c : CommandSpec) (env : Environment) (long : Bool) (p : Progress) (o : OptionSpec) :
    Except Stop Progress := do
  let p ← p.settle
  match o.role with
  | .help => throw (.shown (c.helpText env long))
  | .version => throw (.shown c.versionText)
  | .switch =>
    p.refuseRepeated o
    return { p with given := p.given ++ [(o.long, none)] }
  | .value .. => return { p with pending := some (o, none) }

end Progress

/-- The name and the value of a long form, where an equals sign divides them. -/
def splitLong (t : Text) : Text × Option Text :=
  let name := t.takeWhile (· ≠ '=')
  match t.dropWhile (· ≠ '=') with
  | [] => (name, none)
  | _ :: value => (name, some value)

/-- Reads a long form, without its dashes. -/
def readLong (c : CommandSpec) (env : Environment) (p : Progress) (t : Text) :
    Except Stop Progress :=
  let (name, value) := splitLong t
  match c.long? name with
  | none => .error (.refused (.unknown ("--".toList ++ name)))
  | some o =>
    match value with
    | none => p.addSwitch c env true o
    | some value =>
      match o.role with
      | .value .. => do (← p.settle).addValue o value
      | _ => .error (.refused (.unneededValue value o.display))

/-- Reads short forms in one argument, without its dash. -/
def readShort (c : CommandSpec) (env : Environment) : Progress → Text → Except Stop Progress
  | p, [] => .ok p
  | p, letter :: rest =>
    match c.short? letter with
    | none => .error (.refused (.unknown ['-', letter]))
    | some o => do readShort c env (← p.addSwitch c env false o) rest

/-- Reads an argument that is no option. It can only be the value of an open option. -/
def readPlain (p : Progress) (argument : Text) : Except Stop Progress :=
  match p.pending with
  | some (o, none) => .ok { p with pending := some (o, some argument) }
  | _ => .error (.refused (.unknown argument))

/-- Reads one argument. -/
def readArgument (c : CommandSpec) (env : Environment) (p : Progress) (argument : Text) :
    Except Stop Progress :=
  match argument with
  | '-' :: '-' :: t => readLong c env p t
  | ['-'] => readPlain p argument
  | '-' :: t => readShort c env p t
  | _ => readPlain p argument

/-- Reads arguments. After two dashes alone, no argument is allowed. -/
def readAll (c : CommandSpec) (env : Environment) : Progress → List Text → Except Stop Progress
  | p, [] => p.settle
  | p, argument :: rest =>
    if argument = "--".toList then
      match rest with
      | [] => p.settle
      | next :: _ => .error (.refused (.unknown next))
    else do readAll c env (← readArgument c env p argument) rest

/-- Gives an option the value of its variable, if it has none and the variable is set. -/
def addVariable (env : Environment) (p : Progress) (o : OptionSpec) : Except Stop Progress :=
  match o.role with
  | .value _ _ (some name) _ =>
    match env.get? name with
    | some value => if p.given.any fun g => g.1 = o.long then .ok p else p.addValue o value
    | none => .ok p
  | _ => .ok p

end Arguments

/-- What the arguments of a command ask for. -/
def CommandSpec.parse (c : CommandSpec) (env : Environment) (arguments : List Text) :
    Except ArgumentError Request :=
  match do
      let p ← Arguments.readAll c env {} arguments
      c.options.foldlM (Arguments.addVariable env) p with
  | .ok p => .ok (.given p.given)
  | .error (.shown text) => .ok (.shown text)
  | .error (.refused fault) => .error fault

namespace Given

/-- Whether an option was given. -/
def has (g : Given) (long : Text) : Bool := g.any fun o => o.1 = long

/-- The value that an option was given. -/
def value? (g : Given) (long : Text) : Option Text := (g.find? fun o => o.1 = long).bind (·.2)

end Given

end OperatorShell
