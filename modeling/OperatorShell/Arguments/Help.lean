import OperatorShell.Arguments.Command
import OperatorShell.Text.Layout

/-!
# Help texts

A command describes itself at two lengths. The short help has a line for each option, the long one a
paragraph. A command whose options have nothing more to say has the short one only.

* `CommandSpec.helpText`: the help in color.
* `CommandSpec.versionText`: the version.
-/

namespace OperatorShell

/-- A remark in brackets. -/
def remark (label value : Text) : Text := '[' :: (label ++ ": ".toList ++ value ++ [']'])

namespace OptionSpec

/-- The choices of an option that has some. -/
def choices (o : OptionSpec) : List Choice :=
  match o.role with
  | .value _ (.choice choices) _ _ => choices
  | _ => []

/-- What stands in for an option's value: the variable with its present value, and the default. -/
def standInRemarks (env : Environment) (o : OptionSpec) : List Text :=
  match o.role with
  | .value _ _ stands default =>
    (stands.toList.map fun v => remark "env".toList (v ++ '=' :: (env.get? v).getD [])) ++
      default.toList.map (remark "default".toList)
  | _ => []

/-- The forms of an option, with its words passed through `word`. -/
def headWith (word : Text → Text) (o : OptionSpec) : Text :=
  Text.spaces 2 ++
    (match o.short with | some c => word ['-', c] ++ ", ".toList | none => Text.spaces 4) ++
    word ("--".toList ++ o.long) ++ o.labelPart

/-- The forms of an option in color. -/
def head (o : OptionSpec) : Text := o.headWith Arguments.literal

/-- How wide the forms of an option are. -/
def headWidth (o : OptionSpec) : Nat := (o.headWith id).length

/-- What an option does; the help option tells of the other length, if there is one. -/
def helpIn (detailed long : Bool) (o : OptionSpec) : Text :=
  match o.role with
  | .help =>
    if !detailed then o.help
    else if long then o.help ++ " (see a summary with '-h')".toList
    else o.help ++ " (see more with '--help')".toList
  | _ => o.help

/-- The line of an option in the short help, in columns of which the first has a width. -/
def shortHelp (env : Environment) (detailed : Bool) (width : Nat) (o : OptionSpec) : Text :=
  let choices :=
    if o.choices = [] then []
    else [remark "possible values".toList
      (Text.intersperse ", ".toList (o.choices.map Choice.name))]
  let words := o.helpIn detailed false :: (o.standInRemarks env ++ choices)
  o.head ++ Text.spaces (width - o.headWidth) ++
    Text.indented width (Text.intersperse [' '] words) ++ ['\n']

/-- How far the paragraphs of the long help are indented. -/
def longIndent : Nat := 10

/-- The choices of an option in the long help, in columns. -/
def choiceList (o : OptionSpec) : Text :=
  if o.choices = [] then []
  else
    let width := (o.choices.map fun c => c.name.length).foldl max 0
    let item (c : Choice) : Text :=
      '\n' :: Text.spaces longIndent ++ "- ".toList ++ Arguments.literal c.name ++
        Text.padTo (width + 2 - c.name.length) [':'] ++ c.help
    "\n\n".toList ++ Text.spaces longIndent ++ "Possible values:".toList ++
      o.choices.flatMap item

/-- The paragraph of an option in the long help. -/
def longHelp (env : Environment) (o : OptionSpec) : Text :=
  let paragraphs := o.helpIn true true :: o.standInRemarks env
  Text.line o.head ++ Text.spaces longIndent ++
    Text.indented longIndent (Text.intersperse "\n\n".toList paragraphs) ++ o.choiceList ++ ['\n']

end OptionSpec

namespace CommandSpec

/-- Whether there is more to say than the short help says. -/
def isDetailed (c : CommandSpec) : Bool := c.options.any fun o => o.choices ≠ []

/-- How wide the forms of the options are, with the space after them. -/
def headWidth (c : CommandSpec) : Nat := (c.options.map fun o => o.headWidth).foldl max 0 + 2

/-- The help of a command, in color. -/
def helpText (c : CommandSpec) (env : Environment) (long : Bool) : Text :=
  Text.line c.about ++ '\n' :: Arguments.heading "Usage:".toList ++
    ' ' :: Arguments.literal c.name ++ " [OPTIONS]\n\n".toList ++
    Arguments.heading "Options:".toList ++ '\n' ::
    if long && c.isDetailed then
      Text.intersperse ['\n'] (c.options.map (·.longHelp env))
    else
      c.options.flatMap (·.shortHelp env c.isDetailed c.headWidth)

/-- The version of a command. -/
def versionText (c : CommandSpec) : Text := Text.line (c.name ++ ' ' :: c.version)

end CommandSpec

end OperatorShell
