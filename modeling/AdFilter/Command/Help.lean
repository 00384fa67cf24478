import AdFilter.Command.Basic

/-! # How the program is used

The help on a command says how it is called and lists its options, in columns.
-/

namespace AdFilter.Command

def programName : String := "sieve"

def programAbout : String := "Sieve filter list tools"

/-- The long form of an option, with what its value is called. -/
def OptionSpec.longForm (o : OptionSpec) : String :=
  "--" ++ o.name ++ (o.value.elim "" fun value => " <" ++ value ++ ">")

def OptionSpec.forms (o : OptionSpec) : String :=
  (o.letter.elim "    " fun c => String.ofList ['-', c, ',', ' ']) ++ o.longForm

def OptionSpec.note (o : OptionSpec) : String :=
  o.about ++ (o.standard.elim "" fun value => " [default: " ++ value ++ "]")

/-- Lines of two columns, the second one behind the longest entry of the first. -/
def columns (rows : List (String × String)) : List String :=
  let width := (rows.map (·.1.length)).foldl max 0
  rows.map fun (left, right) =>
    "  " ++ left ++ String.ofList (List.replicate (width + 2 - left.length) ' ') ++ right

def optionLines (options : List OptionSpec) : List String :=
  "Options:" :: columns (options.map fun o => (o.forms, o.note))

def programHelp : List String :=
  let rows := commands.map fun c => (c.name, c.about)
  [programAbout, "", "Usage: " ++ programName ++ " [OPTIONS] <COMMAND>", "", "Commands:"] ++
    columns
      (rows ++ [("help", "Print this message or the help of the given subcommand(s)")]) ++
    "" :: optionLines [verboseSwitch, helpSwitch]

/-- The options of a command with the switches that all commands share. Messages are asked for
behind its first option, and the help is asked for last. -/
def CommandSpec.allOptions (c : CommandSpec) : List OptionSpec :=
  c.options.take 1 ++ verboseSwitch :: c.options.drop 1 ++ [helpSwitch]

def CommandSpec.help (c : CommandSpec) : List String :=
  let needed := (c.options.filter (·.needed)).map (" " ++ ·.longForm)
  [c.about, "", "Usage: " ++ programName ++ " " ++ c.name ++ " [OPTIONS]" ++ String.join needed,
    ""] ++ optionLines c.allOptions

def helpLines (topic : Option String) : List String :=
  ((topic.bind spec?).map CommandSpec.help).getD programHelp

end AdFilter.Command
