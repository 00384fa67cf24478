import AdFilter.Command.Arguments
import AdFilter.Filter.Stored

/-! # What the command line can ask for -/

namespace AdFilter

/-- What is to be done. -/
inductive Command where
  /-- Tell how the program, or one of its commands, is used. -/
  | help (topic : Option String)
  /-- Report how many lines of each kind there are, and which are invalid. -/
  | check (inputs : List String) (strict : Bool)
  /-- Decide a request. -/
  | decide (inputs : List String) (url type : String) (document : Option String)
  /-- Print the selectors for a domain, or a style sheet. -/
  | hide (inputs : List String) (domain : String) (css : Bool)
  /-- Print the records of all filters. -/
  | dump (inputs : List String) (json : Bool)
  /-- Restore filters from records and print their records again. -/
  | restore (input : String) (json : Bool) (version : Nat)
  deriving Repr, DecidableEq

namespace Command

/-- A command that is understood. -/
structure CommandSpec where
  name : String
  /-- What the help says about the command. -/
  about : String
  options : List OptionSpec

/-- The switch for messages about what is being done; it has no effect on the results. -/
def verboseSwitch : OptionSpec :=
  { name := "verbose", letter := some 'v', about := "Show library debug logs" }

def helpSwitch : OptionSpec :=
  { name := "help", letter := some 'h', about := "Print help", ends := true }

/-- The option for lists to be read. -/
def lists : OptionSpec :=
  { name := "input", letter := some 'i', value := some "INPUT"
    about := "Input filter list files", needed := true, repeats := true }

/-- The commands in the order in which the help names them. The switches that all commands share
are not among their options here. -/
def commands : List CommandSpec :=
  [{  name := "check", about := "Compile filter lists and report invalid lines"
      options := [lists, { name := "strict", about := "Treat unknown $options as errors" }] },
    { name := "match", about := "Decide whether a request is blocked"
      options :=
        [lists,
          { name := "url", letter := some 'u', value := some "URL", about := "Request URL"
            needed := true },
          { name := "type", letter := some 't', value := some "REQUEST_TYPE"
            about := "Request type (script, image, main_frame, ...)", standard := some "other" },
          { name := "document", letter := some 'd', value := some "DOCUMENT"
            about := "URL of the document making the request" }] },
    { name := "hide", about := "Print the element hiding selectors for a domain"
      options :=
        [lists,
          { name := "domain", letter := some 'd', value := some "DOMAIN"
            about := "Document domain", needed := true },
          { name := "css", about := "Print a stylesheet instead of one selector per line" }] },
    { name := "dump", about := "Print the persistence records of every compiled filter"
      options := [lists, { name := "json", about := "JSON array instead of [Filter] blocks" }] },
    { name := "restore", about := "Rebuild filters from dumped records and print them again"
      options :=
        [{  name := "input", letter := some 'i', value := some "INPUT"
            about := "Dump file written by `dump`", needed := true },
          { name := "json", about := "Input is a JSON array" },
          { name := "stored-version", value := some "STORED_VERSION"
            about := "Format version the dump was written with"
            standard := some (toString formatVersion), fits := fun s => (number? s).isSome }] }]

def spec? (name : String) : Option CommandSpec :=
  commands.find? (·.name == name)

/-- The command of a name with the options that were given; `none` if one that is needed is
missing. -/
def build? (spec : CommandSpec) (given : List Given) : Option Command :=
  let all := values given "input"
  if switch given "help" then some (.help (some spec.name))
  else if spec.options.any fun o => o.needed && !switch given o.name then none
  else match spec.name with
    | "check" => some (.check all (switch given "strict"))
    | "match" =>
      (value? given "url").map fun url =>
        .decide all url ((value? given "type").getD "other") (value? given "document")
    | "hide" => (value? given "domain").map fun domain => .hide all domain (switch given "css")
    | "dump" => some (.dump all (switch given "json"))
    | "restore" =>
      (value? given "input").map fun input =>
        .restore input (switch given "json")
          (((value? given "stored-version").bind number?).getD formatVersion)
    | _ => none

/-- The help on what the words name: the whole program or one command. -/
def helpOn? : List String → Option Command
  | [] => some (.help none)
  | [name] => (spec? name).map fun spec => .help (some spec.name)
  | _ => none

/-- The command that the words ask for; `none` if they are not understood. Switches can stand in
front of the name of the command. -/
def ofArguments? (words : List String) : Option Command :=
  let isFront (word : String) : Bool := isOptionWord word.toList && word != "--"
  (readWords? [verboseSwitch, helpSwitch] []
    ((words.takeWhile isFront).map String.toList)).bind fun front =>
      if switch front "help" then some (.help none)
      else match words.dropWhile isFront with
        | [] => none
        | "help" :: topic => helpOn? topic
        | name :: rest =>
          (spec? name).bind fun spec =>
            (readWords? (verboseSwitch :: helpSwitch :: spec.options) []
              (rest.map String.toList)).bind (build? spec)

end Command

end AdFilter
