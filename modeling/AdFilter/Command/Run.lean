import AdFilter.Command.Help
import AdFilter.FilterList
import AdFilter.HideSet
import AdFilter.Matcher
import AdFilter.Record.Block
import AdFilter.Record.Flat

/-! # Carrying out a command

A command reads files and prints lines. Whatever was printed before an error stays printed.
-/

namespace AdFilter.Command

open Text

inductive Line where
  | text (s : String)
  /-- How many lists were checked; the time that took is filled in when the line is printed. -/
  | checked (lists : Nat)
  deriving Repr, DecidableEq

def Line.render (elapsed : String) : Line → String
  | .text s => s
  | .checked lists => "Checked " ++ toString lists ++ " lists in " ++ elapsed

/-- What a command has done. -/
structure Outcome where
  output : List Line := []
  /-- What is told about the work beside its result. -/
  notes : List String := []
  error : Option String := none
  deriving Repr, DecidableEq

namespace Outcome

def stdout (o : Outcome) (elapsed : String) : String :=
  String.join (o.output.map fun line => line.render elapsed ++ "\n")

/-- What is told beside the result, the error last. -/
def stderr (o : Outcome) : List String :=
  o.notes ++ (o.error.map ("Error: " ++ ·)).toList

def exitCode (o : Outcome) : Nat :=
  if o.error.isSome then 1 else 0

def ofLines (lines : List String) : Outcome :=
  { output := lines.map .text }

def ofError (e : String) : Outcome :=
  { error := some e }

end Outcome

/-- The exit code when the arguments are not understood. -/
def usageExitCode : Nat := 2

/-- How a file is read: its contents, or why it cannot be read. -/
abbrev Reader := String → Except String String

def contents (read : Reader) (path : String) : Except String String :=
  (read path).mapError fun e => "Failed to read '" ++ path ++ "': " ++ e

/-- The filters of lists, in order; each file counts as a subscription. -/
def loadLists (read : Reader) (n : Interning) :
    List String → Except String (List FilterId × Interning)
  | [] => .ok ([], n)
  | path :: rest => do
    let (ids, n) := FilterList.read n (← contents read path)
    let store := ids.foldl (fun s id => s.modify id (·.subscribe path)) n.store
    let (more, n) ← loadLists read { n with store } rest
    return (ids ++ more, n)

def fileName (path : String) : String :=
  match ((pieces '/' path.toList).filter fun p => !p.isEmpty && p != ['.']).getLast? with
  | some name => if name = ['.', '.'] then "" else String.ofList name
  | none => ""

def report (path : String) (fs : List Filter) : List String :=
  let stats := ListStats.ofFilters fs
  let invalid (f : Filter) : Option String :=
    f.rule.rejection?.map fun reason => "    " ++ f.text ++ " (" ++ reason.message ++ ")"
  [fileName path ++ ": " ++ toString stats.total ++ " lines compiled",
    "  Blocking:   " ++ toString stats.blocking,
    "  Exceptions: " ++ toString stats.exceptions,
    "  Hiding:     " ++ toString stats.hides,
    "  Comments:   " ++ toString stats.comments,
    "  Invalid:    " ++ toString stats.invalid] ++ fs.filterMap invalid

/-- Checks lists one after the other; `total` is their number, and `lines` and `invalid` are what
was found before. -/
def runCheck (read : Reader) (policy : Policy) (total : Nat) (lines : List Line)
    (invalid : Nat) : List String → Outcome
  | [] =>
    { output := lines ++ [.checked total]
      error := if invalid = 0 then none else some (toString invalid ++ " invalid filters") }
  | path :: rest =>
    match loadLists read { registry := { policy } } [path] with
    | .error e => { output := lines, error := some e }
    | .ok (ids, n) =>
      let fs := n.store.getAll ids
      runCheck read policy total (lines ++ (report path fs).map .text)
        (invalid + (ListStats.ofFilters fs).invalid) rest

def runDecide (read : Reader) (inputs : List String) (url type : String)
    (document : Option String) : Outcome :=
  match loadLists read {} inputs with
  | .error e => .ofError e
  | .ok (ids, n) =>
    let m := ids.foldl (fun (m : Matcher) id => (m.add n.store id).2) {}
    let request := Request.ofUrls url (ContentType.ofRequestType type).mask document
    let text (id : FilterId) : String := (n.store.text? id).getD ""
    match m.decide n.store request with
    | .block id => .ofLines ["BLOCK  " ++ text id]
    | .allow id => .ofLines ["ALLOW  " ++ text id]
    | .none => .ofLines ["NO MATCH"]

/-- Prints the selectors for a domain, or a style sheet. -/
def runHide (read : Reader) (inputs : List String) (domain : String) (css : Bool) : Outcome :=
  match loadLists read {} inputs with
  | .error e => .ofError e
  | .ok (ids, n) =>
    let (h, s) := ids.foldl (fun (h : HideSet × Store) id => (h.1.add h.2 id).2) ({}, n.store)
    .ofLines (if css then [h.styleSheet s domain] else h.selectors s domain)

def printRecords (json : Bool) (rs : List Record) : List String :=
  if json then [Record.listToJson rs] else rs.map fun r => r.toBlock ++ "\n"

def runDump (read : Reader) (inputs : List String) (json : Bool) : Outcome :=
  match loadLists read {} inputs with
  | .error e => .ofError e
  | .ok (ids, n) =>
    .ofLines (printRecords json ((n.store.getAll ids.eraseDups).map Filter.toRecord))

/-- Restores filters one after the other; gives the record of each. -/
def restoreAll (version : Nat) (n : Interning) : List Record → List (Option Record)
  | [] => []
  | r :: rest =>
    match n.ofRecord? version r with
    | none => none :: restoreAll version n rest
    | some (id, n) => ((n.store.get? id).map Filter.toRecord) :: restoreAll version n rest

def runRestore (read : Reader) (input : String) (json : Bool) (version : Nat) : Outcome :=
  match contents read input with
  | .error e => .ofError e
  | .ok text =>
    match if json then Record.listOfJson? text else some (Record.ofBlocks text) with
    | none => .ofError ("Failed to parse '" ++ input ++ "'")
    | some rs =>
      let outcomes := restoreAll version {} rs
      let restored := outcomes.filterMap id
      let note :=
        "Restored " ++ toString restored.length ++ " of " ++ toString rs.length ++
          " records (" ++ toString (rs.length - restored.length) ++ " skipped, trusted: " ++
          Record.ofBool (version = formatVersion) ++ ")"
      { output := (printRecords json restored).map .text, notes := [note] }

def run (read : Reader) : Command → Outcome
  | .help topic => .ofLines (helpLines topic)
  | .check inputs strict =>
    runCheck read (if strict then .strict else .lenient) inputs.length [] 0 inputs
  | .decide inputs url type document => runDecide read inputs url type document
  | .hide inputs domain css => runHide read inputs domain css
  | .dump inputs json => runDump read inputs json
  | .restore input json version => runRestore read input json version

def inputs : Command → List String
  | .help _ => []
  | .check inputs _ | .decide inputs _ _ _ | .hide inputs _ _ | .dump inputs _ => inputs
  | .restore input _ _ => [input]

end AdFilter.Command
