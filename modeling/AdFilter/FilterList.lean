import AdFilter.Registry

/-! # Filter lists

A filter list is a text with a filter on each line. Blank lines and the header are passed over.
-/

namespace AdFilter

open Text

/-- How many filters of each kind there are. -/
structure ListStats where
  blocking : Nat := 0
  exceptions : Nat := 0
  hides : Nat := 0
  comments : Nat := 0
  invalid : Nat := 0
  deriving Repr, DecidableEq

namespace ListStats

def count (s : ListStats) : Rule → ListStats
  | .blocking _ _ => { s with blocking := s.blocking + 1 }
  | .exception _ => { s with exceptions := s.exceptions + 1 }
  | .hide _ => { s with hides := s.hides + 1 }
  | .comment => { s with comments := s.comments + 1 }
  | .invalid _ => { s with invalid := s.invalid + 1 }

def ofFilters (fs : List Filter) : ListStats :=
  fs.foldl (fun s f => s.count f.rule) {}

def total (s : ListStats) : Nat :=
  s.blocking + s.exceptions + s.hides + s.comments + s.invalid

end ListStats

namespace FilterList

/-- Whether a trimmed line is the header of a list. -/
def isHeader (line : List Char) : Bool :=
  line.head? == some '[' && line.getLast? == some ']' &&
    "adblock".toList.isPrefixOf ((line.drop 1).map Char.toLower)

/-- The lines that stand for filters, trimmed. -/
def filterLines (text : List Char) : List (List Char) :=
  ((pieces '\n' text).map trimList).filter fun line => !line.isEmpty && !isHeader line

/-- The filters of lines, each the one that the registry knows. -/
def internAll (n : Interning) : List String → List FilterId × Interning
  | [] => ([], n)
  | line :: rest =>
    match n.ofText? line with
    | none => internAll n rest
    | some (id, n) =>
      let (ids, n) := internAll n rest
      (id :: ids, n)

def read (n : Interning) (text : String) : List FilterId × Interning :=
  internAll n ((filterLines text.toList).map String.ofList)

end FilterList

namespace Store

def getAll (s : Store) (ids : List FilterId) : List Filter :=
  ids.filterMap s.get?

end Store

end AdFilter
