import AdFilter.Record
import AdFilter.Text.Pieces

/-! # Records as blocks of text

A block is a header line and a line `key=value` for each field. Values are written as they are.
On reading, keys are trimmed, carriage returns at the end of a line are dropped, and lines outside
of a block or without an equals sign are passed over.
-/

namespace AdFilter.Record

open Text

def header : String := "[Filter]"

def fieldLine (field : String × String) : List Char :=
  field.1.toList ++ '=' :: field.2.toList

def toBlock (r : Record) : String :=
  String.ofList (join '\n' (header.toList :: r.entries.map fieldLine))

def addLine (r : Record) (line : List Char) : Record :=
  match line.dropWhile (· != '=') with
  | [] => r
  | _ :: value =>
    r.insert (String.ofList (trimList (line.takeWhile (· != '=')))) (String.ofList value)

/-- What has been read of a sequence of blocks: the finished records, last first, and the one
whose lines are being read. -/
structure BlockProgress where
  finished : List Record := []
  current : Option Record := none

namespace BlockProgress

/-- The records that have been begun. -/
def records (p : BlockProgress) : List Record :=
  p.finished.reverse ++ p.current.toList

def step (p : BlockProgress) (line : List Char) : BlockProgress :=
  let line := dropEndWhile (· == '\r') line
  if trimList line = header.toList then
    { finished := p.current.toList ++ p.finished, current := some ∅ }
  else { p with current := p.current.map (addLine · line) }

end BlockProgress

def ofBlocks (text : String) : List Record :=
  ((pieces '\n' text.toList).foldl BlockProgress.step {}).records

end AdFilter.Record
