import AdFilter.Record
import AdFilter.Text.Json

/-! # Records as flat JSON objects

A record is an object whose values are strings. Read back, its fields come in the order of their
keys, and of a repeated key the last value counts.
-/

namespace AdFilter.Record

open Text Json

def commaSeparated : List (List Char) → List Char
  | [] => []
  | [part] => part
  | part :: rest => part ++ ',' :: commaSeparated rest

def toJson (r : Record) : String :=
  let field (e : String × String) : List Char := writeString e.1 ++ ':' :: writeString e.2
  String.ofList ('\x7B' :: commaSeparated (r.entries.map field) ++ ['\x7D'])

/-- Text that opens and closes a bracket around parts on lines of their own; without parts both
brackets stand together. -/
def bracketed (opening closing : Char) (indent : Nat) (parts : List (List Char)) : List Char :=
  if parts.isEmpty then [opening, closing]
  else
    let line (n : Nat) : List Char := '\n' :: List.replicate n ' '
    opening :: commaSeparated (parts.map (line (indent + 2) ++ ·)) ++ line indent ++ [closing]

def listToJson (rs : List Record) : String :=
  let field (e : String × String) : List Char :=
    writeString e.1 ++ [':', ' '] ++ writeString e.2
  String.ofList (bracketed '[' ']' 0
    (rs.map fun r => bracketed '\x7B' '\x7D' 2 (r.entries.map field)))

def readQuoted? (cs : List Char) : Option (String × List Char) :=
  match skipSpace cs with
  | '"' :: rest => (readString? rest).map fun (s, rest) => (String.ofList s, rest)
  | _ => none

def readField? (cs : List Char) : Option ((String × String) × List Char) :=
  (readQuoted? cs).bind fun (key, rest) =>
    match skipSpace rest with
    | ':' :: rest => (readQuoted? rest).map fun (value, rest) => ((key, value), rest)
    | _ => none

theorem length_skipSpace_le (cs : List Char) : (skipSpace cs).length ≤ cs.length :=
  (List.dropWhile_sublist _).length_le

grind_pattern length_skipSpace_le => skipSpace cs

@[grind →] theorem length_of_readQuoted? {cs rest : List Char} {s : String}
    (h : readQuoted? cs = some (s, rest)) : rest.length < cs.length := by
  unfold readQuoted? at h
  grind [Option.map_eq_some_iff]

@[grind →] theorem length_of_readField? {cs rest : List Char} {e : String × String}
    (h : readField? cs = some (e, rest)) : rest.length < cs.length := by
  unfold readField? at h
  grind [Option.bind_eq_some_iff, Option.map_eq_some_iff]

/-- Reads the fields of an object up to its end; there is at least one. -/
def readFields? (cs : List Char) : Option (List (String × String) × List Char) :=
  match _h : readField? cs with
  | none => none
  | some (e, rest) =>
    match _hs : skipSpace rest with
    | '\x7D' :: rest => some ([e], rest)
    | ',' :: rest => (readFields? rest).map fun (es, rest) => (e :: es, rest)
    | _ => none
termination_by cs.length
decreasing_by
  grind

/-- The record of fields in the order of their keys. -/
def ofFields (es : List (String × String)) : Record :=
  .ofList ((OrderedMap.ofList es).entries.mergeSort fun a b => decide (a.1 ≤ b.1))

def readRecord? (cs : List Char) : Option (Record × List Char) :=
  match skipSpace cs with
  | '\x7B' :: rest =>
    match skipSpace rest with
    | '\x7D' :: rest => some (∅, rest)
    | rest => (readFields? rest).map fun (es, rest) => (ofFields es, rest)
  | _ => none

@[grind →] theorem length_of_readFields? {cs rest : List Char} {es : List (String × String)}
    (h : readFields? cs = some (es, rest)) : rest.length < cs.length := by
  fun_induction readFields? cs generalizing es <;>
    grind [Option.map_eq_some_iff]

@[grind →] theorem length_of_readRecord? {cs rest : List Char} {r : Record}
    (h : readRecord? cs = some (r, rest)) : rest.length < cs.length := by
  unfold readRecord? at h
  grind [Option.map_eq_some_iff]

/-- Reads the records of an array up to its end; there is at least one. -/
def readRecords? (cs : List Char) : Option (List Record × List Char) :=
  match _h : readRecord? cs with
  | none => none
  | some (r, rest) =>
    match _hs : skipSpace rest with
    | ']' :: rest => some ([r], rest)
    | ',' :: rest => (readRecords? rest).map fun (rs, rest) => (r :: rs, rest)
    | _ => none
termination_by cs.length
decreasing_by
  grind

/-- What was read, if nothing but white space is left. -/
def whole? {α : Type} : Option (α × List Char) → Option α
  | some (a, rest) => if (skipSpace rest).isEmpty then some a else none
  | none => none

def ofJson? (text : String) : Option Record :=
  whole? (readRecord? text.toList)

def listOfJson? (text : String) : Option (List Record) :=
  match skipSpace text.toList with
  | '[' :: rest =>
    match skipSpace rest with
    | ']' :: rest => whole? (some ([], rest))
    | rest => whole? (readRecords? rest)
  | _ => none

end AdFilter.Record
