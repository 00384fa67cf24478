import AdFilter.Text.Hex
import AdFilter.Text.Pieces

/-! # Addresses as hosts

A host may be an address: four decimal numbers with dots between them, or groups of hexadecimal
digits with colons between them. One run of zero groups may be left out, and the last two groups
may be written as four decimal numbers.
-/

namespace AdFilter.Host

open Text

/-- A decimal number below 256 that is written without leading zeros. -/
def isOctet (cs : List Char) : Bool :=
  cs.all Char.isDigit && 0 < cs.length && cs.length ≤ 3 &&
    (cs.length == 1 || cs.head? != some '0') &&
    cs.foldl (fun n c => n * 10 + (c.toNat - '0'.toNat)) 0 < 256

def isIPv4 (cs : List Char) : Bool :=
  let octets := pieces '.' cs
  octets.length == 4 && octets.all isOctet

/-- One to four hexadecimal digits. -/
def isGroup (cs : List Char) : Bool :=
  cs.all (fun c => (Hex.digit? c).isSome) && 0 < cs.length && cs.length ≤ 4

/-- How many groups the pieces between colons make, where the last piece may be an address of four
decimal numbers if `quad` allows it; `none` if one is neither. -/
def groupCount? (quad : Bool) : List (List Char) → Option Nat
  | [] => some 0
  | [last] => if isGroup last then some 1 else if quad && isIPv4 last then some 2 else none
  | group :: rest => if isGroup group then (groupCount? quad rest).map (· + 1) else none

/-- How many groups a part of an address makes; the empty part makes none. -/
def partCount? (quad : Bool) (cs : List Char) : Option Nat :=
  if cs.isEmpty then some 0 else groupCount? quad (pieces ':' cs)

/-- The parts before and behind the first pair of colons. -/
def cutAtGap? : List Char → Option (List Char × List Char)
  | ':' :: ':' :: rest => some ([], rest)
  | c :: cs => (cutAtGap? cs).map fun (a, b) => (c :: a, b)
  | [] => none

def isIPv6 (cs : List Char) : Bool :=
  match cutAtGap? cs with
  | none => partCount? true cs == some 8
  | some (front, back) =>
    match partCount? false front, partCount? true back with
    | some m, some n => m + n ≤ 7
    | _, _ => false

def isAddress (cs : List Char) : Bool :=
  isIPv4 cs || isIPv6 cs

end AdFilter.Host
