import AdFilter.Text.Hex
import AdFilter.Text.Pieces

/-! # Tables of code points

A table is written as hexadecimal spans in increasing order: `A0` is one code point, `41-5A` is
a range, and `100-12E/2` is every second code point of a range.
-/

namespace AdFilter.Unicode

open AdFilter.Text

/-- Every `step`-th code point from `first` to `last`. -/
structure Span where
  first : Nat
  last : Nat
  step : Nat
  deriving Repr, DecidableEq

namespace Span

def contains (s : Span) (n : Nat) : Bool :=
  s.first ≤ n && n ≤ s.last && (n - s.first) % s.step == 0

def ofChars (cs : List Char) : Span :=
  let bounds := cs.takeWhile (· != '/')
  let step := if (cs.dropWhile (· != '/')).isEmpty then 1 else 2
  let first := Hex.value (bounds.takeWhile (· != '-'))
  match bounds.dropWhile (· != '-') with
  | [] => ⟨first, first, step⟩
  | _ :: last => ⟨first, Hex.value last, step⟩

end Span

/-- A set of code points, given by spans in increasing order of their first code point. -/
structure Ranges where
  spans : List Span
  deriving Repr, DecidableEq

namespace Ranges

/-- Whether one of the spans holds the code point; spans that begin after it are not looked at. -/
def holds : List Span → Nat → Bool
  | [], _ => false
  | s :: rest, n => if n < s.first then false else s.contains n || holds rest n

def contains (r : Ranges) (n : Nat) : Bool :=
  holds r.spans n

def ofText (rows : List String) : Ranges :=
  ⟨rows.flatMap fun row => (pieces ' ' row.toList).map Span.ofChars⟩

def size (r : Ranges) : Nat :=
  r.spans.length

end Ranges

/-- A table with the names it is asked for by, in lower case and without spaces, hyphens and
underscores. -/
structure Table where
  names : List String
  ranges : Ranges

/-- The tables that carry the name. -/
def Table.named (tables : List Table) (name : String) : List Ranges :=
  (tables.filter fun t => t.names.contains name).map Table.ranges

end AdFilter.Unicode
