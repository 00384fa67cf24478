import AdFilter.Text.Blank

/-! # Decimal numbers of a bounded width

A written number is an optional plus sign and one or more ASCII digits whose value fits the
width asked for.
-/

namespace AdFilter.Text.Decimal

def digit? (c : Char) : Option Nat :=
  if c.isDigit then some (c.toNat - '0'.toNat) else none

/-- The value of the digits, after those already read. -/
def digitsFrom? (value : Nat) : List Char → Option Nat
  | [] => some value
  | c :: cs => (digit? c).bind fun d => digitsFrom? (value * 10 + d) cs

def digits? (cs : List Char) : Option Nat :=
  if cs.isEmpty then none else digitsFrom? 0 cs

def unsigned : List Char → List Char
  | '+' :: cs => cs
  | cs => cs

/-- The number written in the text, if it is below `bound`. -/
def parse? (bound : Nat) (s : String) : Option Nat :=
  (digits? (unsigned (trimList s.toList))).filter (· < bound)

end AdFilter.Text.Decimal
