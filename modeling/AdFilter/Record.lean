import AdFilter.OrderedMap
import AdFilter.Text.Decimal

/-! # Records

What is kept of a filter is a record: text fields in the order in which they were written. A
field that does not hold what is asked of it counts as absent.
-/

namespace AdFilter

open Text

/-- The stored form of a filter. -/
abbrev Record := OrderedMap String

namespace Record

def bool? (r : Record) (key : String) : Option Bool :=
  (r.get? key).bind fun value =>
    if value = "true" then some true else if value = "false" then some false else none

/-- The number in a field, if it is below `bound`. -/
def number? (bound : Nat) (r : Record) (key : String) : Option Nat :=
  (r.get? key).bind (Decimal.parse? bound)

def ofBool (b : Bool) : String :=
  if b then "true" else "false"

end Record

end AdFilter
