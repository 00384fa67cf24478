import AdFilter.Rule.Options
import AdFilter.Rule.Pattern

/-! # Lines about requests

Two at signs in front of such a line make it an exception.
-/

namespace AdFilter.Rule

/-- Whether a line is an exception, and what it is an exception for. -/
def cutException : List Char → Bool × List Char
  | '@' :: '@' :: rest => (true, rest)
  | line => (false, line)

/-- The types of an exception. Unless pages are named, or the pattern begins with a scheme, it
does not apply to whole pages. -/
def exceptionTypes (pattern : List Char) (o : RuleOptions) : Option TypeMask :=
  let types := o.conditions.types.getD .standard
  if types.has .document ∧ !o.namesDocument ∧ !Pattern.startsWithScheme pattern then
    some (types.without ContentType.document.mask)
  else o.conditions.types

def conditionsOf (isException : Bool) (pattern : List Char) (o : RuleOptions) : Conditions :=
  if isException then { o.conditions with types := exceptionTypes pattern o } else o.conditions

end AdFilter.Rule
