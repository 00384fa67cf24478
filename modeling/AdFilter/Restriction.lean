import AdFilter.Host.Domain

/-! # Restriction to document domains

A list of domains says on which documents a rule applies. A domain stands for itself and all
domains below it; a tilde in front excludes it. Of the listed domains that a document lies in the
longest one decides.
-/

namespace AdFilter

open Text

/-- The domains a rule is restricted to and those it is kept from, in upper case; `none` if the
list names no such domain. -/
structure Restriction where
  include? : Option (List String) := none
  exclude? : Option (List String) := none
  deriving Repr, DecidableEq

namespace Restriction

def insertInto (set : Option (List String)) (domain : String) : Option (List String) :=
  let members := set.getD []
  some (if members.contains domain then members else members ++ [domain])

def add (r : Restriction) (item : List Char) : Restriction :=
  match trimList item with
  | [] => r
  | '~' :: domain =>
    if domain.isEmpty then r
    else { r with exclude? := insertInto r.exclude? (upper (String.ofList domain)) }
  | domain => { r with include? := insertInto r.include? (upper (String.ofList domain)) }

def ofList (separator : Char) (list : String) : Restriction :=
  (pieces separator list.toList).foldl add {}

def isUnrestricted (r : Restriction) : Bool :=
  r.include?.isNone && r.exclude?.isNone

/-- Whether the domain is one that the rule is restricted to. -/
def includes (r : Restriction) (domain : String) : Bool :=
  r.include?.any (·.contains domain)

/-- Whether the domain is one that the rule is kept from. -/
def excludes (r : Restriction) (domain : String) : Bool :=
  r.exclude?.any (·.contains domain)

/-- What the first of the domains that is listed decides. -/
def decision? (r : Restriction) : List String → Option Bool
  | [] => none
  | domain :: rest =>
    if r.includes domain then some true
    else if r.excludes domain then some false
    else decision? r rest

/-- The domains that a document host lies in, the longest first. -/
def domainsOf (host : String) : List String :=
  (Host.suffixes ((dropEndWhile (· == '.') host.toList).map Char.toUpper)).map String.ofList

/-- Whether a rule with this restriction applies on documents of the host. Without a decision it
does if it is not restricted to any domain. -/
def isActiveOn (r : Restriction) (host : String) : Bool :=
  r.isUnrestricted || (r.decision? (domainsOf host)).getD r.include?.isNone

def sorted (set : List String) : List String :=
  set.mergeSort (fun a b => decide (a ≤ b))

end Restriction

end AdFilter
