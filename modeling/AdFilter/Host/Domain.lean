import AdFilter.Host.Address
import AdFilter.Text.Ascii
import AdFilter.Text.Blank

/-! # Hosts and their domains

A host consists of labels with dots between them. Its parents are what is left when labels are
taken away in front, and its registrable domain is the parent that one owner is taken to hold.
-/

namespace AdFilter.Host

open Text

/-- What follows the first dot, if anything does. -/
def parent? (host : List Char) : Option (List Char) :=
  match host.dropWhile (· != '.') with
  | '.' :: c :: rest => some (c :: rest)
  | _ => none

theorem length_of_parent? {host parent : List Char} (h : parent? host = some parent) :
    parent.length < host.length := by
  have := (List.dropWhile_sublist (· != '.') (l := host)).length_le
  unfold parent? at h
  grind

/-- The host and its parents, the longest first. -/
def suffixes (host : List Char) : List (List Char) :=
  match _h : parent? host with
  | some parent => host :: suffixes parent
  | none => [host]
termination_by host.length
decreasing_by exact length_of_parent? _h

/-- Domains of two labels under which names are registered. -/
def sharedDomains : List String :=
  ["co.uk", "co.jp", "co.nz", "co.za", "co.in", "co.kr", "com.au", "com.br", "com.cn", "com.mx",
    "com.tw", "com.hk", "net.au", "net.nz", "org.uk", "org.au", "gov.uk", "gov.au", "ac.uk",
    "ac.jp", "ne.jp", "or.jp"]

/-- Whether names are registered under the domain of the labels. -/
def isShared (labels : List (List Char)) : Bool :=
  sharedDomains.contains (String.ofList (join '.' labels))

/-- The last labels that make up a registrable domain: two, or three under a shared domain. -/
def registrableLabels (labels : List (List Char)) : List (List Char) :=
  let n := labels.length
  if n ≤ 2 then labels
  else if isShared (labels.drop (n - 2)) then labels.drop (n - 3)
  else labels.drop (n - 2)

/-- The host in lower case and without dots at its end. -/
def normal (host : List Char) : List Char :=
  (dropEndWhile (· == '.') host).map Char.toLower

/-- The registrable domain of a host. An address is its own. -/
def registrable (host : List Char) : List Char :=
  let host := normal host
  if isAddress host then host else join '.' (registrableLabels (pieces '.' host))

/-- Whether a document and a request belong to different owners. -/
def isThirdParty (document request : String) : Bool :=
  registrable document.toList != registrable request.toList

end AdFilter.Host
