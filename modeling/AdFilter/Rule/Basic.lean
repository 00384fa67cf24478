import AdFilter.Regex.Compile
import AdFilter.Regex.Search
import AdFilter.Request
import AdFilter.Restriction
import AdFilter.Rule.Error

/-! # Rules

A rule about requests is a regular expression for the URL and conditions on the rest of the
request. A hiding rule is a selector and the documents it applies on.
-/

namespace AdFilter

open Text

/-- What a rule asks of a request beside its URL. -/
structure Conditions where
  /-- The types it applies to; `none` if none are named. -/
  types : Option TypeMask := none
  matchCase : Bool := false
  /-- The document domains as written. -/
  domains : Option String := none
  /-- Whether the request has to be one of a third party, or must not be. -/
  thirdParty : Option Bool := none
  deriving Repr, DecidableEq

/-- A rule about requests. -/
structure RequestRule where
  /-- The text of the regular expression. -/
  source : String
  conditions : Conditions
  regex : Regex
  compiles : Regex.compile conditions.matchCase source.toList = .ok regex
  /-- A part of every URL that is matched, by which the rule can be looked up. -/
  shortcut : Option String := none

namespace RequestRule

/-- The length that a shortcut must have. -/
def shortcutLength : Nat := 8

/-- The rule of a regular expression, if that is one. -/
def make (source : String) (conditions : Conditions) : Except RuleError RequestRule :=
  match compiles : Regex.compile conditions.matchCase source.toList with
  | .ok regex => .ok { source, conditions, regex, compiles }
  | .error e => .error (.invalidRegex e)

def types (r : RequestRule) : TypeMask :=
  r.conditions.types.getD .standard

def restriction (r : RequestRule) : Restriction :=
  (r.conditions.domains.map (Restriction.ofList '|')).getD {}

/-- Whether the rule applies to the request. The document is not asked about if its host is not
known. -/
def applies (r : RequestRule) (q : Request) : Bool :=
  Regex.isMatch r.regex q.url.toList && q.types.meets r.types &&
    r.conditions.thirdParty.all (· == q.thirdParty) &&
    (q.document == "" || r.restriction.isActiveOn q.document)

end RequestRule

/-- A rule that hides elements of documents. -/
structure HidingRule where
  /-- The domains that it is restricted to, as written; `none` for all. -/
  domain : Option String
  selector : String
  domain_ne_empty : domain ≠ some ""
  selector_not_blank : blank selector = false
  deriving Repr, DecidableEq

namespace HidingRule

/-- The rule of a selector, which must not be blank. -/
def make (domain : Option String) (selector : String) : Except RuleError HidingRule :=
  if h : blank selector then .error .emptySelector
  else
    .ok {
      domain := domain.filter (· != ""), selector
      domain_ne_empty := by cases domain <;> simp [Option.filter]
      selector_not_blank := by simpa using h }

def restriction (r : HidingRule) : Restriction :=
  (r.domain.map (Restriction.ofList ',')).getD {}

end HidingRule

/-- What a line of a filter list says. -/
inductive Rule where
  /-- Nothing, as it is faulty. -/
  | invalid (reason : Rejection)
  | comment
  /-- Blocks requests, and may say whether the gap that is left is to be closed. -/
  | blocking (rule : RequestRule) (collapse : Option Bool)
  /-- Lets requests through whatever blocks them. -/
  | exception (rule : RequestRule)
  | hide (rule : HidingRule)

namespace Rule

/-- The name of the kind of rule in records. -/
def kind : Rule → String
  | .invalid _ => "invalid"
  | .comment => "comment"
  | .blocking _ _ => "filterlist"
  | .exception _ => "whitelist"
  | .hide _ => "elemhide"

def request? : Rule → Option RequestRule
  | .blocking r _ => some r
  | .exception r => some r
  | _ => none

def hiding? : Rule → Option HidingRule
  | .hide r => some r
  | _ => none

def rejection? : Rule → Option Rejection
  | .invalid reason => some reason
  | _ => none

/-- Whether the rule says that gaps are to be closed. -/
def collapse? : Rule → Option Bool
  | .blocking _ collapse => collapse
  | _ => none

def isBlocking : Rule → Bool
  | .blocking _ _ => true
  | _ => false

def isException : Rule → Bool
  | .exception _ => true
  | _ => false

/-- Whether the rule can have an effect, and so can be switched off and can be hit. -/
def isActive : Rule → Bool
  | .invalid _ | .comment => false
  | _ => true

def applies (r : Rule) (q : Request) : Bool :=
  r.request?.any (·.applies q)

/-- Whether the rule applies on documents of the host. -/
def isActiveOn (r : Rule) (host : String) : Bool :=
  match r with
  | .invalid _ | .comment => false
  | .blocking r _ | .exception r => r.restriction.isActiveOn host
  | .hide r => r.restriction.isActiveOn host

end Rule

end AdFilter
