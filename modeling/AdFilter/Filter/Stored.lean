import AdFilter.Filter.Basic
import AdFilter.Record

/-! # Filters as records

A record holds the text of a filter, its kind, and those fields that differ from what a new
filter has. What is built from a record again may differ from what its text says.
-/

namespace AdFilter

/-- The version of the layout of records. -/
def formatVersion : Nat := 3

namespace Filter

def writeActivity (a : Activity) (r : Record) : Record :=
  ((r.insert? "disabled" (if a.disabled then some "true" else none)).insert? "hitCount"
    (if a.hits = 0 then none else some (toString a.hits.toNat))).insert? "lastHit"
    (if a.lastHit = 0 then none else some (toString a.lastHit.toNat))

def writeRequest (q : RequestRule) (r : Record) : Record :=
  (((((r.insert "regexp" q.source).insert? "shortcut" q.shortcut).insert? "contentType"
    (q.conditions.types.map fun m => toString m.toNat)).insert? "matchCase"
    (if q.conditions.matchCase then some "true" else none)).insert? "domains"
    q.conditions.domains).insert? "thirdParty" (q.conditions.thirdParty.map Record.ofBool)

def writeHiding (h : HidingRule) (r : Record) : Record :=
  (r.insert? "domain" h.domain).insert "selector" h.selector

def writeRule (rule : Rule) (a : Activity) (r : Record) : Record :=
  match rule with
  | .invalid _ | .comment => r
  | .blocking q collapse =>
    (writeRequest q (writeActivity a r)).insert? "collapse" (collapse.map Record.ofBool)
  | .exception q => writeRequest q (writeActivity a r)
  | .hide h => writeHiding h (writeActivity a r)

def toRecord (f : Filter) : Record :=
  (writeRule f.rule f.activity ((∅ : Record).insert "text" f.text)).insert "type" f.rule.kind

end Filter

namespace Record

/-- The conditions that the fields give. -/
def conditions (r : Record) : Conditions where
  types := (r.number? UInt32.size "contentType").map (BitVec.ofNat 32)
  matchCase := (r.bool? "matchCase").getD false
  domains := r.get? "domains"
  thirdParty := r.bool? "thirdParty"

/-- The shortcut in the fields, if it has the length that it must have. -/
def shortcut? (r : Record) : Option String :=
  (r.get? "shortcut").filter (·.length == RequestRule.shortcutLength)

/-- The filter about requests that the fields give; `none` if there is no regular expression. -/
def requestFilter? (isException : Bool) (r : Record) : Option (Except RuleError Filter) :=
  (r.get? "text").bind fun text => (r.get? "regexp").map fun source =>
    (RequestRule.make source r.conditions).map fun rule =>
      let rule := { rule with shortcut := r.shortcut? }
      { text, rule := if isException then .exception rule else .blocking rule (r.bool? "collapse") }

/-- The hiding filter that the fields give; `none` if there is no selector. -/
def hidingFilter? (r : Record) : Option (Except RuleError Filter) :=
  (r.get? "text").bind fun text => (r.get? "selector").map fun selector =>
    (HidingRule.make (r.get? "domain") selector).map fun rule => { text, rule := .hide rule }

def setDisabled (r : Record) (a : Activity) : Activity :=
  if r.contains "disabled" then { a with disabled := (r.bool? "disabled").getD false } else a

def setHits (r : Record) (a : Activity) : Activity :=
  if r.contains "hitCount" then
    { a with hits := UInt64.ofNat ((r.number? UInt64.size "hitCount").getD 0) }
  else a

def setLastHit (r : Record) (a : Activity) : Activity :=
  if r.contains "lastHit" then
    { a with lastHit := UInt64.ofNat ((r.number? UInt64.size "lastHit").getD 0) }
  else a

def setActivity (r : Record) (a : Activity) : Activity :=
  r.setLastHit (r.setHits (r.setDisabled a))

end Record

end AdFilter
