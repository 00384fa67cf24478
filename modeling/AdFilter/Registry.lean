import AdFilter.Filter.Line
import AdFilter.Filter.Stored
import AdFilter.Store

/-! # The registry of filters

The registry knows one filter for each text, so that all lists that have a line share its switch
and its counters. A restored record takes the place of the filter that was known under its text,
unless it is of no use and the filter has to be made from its text.
-/

namespace AdFilter

open Text

/-- The filters known by their texts. -/
structure Registry where
  policy : Policy := .lenient
  known : OrderedMap FilterId := ∅

/-- A registry and the store that its filters are in. -/
structure Interning where
  store : Store := {}
  registry : Registry := {}

namespace Registry

def get? (r : Registry) (text : String) : Option FilterId :=
  r.known.get? text

def size (r : Registry) : Nat :=
  r.known.size

/-- Makes the filter known under its text, in place of any other. -/
def put (r : Registry) (text : String) (id : FilterId) : Registry :=
  { r with known := r.known.insert text id }

def clear (r : Registry) : Registry :=
  { r with known := ∅ }

/-- The filter that a text gives, not yet known. -/
def compile (r : Registry) (text : String) : Filter :=
  .ofLine r.policy text

end Registry

namespace Interning

/-- Makes a filter known under its text unless one is; gives the one that is known. -/
def intern (n : Interning) (f : Filter) : FilterId × Interning :=
  match n.registry.get? f.text with
  | some id => (id, n)
  | none =>
    let (id, store) := n.store.add f
    (id, ⟨store, n.registry.put f.text id⟩)

/-- Makes a filter known under its text in place of any other. -/
def replace (n : Interning) (f : Filter) : FilterId × Interning :=
  let (id, store) := n.store.add f
  (id, ⟨store, n.registry.put f.text id⟩)

/-- The filter of a text, made when it is first asked for; `none` if the text is blank. -/
def ofText? (n : Interning) (text : String) : Option (FilterId × Interning) :=
  if blank text then none
  else
    match n.registry.get? text with
    | some id => some (id, n)
    | none => some (n.intern (n.registry.compile text))

/-- Puts a restored filter in place; without one the text gives the filter. -/
def place? (n : Interning) (text : String) (restored : Option (Except RuleError Filter)) :
    Option (FilterId × Interning) :=
  match restored with
  | some (.ok f) => some (n.replace f)
  | _ => n.ofText? text

/-- The filter of a record, its switch and counters set aside. Rules about requests are only
taken from records of the present version. -/
def found? (n : Interning) (version : Nat) (r : Record) : Option (FilterId × Interning) :=
  (r.get? "text").bind fun text => (r.get? "type").bind fun kind =>
    if kind = "invalid" then n.ofText? text
    else if kind = "comment" then some (n.replace { text, rule := .comment })
    else if kind = "filterlist" ∨ kind = "whitelist" then
      if version = formatVersion then n.place? text (r.requestFilter? (kind = "whitelist"))
      else n.ofText? text
    else if kind = "elemhide" then n.place? text r.hidingFilter?
    else none

/-- The filter of a record, with the switch and the counters that the record sets; `none` if the
record gives no filter. -/
def ofRecord? (n : Interning) (version : Nat) (r : Record) : Option (FilterId × Interning) :=
  (n.found? version r).map fun (id, n) =>
    (id, { n with store := n.store.modifyActivity id r.setActivity })

/-- Forgets all known filters; those already handed out stay as they are. -/
def clear (n : Interning) : Interning :=
  { n with registry := n.registry.clear }

end Interning

end AdFilter
