import AdFilter.Store

/-! # Deciding requests

A matcher holds blocking filters and exceptions in the order in which they were added. An
exception that applies to a request lets it through, whatever else applies.
-/

namespace AdFilter

/-- What is to become of a request, and the filter that decides. -/
inductive Decision where
  | allow (id : FilterId)
  | block (id : FilterId)
  | none
  deriving Repr, DecidableEq

namespace Decision

def filter? : Decision → Option FilterId
  | .allow id | .block id => some id
  | .none => Option.none

def isBlocked : Decision → Bool
  | .block _ => true
  | _ => false

end Decision

/-- The filters that requests are decided by. -/
structure Matcher where
  blocking : List FilterId := []
  exceptions : List FilterId := []
  /-- The texts of all filters in the matcher. -/
  known : List String := []
  deriving Repr, DecidableEq

namespace Matcher

/-- Adds a filter about requests unless one of its text is there; tells whether it was added. -/
def add (m : Matcher) (s : Store) (id : FilterId) : Bool × Matcher :=
  match s.get? id with
  | none => (false, m)
  | some f =>
    if m.known.contains f.text then (false, m)
    else
      match f.rule with
      | .blocking _ _ =>
        (true, { m with blocking := m.blocking ++ [id], known := f.text :: m.known })
      | .exception _ =>
        (true, { m with exceptions := m.exceptions ++ [id], known := f.text :: m.known })
      | _ => (false, m)

/-- Takes out the filter of a text; tells whether there was one. -/
def remove (m : Matcher) (s : Store) (text : String) : Bool × Matcher :=
  if m.known.contains text then
    let others (ids : List FilterId) : List FilterId := ids.filter (s.text? · != some text)
    (true, ⟨others m.blocking, others m.exceptions, m.known.filter (· != text)⟩)
  else (false, m)

def size (m : Matcher) : Nat :=
  m.blocking.length + m.exceptions.length

/-- Whether the filter is switched on and applies to the request. -/
def fires (s : Store) (q : Request) (id : FilterId) : Bool :=
  (s.get? id).any fun f => !f.isDisabled && f.rule.applies q

/-- Decides a request: by the first exception that applies, or else by the first blocking filter
that does. -/
def decide (m : Matcher) (s : Store) (q : Request) : Decision :=
  match m.exceptions.find? (fires s q) with
  | some id => .allow id
  | none =>
    match m.blocking.find? (fires s q) with
    | some id => .block id
    | none => .none

end Matcher

end AdFilter
