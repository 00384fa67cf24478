import AdFilter.Rule.Basic

/-! # Filters

A filter is a line of a filter list together with what it says and what has become of it: whether
it is switched off, how often it was hit, the key it is known by, and the subscriptions that list
it.
-/

namespace AdFilter

/-- The switch and the counters of a filter. -/
structure Activity where
  disabled : Bool := false
  /-- How often the filter was hit, modulo the size of the word. -/
  hits : UInt64 := 0
  /-- When it was last hit, in milliseconds; zero if never. -/
  lastHit : UInt64 := 0
  deriving Repr, DecidableEq

namespace Activity

def hit (a : Activity) (time : UInt64) : Activity :=
  { a with hits := a.hits + 1, lastHit := time }

def resetHits (a : Activity) : Activity :=
  { a with hits := 0, lastHit := 0 }

end Activity

/-- A line of a filter list and its state. -/
structure Filter where
  text : String
  rule : Rule
  activity : Activity := {}
  /-- The key under which a hide set knows the filter. -/
  key : Option String := none
  subscriptions : List String := []

namespace Filter

/-- The switch and the counters, if the rule can have an effect. -/
def activity? (f : Filter) : Option Activity :=
  if f.rule.isActive then some f.activity else none

/-- Whether the filter is switched off; one without effect never is. -/
def isDisabled (f : Filter) : Bool :=
  f.activity?.any (·.disabled)

/-- Changes the switch and the counters, if the rule can have an effect. -/
def updateActivity (f : Filter) (change : Activity → Activity) : Filter :=
  if f.rule.isActive then { f with activity := change f.activity } else f

@[simp] theorem text_updateActivity (f : Filter) (change : Activity → Activity) :
    (f.updateActivity change).text = f.text := by
  unfold updateActivity
  split <;> rfl

@[simp] theorem rule_updateActivity (f : Filter) (change : Activity → Activity) :
    (f.updateActivity change).rule = f.rule := by
  unfold updateActivity
  split <;> rfl

@[simp] theorem key_updateActivity (f : Filter) (change : Activity → Activity) :
    (f.updateActivity change).key = f.key := by
  unfold updateActivity
  split <;> rfl

def subscribe (f : Filter) (id : String) : Filter :=
  if f.subscriptions.contains id then f else { f with subscriptions := f.subscriptions ++ [id] }

def unsubscribe (f : Filter) (id : String) : Filter :=
  { f with subscriptions := f.subscriptions.filter (· != id) }

end Filter

end AdFilter
