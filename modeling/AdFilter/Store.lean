import AdFilter.Filter.Basic

/-! # The store of filters

Several holders can share a filter: they know it by a number, and the store holds its present
state under that number. A new filter gets a new number, and no number is given up.
-/

namespace AdFilter

/-- The number of a filter in a store. -/
abbrev FilterId := Nat

/-- All filters that were ever made, each at the place that is its number. -/
structure Store where
  filters : Array Filter := #[]

namespace Store

def get? (s : Store) (id : FilterId) : Option Filter :=
  s.filters[id]?

def add (s : Store) (f : Filter) : FilterId × Store :=
  (s.filters.size, ⟨s.filters.push f⟩)

def modify (s : Store) (id : FilterId) (change : Filter → Filter) : Store :=
  ⟨s.filters.modify id change⟩

def modifyActivity (s : Store) (id : FilterId) (change : Activity → Activity) : Store :=
  s.modify id (·.updateActivity change)

def setKey (s : Store) (id : FilterId) (key : Option String) : Store :=
  s.modify id fun f => { f with key }

def text? (s : Store) (id : FilterId) : Option String :=
  (s.get? id).map (·.text)

@[simp] theorem get?_add_self (s : Store) (f : Filter) : (s.add f).2.get? (s.add f).1 = some f := by
  simp [add, get?]

theorem get?_add_of_ne {s : Store} {f : Filter} {id : FilterId} (h : id ≠ (s.add f).1) :
    (s.add f).2.get? id = s.get? id := by
  simp only [add, get?, Array.getElem?_push, ne_eq] at *
  simp [h]

@[simp] theorem get?_modify (s : Store) (id : FilterId) (change : Filter → Filter) (i : FilterId) :
    (s.modify id change).get? i = if i = id then (s.get? i).map change else s.get? i := by
  simp only [modify, get?, Array.getElem?_modify, eq_comm]

end Store

end AdFilter
