/-! # Maps that keep the order of insertion

A map from texts to values is a list of pairs with different keys. A key keeps the place where it
was first inserted; inserting it again replaces the value only.
-/

namespace AdFilter

/-- A map from texts to values of `α` in the order in which the keys were inserted. -/
structure OrderedMap (α : Type) where
  entries : List (String × α) := []
  nodup_keys : (entries.map Prod.fst).Nodup := by simp
  deriving Repr, DecidableEq

namespace OrderedMap

variable {α : Type}

/-- The pairs with the value of a key put in place of the old one, or at the end. -/
def insertPair (key : String) (value : α) : List (String × α) → List (String × α)
  | [] => [(key, value)]
  | (k, v) :: rest =>
    if k = key then (key, value) :: rest else (k, v) :: insertPair key value rest

theorem mem_keys_insertPair {key k : String} {value : α} {es : List (String × α)} :
    k ∈ (insertPair key value es).map Prod.fst ↔ k = key ∨ k ∈ es.map Prod.fst := by
  induction es with
  | nil => simp [insertPair]
  | cons e es ih => grind [insertPair]

theorem nodup_keys_insertPair {key : String} {value : α} {es : List (String × α)}
    (h : (es.map Prod.fst).Nodup) : ((insertPair key value es).map Prod.fst).Nodup := by
  induction es with
  | nil => simp [insertPair]
  | cons e es ih =>
    have := @mem_keys_insertPair α key e.1 value es
    grind [insertPair]

def empty : OrderedMap α := {}

instance : EmptyCollection (OrderedMap α) := ⟨empty⟩

def insert (m : OrderedMap α) (key : String) (value : α) : OrderedMap α :=
  ⟨insertPair key value m.entries, nodup_keys_insertPair m.nodup_keys⟩

def get? (m : OrderedMap α) (key : String) : Option α :=
  m.entries.lookup key

def contains (m : OrderedMap α) (key : String) : Bool :=
  (m.get? key).isSome

def erase (m : OrderedMap α) (key : String) : OrderedMap α :=
  ⟨m.entries.filter (·.1 != key),
    m.nodup_keys.sublist (List.filter_sublist.map Prod.fst)⟩

def size (m : OrderedMap α) : Nat :=
  m.entries.length

def keys (m : OrderedMap α) : List String :=
  m.entries.map Prod.fst

def ofList (pairs : List (String × α)) : OrderedMap α :=
  pairs.foldl (fun m (pair : String × α) => m.insert pair.1 pair.2) ∅

def insert? (m : OrderedMap α) (key : String) (value : Option α) : OrderedMap α :=
  value.elim m (m.insert key)

@[simp] theorem get?_empty (key : String) : (∅ : OrderedMap α).get? key = none := rfl

theorem lookup_insertPair (key k : String) (value : α) (es : List (String × α)) :
    (insertPair key value es).lookup k = if k = key then some value else es.lookup k := by
  induction es with
  | nil => grind [insertPair]
  | cons e es ih => grind [insertPair]

theorem lookup_filter_ne (key k : String) (es : List (String × α)) :
    (es.filter (·.1 != key)).lookup k = if k = key then none else es.lookup k := by
  induction es with
  | nil => simp
  | cons e es ih => grind

@[simp] theorem get?_insert (m : OrderedMap α) (key : String) (value : α) (k : String) :
    (m.insert key value).get? k = if k = key then some value else m.get? k :=
  lookup_insertPair key k value m.entries

@[simp] theorem get?_erase (m : OrderedMap α) (key k : String) :
    (m.erase key).get? k = if k = key then none else m.get? k :=
  lookup_filter_ne key k m.entries

end OrderedMap

end AdFilter
