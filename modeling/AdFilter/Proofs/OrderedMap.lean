import AdFilter.OrderedMap

/-! # Looking up keys

Since the keys of a map are different, its pairs say what every look-up gives, in whatever order
they stand; and inserting the pairs of a map one after the other builds the map again.
-/

namespace AdFilter.OrderedMap

variable {α : Type}

theorem ext {m m' : OrderedMap α} (same : m.entries = m'.entries) : m = m' := by
  cases m
  cases m'
  cases same
  rfl

@[simp] theorem get?_insert? (m : OrderedMap α) (key : String) (value : Option α) (k : String) :
    (m.insert? key value).get? k = if k = key then value.or (m.get? k) else m.get? k := by
  cases value with
  | none => simp [insert?]
  | some v => simp [insert?, get?_insert]

/-- The condition holds of every key and its value. -/
def All (P : String → α → Prop) (m : OrderedMap α) : Prop :=
  ∀ key value, m.get? key = some value → P key value

section All

variable {P : String → α → Prop} {m : OrderedMap α}

theorem all_empty (P : String → α → Prop) : (∅ : OrderedMap α).All P :=
  fun _ _ found => nomatch found

theorem All.insert (all : m.All P) {key : String} {value : α} (new : P key value) :
    (m.insert key value).All P := by
  intro k v found
  rw [get?_insert] at found
  split at found
  · rename_i same
    cases found
    exact same ▸ new
  · exact all k v found

theorem All.insert? (all : m.All P) {key : String} {value : Option α}
    (new : ∀ v ∈ value, P key v) : (m.insert? key value).All P := by
  cases value with
  | none => exact all
  | some v => exact all.insert (new v rfl)

theorem All.erase (all : m.All P) (key : String) : (m.erase key).All P := by
  intro k v found
  rw [get?_erase] at found
  split at found
  · cases found
  · exact all k v found

end All

theorem lookup_eq_some_iff {es : List (String × α)} (nodup : (es.map Prod.fst).Nodup) {key : String}
    {value : α} : es.lookup key = some value ↔ (key, value) ∈ es := by
  induction es with
  | nil => simp
  | cons e es ih =>
      obtain ⟨k, v⟩ := e
      obtain ⟨new, nodup⟩ := List.nodup_cons.mp nodup
      rw [List.lookup_cons]
      by_cases h : key = k
      · subst h
        have notLater : (key, value) ∉ es := fun member =>
          new (List.mem_map.mpr ⟨_, member, rfl⟩)
        simp [notLater, eq_comm]
      · have other : (key == k) = false := by simpa using h
        rw [other]
        simp [ih nodup, h]

theorem get?_eq_some_iff (m : OrderedMap α) {key : String} {value : α} :
    m.get? key = some value ↔ (key, value) ∈ m.entries :=
  lookup_eq_some_iff m.nodup_keys

theorem mem_keys_iff (m : OrderedMap α) {key : String} :
    key ∈ m.keys ↔ ∃ value, m.get? key = some value := by
  simp only [get?_eq_some_iff, keys, List.mem_map]
  constructor
  · rintro ⟨⟨_, value⟩, member, rfl⟩
    exact ⟨value, member⟩
  · rintro ⟨value, member⟩
    exact ⟨(key, value), member, rfl⟩

theorem contains_iff_mem_keys (m : OrderedMap α) {key : String} :
    m.contains key = true ↔ key ∈ m.keys := by
  rw [contains, Option.isSome_iff_exists, mem_keys_iff]

theorem get?_of_perm {m m' : OrderedMap α} (perm : m.entries.Perm m'.entries) (key : String) :
    m.get? key = m'.get? key := by
  ext value
  rw [get?_eq_some_iff, get?_eq_some_iff, perm.mem_iff]

theorem insertPair_of_new {key : String} {value : α} {es : List (String × α)}
    (new : key ∉ es.map Prod.fst) : insertPair key value es = es ++ [(key, value)] := by
  induction es with
  | nil => rfl
  | cons e es ih =>
      simp only [List.map_cons, List.mem_cons, not_or] at new
      rw [insertPair, if_neg (Ne.symm new.1), ih new.2, List.cons_append]

theorem length_insertPair_le (key : String) (value : α) (es : List (String × α)) :
    (insertPair key value es).length ≤ es.length + 1 := by
  induction es with
  | nil => exact Nat.le_refl 1
  | cons e es ih =>
      rw [insertPair]
      split
      · exact Nat.le_succ _
      · exact Nat.succ_le_succ ih

theorem size_insert_le (m : OrderedMap α) (key : String) (value : α) :
    (m.insert key value).size ≤ m.size + 1 :=
  length_insertPair_le key value m.entries

theorem size_erase_le (m : OrderedMap α) (key : String) : (m.erase key).size ≤ m.size :=
  List.length_filter_le _ _

theorem entries_insert_of_new {m : OrderedMap α} {key : String} (new : key ∉ m.keys) (value : α) :
    (m.insert key value).entries = m.entries ++ [(key, value)] :=
  insertPair_of_new new

theorem entries_foldl_insert {pairs : List (String × α)} {m : OrderedMap α}
    (nodup : ((m.entries ++ pairs).map Prod.fst).Nodup) :
    (pairs.foldl (fun m (pair : String × α) => m.insert pair.1 pair.2) m).entries =
      m.entries ++ pairs := by
  induction pairs generalizing m with
  | nil => simp
  | cons pair pairs ih =>
      have new : pair.1 ∉ m.keys := by
        intro member
        rw [List.map_append, List.nodup_append] at nodup
        exact nodup.2.2 pair.1 member pair.1 (by simp) rfl
      have appended := entries_insert_of_new new pair.2
      have nodup' : (((m.insert pair.1 pair.2).entries ++ pairs).map Prod.fst).Nodup := by
        rw [appended, List.append_assoc]
        exact nodup
      rw [List.foldl_cons, ih nodup', appended, List.append_assoc]
      rfl

theorem entries_ofList {pairs : List (String × α)} (nodup : (pairs.map Prod.fst).Nodup) :
    (ofList pairs).entries = pairs :=
  entries_foldl_insert nodup

theorem ofList_entries (m : OrderedMap α) : ofList m.entries = m :=
  ext (entries_ofList m.nodup_keys)

end AdFilter.OrderedMap
