import AdFilter.Proofs.Filter.Restoring
import AdFilter.Proofs.Record.Flat

/-! # Restoring into a registry

To a registry that does not know its text, a record gives the filter that it stands for. So a
filter that is written and restored comes back as it was.
-/

namespace AdFilter

open Text

theorem Record.filter?_congr {r s : Record} (same : ∀ key, r.get? key = s.get? key)
    (policy : Policy) (version : Nat) : r.filter? policy version = s.filter? policy version := by
  have bool (key : String) : r.bool? key = s.bool? key := by rw [bool?, bool?, same]
  have number (bound : Nat) (key : String) : r.number? bound key = s.number? bound key := by
    rw [number?, number?, same]
  have contains (key : String) : r.contains key = s.contains key := by
    rw [OrderedMap.contains, OrderedMap.contains, same]
  have conditions : r.conditions = s.conditions := by
    simp only [Record.conditions, number, bool, same]
  have request (isException : Bool) : r.requestFilter? isException = s.requestFilter? isException := by
    simp only [requestFilter?, shortcut?, bool, same, conditions]
  have hides : r.hidingFilter? = s.hidingFilter? := by
    simp only [hidingFilter?, same]
  have activity : r.setActivity = s.setActivity := by
    funext a
    simp only [setActivity, setLastHit, setHits, setDisabled, contains, bool, number]
  simp only [filter?, given?, same, request, hides, activity]

/-- The filter looks and acts like the other one. -/
structure Filter.Restores (f' f : Filter) : Prop where
  text : f'.text = f.text
  rule : f'.rule = f.rule
  activity : f'.activity? = f.activity?
  applies : ∀ q, f'.rule.applies q = f.rule.applies q
  isActiveOn : ∀ host, f'.rule.isActiveOn host = f.rule.isActiveOn host
  record : f'.toRecord = f.toRecord

theorem Filter.copy_restores (f : Filter) : f.copy.Restores f :=
  ⟨rfl, rfl, rfl, fun _ => rfl, fun _ => rfl, rfl⟩

theorem Store.modifyActivity_add (s : Store) (f : Filter) (change : Activity → Activity) :
    (s.add f).2.modifyActivity (s.add f).1 change = (s.add (f.updateActivity change)).2 := by
  have same (id : FilterId) : ((s.add f).2.modifyActivity (s.add f).1 change).get? id =
      (s.add (f.updateActivity change)).2.get? id := by
    rw [modifyActivity, get?_modify]
    by_cases new : id = (s.add f).1
    · subst new
      rw [if_pos rfl, get?_add_self]
      exact (get?_add_self s (f.updateActivity change)).symm
    · rw [if_neg new, get?_add_of_ne new]
      exact (get?_add_of_ne (f := f.updateActivity change) new).symm
  exact congrArg Store.mk (Array.ext_getElem? same)

namespace Interning

variable {n : Interning} {policy : Policy} {version : Nat} {r : Record}

theorem modifyActivity_replace (n : Interning) (f : Filter) (change : Activity → Activity) :
    ((n.replace f).1, { (n.replace f).2 with
      store := (n.replace f).2.store.modifyActivity (n.replace f).1 change }) =
      n.replace (f.updateActivity change) := by
  have put : n.replace (f.updateActivity change) =
      ((n.store.add f).1, ⟨(n.store.add (f.updateActivity change)).2,
        n.registry.put f.text (n.store.add f).1⟩) := by
    rw [replace, Filter.text_updateActivity]
    rfl
  rw [put, ← n.store.modifyActivity_add f change]
  rfl

theorem ofRecord?_of_unknown
    (unknown : ∀ text, r.get? "text" = some text → n.registry.get? text = none) :
    n.ofRecord? version r = (r.filter? n.registry.policy version).map n.replace := by
  have replaced (f : Filter) :
      (some (n.replace f)).map (fun found =>
        (found.1, { found.2 with store := found.2.store.modifyActivity found.1 r.setActivity })) =
      (some (f.updateActivity r.setActivity)).map n.replace :=
    congrArg some (modifyActivity_replace n f r.setActivity)
  rw [ofRecord?, found?_eq, Record.filter?]
  cases hasText : r.get? "text" with
  | none => rfl
  | some text =>
      cases hasKind : r.get? "type" with
      | none => rfl
      | some kind =>
          simp only [Option.bind_some]
          split
          · cases given : r.given? version with
            | some f => exact replaced f
            | none =>
                cases solid : blank text with
                | true =>
                    rw [ofText?_of_blank solid]
                    rfl
                | false =>
                    rw [ofText?_of_unknown solid (unknown text hasText), Registry.compile_eq]
                    exact replaced _
          · rfl

/-- Restoring the record of a filter gives a copy of the filter. -/
theorem ofRecord?_toRecord {f : Filter} (restorable : f.Restorable n.registry.policy)
    (unknown : n.registry.get? f.text = none) {r : Record}
    (same : ∀ key, r.get? key = f.toRecord.get? key) :
    n.ofRecord? formatVersion r = some (n.replace f.copy) := by
  have unknown' : ∀ text, r.get? "text" = some text → n.registry.get? text = none := by
    intro text hasText
    rw [same, Filter.text_toRecord] at hasText
    cases hasText
    exact unknown
  rw [ofRecord?_of_unknown unknown', Record.filter?_congr same, Filter.filter?_toRecord restorable,
    Option.map_some]

/-- A filter that some run of calls has left behind is restored from its record, and from its record
    written as JSON, as it was. -/
theorem restored_from_record (policy : Policy) (calls : List Call) (store : Store) {id : FilterId}
    {f : Filter} (stored : ((start policy).after calls).store.get? id = some f) :
    ∃ flat, Record.ofJson? f.toRecord.toJson = some flat ∧ ∀ r ∈ [f.toRecord, flat],
      ∃ id' n' f', (⟨store, { policy }⟩ : Interning).ofRecord? formatVersion r = some (id', n') ∧
        n'.store.get? id' = some f' ∧ f'.Restores f := by
  obtain ⟨flat, read, same⟩ := Record.ofJson?_toJson f.toRecord
  refine ⟨flat, read, fun r member => ?_⟩
  have fields : ∀ key, r.get? key = f.toRecord.get? key := by
    simp only [List.mem_cons, List.not_mem_nil, or_false] at member
    rcases member with rfl | rfl
    · exact fun _ => rfl
    · exact same
  have restorable : f.Restorable policy := .of_stored stored
  have restored := ofRecord?_toRecord (n := ⟨store, { policy }⟩) restorable rfl fields
  exact ⟨_, _, f.copy, restored, Store.get?_add_self store f.copy, f.copy_restores⟩

/-- A hiding filter that was hit and then switched off. -/
theorem restored_from_record_hit :
    ∃ f, ((start .strict).after [.ofText "##a", .update 0 (·.hit 7),
        .update 0 ({ · with disabled := true })]).store.get? 0 = some f ∧
      f.activity? = some { disabled := true, hits := 1, lastHit := 7 } ∧
      ∃ flat, Record.ofJson? f.toRecord.toJson = some flat ∧ ∀ r ∈ [f.toRecord, flat],
        ∃ id' n' f', (⟨{}, { policy := .strict }⟩ : Interning).ofRecord? formatVersion r =
            some (id', n') ∧
          n'.store.get? id' = some f' ∧ f'.Restores f := by
  have activity : (((start .strict).after [.ofText "##a", .update 0 (·.hit 7),
      .update 0 ({ · with disabled := true })]).store.get? 0).bind (·.activity?) =
        some { disabled := true, hits := 1, lastHit := 7 } := by
    decide +kernel
  obtain ⟨f, stored, activity⟩ := Option.bind_eq_some_iff.mp activity
  exact ⟨f, stored, activity, restored_from_record .strict _ {} stored⟩

end Interning

end AdFilter
