import AdFilter.Proofs.Registry.Restoring

/-! # Records in normal form

The record of a restored filter need not be the record that it was restored from: the kind may be
another one, and fields may be missing or written differently. But it is in normal form, so that
restoring it in turn gives the same filter and the same record.
-/

namespace AdFilter

open Text

namespace Record

variable {policy : Policy} {version : Nat} {r : Record} {f : Filter}

theorem filter?_cases (stands : r.filter? policy version = some f) :
    ∃ g : Filter, f = g.updateActivity r.setActivity ∧
      (r.Gives version g ∨
        blank g.text = false ∧ g = { text := g.text, rule := .ofLine policy g.text }) := by
  obtain ⟨text, -, stands⟩ := Option.bind_eq_some_iff.mp stands
  obtain ⟨kind, -, stands⟩ := Option.bind_eq_some_iff.mp stands
  split at stands
  · obtain ⟨g, made, rfl⟩ := Option.map_eq_some_iff.mp stands
    refine ⟨g, rfl, ?_⟩
    rcases Option.or_eq_some_iff.mp made with given | ⟨-, lined⟩
    · exact .inl (gives_of_given? given)
    · split at lined
      · cases lined
      · rename_i solid
        cases lined
        exact .inr ⟨by simpa using solid, rfl⟩
  · cases stands

theorem Gives.of_version (gives : r.Gives version f) (other : f.rule.request? = none)
    (version' : Nat) : r.Gives version' f := by
  cases gives with
  | comment hasText hasKind => exact .comment hasText hasKind
  | blocking => cases other
  | exception => cases other
  | hide hasText hasKind hasSelector made => exact .hide hasText hasKind hasSelector made

theorem Gives.present (gives : r.Gives version f) {q : RequestRule}
    (request : f.rule.request? = some q) : version = formatVersion := by
  cases gives with
  | comment => cases request
  | blocking _ _ present => exact present
  | exception _ _ present => exact present
  | hide => cases request

end Record

namespace Filter

variable {policy : Policy} {version : Nat} {f : Filter}

/-- The filter can be restored from its record when that is read in the version: a rule about
    requests that is not read from the record is the one that the text gives. -/
structure Normal (policy : Policy) (version : Nat) (f : Filter) : Prop where
  restorable : f.Restorable policy
  lined : version ≠ formatVersion → f.rule.request? ≠ none →
    blank f.text = false ∧ Rule.ofLine policy f.text = f.rule
  bare : f.copy = f

theorem Normal.updateActivity (normal : f.Normal policy version) (change : Activity → Activity) :
    (f.updateActivity change).Normal policy version := by
  cases active : f.rule.isActive with
  | false =>
      rw [updateActivity_of_idle active]
      exact normal
  | true =>
      have restorable := normal.restorable.updateActivity change
      rw [updateActivity_of_active active] at restorable ⊢
      refine ⟨restorable, normal.lined, ?_⟩
      rw [← normal.bare]
      rfl

theorem normal_of_gives {r : Record} (gives : r.Gives version f) : f.Normal policy version where
  restorable := .of_gives gives
  lined := by
    intro old request
    obtain ⟨q, request⟩ := Option.ne_none_iff_exists'.mp request
    exact absurd (gives.present request) old
  bare := by
    cases gives <;> rfl

/-- Whatever a record stands for is in normal form. -/
theorem normal_of_filter? {r : Record} (stands : r.filter? policy version = some f) :
    f.Normal policy version := by
  obtain ⟨g, rfl, gives | ⟨solid, lined⟩⟩ := Record.filter?_cases stands
  · exact (normal_of_gives gives).updateActivity r.setActivity
  · refine Normal.updateActivity ?_ r.setActivity
    rw [lined]
    exact ⟨restorable_ofLine solid, fun _ _ => ⟨solid, rfl⟩, rfl⟩

/-- A filter in normal form is what its record stands for. -/
theorem Normal.filter?_toRecord (normal : f.Normal policy version) :
    f.toRecord.filter? policy version = some f := by
  have restorable := normal.restorable
  have copied : f.toRecord.filter? policy version = some f.copy := by
    by_cases invalid : f.rule.rejection? = none
    · have gives := gives_toRecord restorable invalid
      by_cases present : version = formatVersion
      · rw [present]
        exact filter?_toRecord_of_gives restorable gives
      · by_cases request : f.rule.request? = none
        · exact filter?_toRecord_of_gives restorable (gives.of_version request version)
        · obtain ⟨solid, lined⟩ := normal.lined present request
          have unaided := given?_toRecord_eq_none (.inr ⟨present, request⟩)
          exact filter?_toRecord_of_line restorable unaided solid lined
    · obtain ⟨solid, lined⟩ := restorable.lined_of_rejected invalid
      exact filter?_toRecord_of_line restorable (given?_toRecord_eq_none (.inl invalid)) solid lined
  rw [copied, normal.bare]

end Filter

namespace Interning

/-- A record that is restored into an empty registry leaves a filter whose own record, restored into
    another empty registry of the policy, gives a filter that looks and acts the same and has the
    same record. -/
theorem restored_record_is_normal {policy : Policy} {version : Nat} {r : Record} {store : Store}
    {id : FilterId} {n' : Interning} {f : Filter}
    (restored : (⟨store, { policy }⟩ : Interning).ofRecord? version r = some (id, n'))
    (stored : n'.store.get? id = some f) (store' : Store) :
    ∃ id' n'' f',
      (⟨store', { policy }⟩ : Interning).ofRecord? version f.toRecord = some (id', n'') ∧
      n''.store.get? id' = some f' ∧ f'.Restores f := by
  rw [ofRecord?_of_unknown (n := ⟨store, { policy }⟩) (fun _ _ => rfl)] at restored
  obtain ⟨g, stands, replaced⟩ := Option.map_eq_some_iff.mp restored
  obtain rfl : g = f := by
    cases replaced
    exact Option.some.inj ((Store.get?_add_self store g).symm.trans stored)
  have again : (⟨store', { policy }⟩ : Interning).ofRecord? version g.toRecord =
      some (replace ⟨store', { policy }⟩ g) := by
    rw [ofRecord?_of_unknown (n := ⟨store', { policy }⟩) (fun _ _ => rfl),
      (Filter.normal_of_filter? stands).filter?_toRecord, Option.map_some]
  have same : g.Restores g := by
    simpa only [(Filter.normal_of_filter? stands).bare] using g.copy_restores
  exact ⟨_, _, g, again, Store.get?_add_self store' g, same⟩

/-- A record of an older version that calls a hiding line a line about requests, with a counter
    that is written with blanks and a sign. -/
theorem restored_record_is_normal_older :
    let r : Record := .ofList [("text", "example.com##.ad"), ("hitCount", " +07"),
      ("shortcut", "short"), ("regexp", "("), ("type", "filterlist")]
    ∃ id n' f, (⟨{}, { policy := .strict }⟩ : Interning).ofRecord? 2 r = some (id, n') ∧
      n'.store.get? id = some f ∧ f.toRecord.entries = [("text", "example.com##.ad"),
        ("hitCount", "7"), ("domain", "example.com"), ("selector", ".ad"), ("type", "elemhide")] ∧
      ∃ id' n'' f', (⟨{}, { policy := .strict }⟩ : Interning).ofRecord? 2 f.toRecord =
          some (id', n'') ∧
        n''.store.get? id' = some f' ∧ f'.Restores f := by
  intro r
  have result : ((⟨{}, { policy := .strict }⟩ : Interning).ofRecord? 2 r).bind (fun found =>
      (found.2.store.get? found.1).map (·.toRecord.entries)) = some [("text", "example.com##.ad"),
        ("hitCount", "7"), ("domain", "example.com"), ("selector", ".ad"), ("type", "elemhide")] := by
    decide +kernel
  obtain ⟨⟨id, n'⟩, restored, result⟩ := Option.bind_eq_some_iff.mp result
  obtain ⟨f, stored, written⟩ := Option.map_eq_some_iff.mp result
  exact ⟨id, n', f, restored, stored, written, restored_record_is_normal restored stored {}⟩

end Interning

end AdFilter
