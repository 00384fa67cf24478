import AdFilter.Proofs.Registry.Restoring

/-! # The switch and the counters of a restored filter

A record sets those fields of a filter that it has. A filter that is new starts from the defaults,
but one that was known already keeps what the record leaves out.
-/

namespace AdFilter

open Text

namespace Record

/-- The switch and the counters in the fields, with the default for each field that is missing or
cannot be read. -/
def activity (r : Record) : Activity where
  disabled := (r.bool? "disabled").getD false
  hits := UInt64.ofNat ((r.number? UInt64.size "hitCount").getD 0)
  lastHit := UInt64.ofNat ((r.number? UInt64.size "lastHit").getD 0)

/-- Whatever the record leaves out has its default. -/
structure Settles (r : Record) (a : Activity) : Prop where
  disabled : r.get? "disabled" = none → a.disabled = false
  hits : r.get? "hitCount" = none → a.hits = 0
  lastHit : r.get? "lastHit" = none → a.lastHit = 0

theorem settles_default (r : Record) : r.Settles {} :=
  ⟨fun _ => rfl, fun _ => rfl, fun _ => rfl⟩

theorem settles_activity (r : Record) : r.Settles r.activity where
  disabled := by
    intro missing
    simp [activity, bool?, missing]
  hits := by
    intro missing
    simp [activity, number?, missing]
  lastHit := by
    intro missing
    simp [activity, number?, missing]

theorem setActivity_eq (r : Record) (a : Activity) :
    r.setActivity a =
      { disabled := if r.get? "disabled" = none then a.disabled else r.activity.disabled
        hits := if r.get? "hitCount" = none then a.hits else r.activity.hits
        lastHit := if r.get? "lastHit" = none then a.lastHit else r.activity.lastHit } := by
  unfold setActivity setLastHit setHits setDisabled OrderedMap.contains
  cases r.get? "disabled"
  all_goals cases r.get? "hitCount"
  all_goals cases r.get? "lastHit"
  all_goals rfl

theorem ite_eq_right_iff_default {α : Type} {missing : Prop} [Decidable missing]
    {old read default : α} (unread : missing → read = default) :
    (if missing then old else read) = read ↔ (missing → old = default) := by
  by_cases isMissing : missing
  · simp [isMissing, unread isMissing]
  · simp [isMissing]

theorem setActivity_eq_activity_iff (r : Record) (a : Activity) :
    r.setActivity a = r.activity ↔ r.Settles a := by
  have default := r.settles_activity
  have parts (b c : Activity) : b = c ↔
      b.disabled = c.disabled ∧ b.hits = c.hits ∧ b.lastHit = c.lastHit := by
    cases b
    cases c
    exact Activity.mk.injEq .. ▸ Iff.rfl
  rw [parts, setActivity_eq, ite_eq_right_iff_default default.disabled,
    ite_eq_right_iff_default default.hits, ite_eq_right_iff_default default.lastHit]
  constructor
  · rintro ⟨disabled, hits, lastHit⟩
    exact ⟨disabled, hits, lastHit⟩
  · rintro ⟨disabled, hits, lastHit⟩
    exact ⟨disabled, hits, lastHit⟩

theorem Gives.activity {version : Nat} {r : Record} {f : Filter} (gives : r.Gives version f) :
    f.activity = {} := by
  cases gives <;> rfl

end Record

namespace Interning

/-- The switch and the counters that a filter has before the fields of the record are set: those of
the filter that is known, if the record leaves the filter to its text, and the defaults
otherwise. -/
def before (n : Interning) (version : Nat) (r : Record) : Activity :=
  match r.given? version with
  | some _ => {}
  | none => (((r.get? "text").bind n.registry.get?).bind n.store.get?).elim {} (·.activity)

theorem activity_found? {n m : Interning} {version : Nat} {r : Record} {id : FilterId} {f : Filter}
    (found : n.found? version r = some (id, m)) (stored : m.store.get? id = some f) :
    f.activity = n.before version r := by
  -- A filter that has just been stored has the defaults, so only a known one brings a state along.
  have new {g : Filter} (replaced : n.replace g = (id, m)) : f = g := by
    cases replaced
    exact Option.some.inj (stored.symm.trans (n.store.get?_add_self g))
  rw [before]
  rcases found?_cases found with ⟨g, given, replaced⟩ | ⟨text, hasText, given, found⟩
  · rw [given, new replaced]
    exact (Record.gives_of_given? given).activity
  · rw [given, hasText]
    obtain ⟨-, ⟨known, rfl⟩ | ⟨unknown, replaced⟩⟩ := ofText?_cases found
    · simp [known, stored]
    · simp [unknown, new replaced]

theorem activity_ofRecord? {n n' : Interning} {version : Nat} {r : Record} {id : FilterId}
    {a : Activity} (found : n.ofRecord? version r = some (id, n'))
    (active : (n'.store.get? id).bind (·.activity?) = some a) :
    a = r.setActivity (n.before version r) := by
  obtain ⟨m, foundFirst, rfl⟩ := ofRecord?_cases found
  obtain ⟨g, stored, active⟩ := Option.bind_eq_some_iff.mp active
  rw [Store.modifyActivity, Store.get?_modify, if_pos rfl] at stored
  obtain ⟨f, storedFirst, rfl⟩ := Option.map_eq_some_iff.mp stored
  have start := activity_found? foundFirst storedFirst
  cases isActive : f.rule.isActive with
  | false => simp [Filter.updateActivity_of_idle isActive, Filter.activity?, isActive] at active
  | true =>
      simp only [Filter.updateActivity_of_active isActive, Filter.activity?, isActive, if_true,
        Option.some.injEq] at active
      rw [← active, start]

/-- The switch and the counters of a restored filter are those of its record if and only if whatever
    the record leaves out has its default already. It has if the record gives a filter of its own or
    its text was not known. -/
theorem activity_of_record_iff {n n' : Interning} {version : Nat} {r : Record} {id : FilterId}
    {a : Activity} (found : n.ofRecord? version r = some (id, n'))
    (active : (n'.store.get? id).bind (·.activity?) = some a) :
    (a = r.activity ↔ r.Settles (n.before version r)) ∧
    ((∃ f, r.given? version = some f) → a = r.activity) ∧
    ((∃ text, r.get? "text" = some text ∧ n.registry.get? text = none) → a = r.activity) := by
  have settles : a = r.activity ↔ r.Settles (n.before version r) := by
    rw [activity_ofRecord? found active]
    exact r.setActivity_eq_activity_iff _
  refine ⟨settles, ?_, ?_⟩
  · rintro ⟨f, given⟩
    apply settles.mpr
    simpa [before, given] using r.settles_default
  · rintro ⟨text, hasText, unknown⟩
    apply settles.mpr
    have fresh : n.before version r = {} := by
      cases given : r.given? version with
      | some f => simp [before, given]
      | none => simp [before, given, hasText, unknown]
    rw [fresh]
    exact r.settles_default

/-- A record that gives a filter of its own is not concerned with the one that is known. -/
theorem activity_of_record_iff_given :
    let n := (start .lenient).after
      [.ofText "ads$image", .update 0 ({ · with disabled := true }), .update 0 (·.hit 500)]
    let r : Record := .ofList
      [("text", "ads$image"), ("hitCount", "7"), ("regexp", "ads"), ("type", "filterlist")]
    ∃ n' a, n.ofRecord? formatVersion r = some (1, n') ∧
      (n'.store.get? 1).bind (·.activity?) = some a ∧ a = r.activity ∧ a.hits = 7 := by
  intro n r
  have result : (n.ofRecord? formatVersion r).bind (fun found =>
      ((found.2.store.get? found.1).bind (·.activity?)).map (found.1, ·)) =
        some (1, { hits := 7 }) := by
    decide +kernel
  obtain ⟨⟨id, n'⟩, found, active⟩ := Option.bind_eq_some_iff.mp result
  obtain ⟨a, active, same⟩ := Option.map_eq_some_iff.mp active
  cases same
  have given : (r.given? formatVersion).isSome = true := by
    decide +kernel
  have fromRecord := (activity_of_record_iff found active).2.1 (Option.isSome_iff_exists.mp given)
  exact ⟨n', _, found, active, fromRecord, rfl⟩

/-- The record of a filter that is switched on and was never hit, written in an older version,
    leaves the filter that is known switched off and with its hit. -/
theorem not_activity_of_older_record :
    ¬ ∀ (policy : Policy) (calls : List Call) (version : Nat) (r : Record) (id : FilterId)
        (n' : Interning) (a : Activity),
      ((start policy).after calls).ofRecord? version r = some (id, n') →
        (n'.store.get? id).bind (·.activity?) = some a → a = r.activity := by
  intro fromRecord
  have result : (((start .lenient).after
      [.ofText "ads$image", .update 0 ({ · with disabled := true }),
        .update 0 (·.hit 500)]).ofRecord? 2 (.ofList
      [("text", "ads$image"), ("regexp", "ads"), ("contentType", "4"),
        ("type", "filterlist")])).bind
        (fun found => (found.2.store.get? found.1).bind (·.activity?)) =
      some { disabled := true, hits := 1, lastHit := 500 } := by
    decide +kernel
  obtain ⟨⟨id, n'⟩, found, active⟩ := Option.bind_eq_some_iff.mp result
  have same := fromRecord .lenient _ 2 _ id n' _ found active
  revert same
  decide +kernel

end Interning

end AdFilter
