import AdFilter.Proofs.Matcher.Calls

/-! # What a decision depends on

A request is decided by the filters that are present and switched on, whatever calls brought them
there: by the exception that was added first of those that apply, or else by the blocking filter
that was.
-/

namespace AdFilter

/-- What is to become of a request. -/
inductive Verdict where
  | allow
  | block
  | none
  deriving Repr, DecidableEq

/-- The decision without the filter that made it. -/
def Decision.verdict : Decision → Verdict
  | .allow _ => .allow
  | .block _ => .block
  | .none => .none

namespace Matcher

/-- The filter is of the kind, is switched on and applies to the request. -/
def Fires (kind : Rule → Bool) (s : Store) (q : Request) (id : FilterId) : Prop :=
  ∃ f, s.get? id = some f ∧ kind f.rule = true ∧ f.isDisabled = false ∧ f.rule.applies q = true

/-- The item is the first one in the list that has the property. -/
def Earliest (P : FilterId → Prop) (ids : List FilterId) (id : FilterId) : Prop :=
  ∃ front back, ids = front ++ id :: back ∧ P id ∧ ∀ i ∈ front, ¬ P i

theorem Earliest.exists {P : FilterId → Prop} {ids : List FilterId} {id : FilterId}
    (earliest : Earliest P ids id) : ∃ i ∈ ids, P i := by
  obtain ⟨front, back, rfl, holds, -⟩ := earliest
  exact ⟨id, by simp, holds⟩

def Has (m : Matcher) (id : FilterId) : Prop :=
  id ∈ m.blocking ∨ id ∈ m.exceptions

namespace State

def decide (n : State) (q : Request) : Decision :=
  n.matcher.decide n.store q

/-- The filter is present and switched on. -/
def On (n : State) (id : FilterId) : Prop :=
  n.matcher.Has id ∧ ∃ f, n.store.get? id = some f ∧ f.isDisabled = false

end State

section Deciding

variable {s : Store} {n : State} {ids : List FilterId} {kind : Rule → Bool} {q : Request}

theorem Holds.has_iff (holds : Holds s n ids) (id : FilterId) : n.matcher.Has id ↔ id ∈ ids := by
  rw [Has, holds.blocking, holds.exceptions, List.mem_filter, List.mem_filter, ← and_or_left]
  exact and_iff_left_of_imp (holds.kinds id)

theorem Holds.fires_iff (holds : Holds s n ids) (id : FilterId) :
    (s.isOf kind id = true ∧ fires n.store q id = true) ↔ Fires kind n.store q id := by
  cases stored : n.store.get? id with
  | none => simp [fires, Fires, stored]
  | some f => simp [fires, Fires, stored, holds.isOf_eq stored]

/-- The search through the filters of a kind finds the earliest one that fires. -/
theorem Holds.find?_eq_some_iff (holds : Holds s n ids) (id : FilterId) :
    (ids.filter (s.isOf kind)).find? (fires n.store q) = some id ↔
      Earliest (Fires kind n.store q) ids id := by
  simp only [List.find?_filter, holds.fires_iff, List.find?_eq_some_iff_append, Earliest,
    decide_eq_true_eq, Bool.not_eq_true', decide_eq_false_iff_not]
  constructor
  · rintro ⟨fires, front, back, split, before⟩
    exact ⟨front, back, split, fires, before⟩
  · rintro ⟨front, back, split, fires, before⟩
    exact ⟨fires, front, back, split, before⟩

theorem Holds.find?_eq_none_iff (holds : Holds s n ids) :
    (ids.filter (s.isOf kind)).find? (fires n.store q) = none ↔
      ¬ ∃ id ∈ ids, Fires kind n.store q id := by
  simp only [List.find?_filter, holds.fires_iff, List.find?_eq_none, decide_eq_true_eq, not_exists,
    not_and]

theorem Holds.decide_cases (holds : Holds s n ids) (q : Request) :
    (∃ id, n.decide q = .allow id ∧ Earliest (Fires Rule.isException n.store q) ids id) ∨
    ((¬ ∃ i ∈ ids, Fires Rule.isException n.store q i) ∧
      ((∃ id, n.decide q = .block id ∧ Earliest (Fires Rule.isBlocking n.store q) ids id) ∨
        (n.decide q = .none ∧ ¬ ∃ i ∈ ids, Fires Rule.isBlocking n.store q i))) := by
  unfold State.decide Matcher.decide
  rw [holds.exceptions, holds.blocking]
  cases allowed : (ids.filter (s.isOf Rule.isException)).find? (fires n.store q) with
  | some id => exact .inl ⟨id, rfl, (holds.find?_eq_some_iff id).mp allowed⟩
  | none =>
      right
      refine ⟨holds.find?_eq_none_iff.mp allowed, ?_⟩
      cases blocked : (ids.filter (s.isOf Rule.isBlocking)).find? (fires n.store q) with
      | some id => exact .inl ⟨id, rfl, (holds.find?_eq_some_iff id).mp blocked⟩
      | none => exact .inr ⟨rfl, holds.find?_eq_none_iff.mp blocked⟩

theorem Holds.verdict_iff (holds : Holds s n ids) (q : Request) :
    ((n.decide q).verdict = .allow ↔ ∃ i ∈ ids, Fires Rule.isException n.store q i) ∧
    ((n.decide q).verdict = .block ↔ (¬ ∃ i ∈ ids, Fires Rule.isException n.store q i) ∧
      ∃ i ∈ ids, Fires Rule.isBlocking n.store q i) ∧
    ((n.decide q).verdict = .none ↔ (¬ ∃ i ∈ ids, Fires Rule.isException n.store q i) ∧
      ¬ ∃ i ∈ ids, Fires Rule.isBlocking n.store q i) := by
  rcases holds.decide_cases q with
    ⟨id, decision, first⟩ | ⟨unexcepted, ⟨id, decision, first⟩ | ⟨decision, unblocked⟩⟩
  · simp only [decision, Decision.verdict, first.exists, reduceCtorEq]
    simp
  · simp only [decision, Decision.verdict, unexcepted, first.exists, reduceCtorEq]
    simp
  · simp only [decision, Decision.verdict, unexcepted, unblocked, reduceCtorEq]
    simp

theorem Holds.earliest_of_decide (holds : Holds s n ids) (q : Request) (id : FilterId) :
    (n.decide q = .allow id → Earliest (Fires Rule.isException n.store q) ids id) ∧
      (n.decide q = .block id → Earliest (Fires Rule.isBlocking n.store q) ids id) := by
  rcases holds.decide_cases q with
    ⟨i, decision, first⟩ | ⟨-, ⟨i, decision, first⟩ | ⟨decision, -⟩⟩
  · simp only [decision, Decision.allow.injEq, reduceCtorEq, false_implies, and_true]
    rintro rfl
    exact first
  · simp only [decision, Decision.block.injEq, reduceCtorEq, false_implies, true_and]
    rintro rfl
    exact first
  · simp [decision]

theorem Holds.exists_fires_iff (holds : Holds s n ids) :
    (∃ i ∈ ids, Fires kind n.store q i) ↔
      ∃ i, n.On i ∧ s.isOf (fun rule => kind rule && rule.applies q) i = true := by
  constructor
  · rintro ⟨i, member, f, stored, isKind, on, applies⟩
    refine ⟨i, ⟨(holds.has_iff i).mpr member, f, stored, on⟩, ?_⟩
    simp [holds.isOf_eq stored, isKind, applies]
  · rintro ⟨i, ⟨has, f, stored, on⟩, rule⟩
    rw [holds.isOf_eq stored, Bool.and_eq_true] at rule
    exact ⟨i, (holds.has_iff i).mp has, f, stored, rule.1, on, rule.2⟩

/-- Matchers with the same filters present and switched on give the same verdict. -/
theorem Holds.verdict_eq (holds : Holds s n ids) {n' : State} {ids' : List FilterId}
    (holds' : Holds s n' ids') (same : ∀ id, n.On id ↔ n'.On id) (q : Request) :
    (n.decide q).verdict = (n'.decide q).verdict := by
  have fires (kind : Rule → Bool) :
      (∃ i ∈ ids, Fires kind n.store q i) ↔ ∃ i ∈ ids', Fires kind n'.store q i := by
    simp only [holds.exists_fires_iff, holds'.exists_fires_iff, same]
  obtain ⟨allows, blocks, none⟩ := holds.verdict_iff q
  obtain ⟨allows', blocks', none'⟩ := holds'.verdict_iff q
  rw [fires, ← allows'] at allows
  rw [fires, fires, ← blocks'] at blocks
  rw [fires, fires, ← none'] at none
  cases verdict : (n'.decide q).verdict with
  | allow => exact allows.mpr verdict
  | block => exact blocks.mpr verdict
  | none => exact none.mpr verdict

theorem Holds.isBlocked_of_add (holds : Holds s n ids) {id : FilterId}
    (exception : s.isOf Rule.isException id = true)
    (blocked : (((Call.add id).run n).decide q).isBlocked = true) :
    (n.decide q).isBlocked = true := by
  replace blocked : ((n.matcher.add n.store id).2.decide n.store q).isBlocked = true := blocked
  show (n.matcher.decide n.store q).isBlocked = true
  rcases holds.add_cases id with ⟨-, result⟩ | ⟨text, -, -, ⟨-, other, -⟩ | ⟨-, -, result⟩⟩
  · rw [result] at blocked
    exact blocked
  · rw [exception] at other
    cases other
  · rw [result] at blocked
    unfold Matcher.decide at *
    -- The new exception stands behind the others, and the blocking filters are the same.
    cases allowed : n.matcher.exceptions.find? (fires n.store q) with
    | some i => simp [List.find?_append, allowed, Decision.isBlocked] at blocked
    | none =>
        cases last : fires n.store q id with
        | true => simp [List.find?_append, allowed, last, Decision.isBlocked] at blocked
        | false => simpa [List.find?_append, allowed, last] using blocked

end Deciding

/-- After any calls on a new matcher, a request is allowed if an exception that is present and
    switched on applies, or else is blocked if a blocking filter does, and the earliest added of
    these filters decides. So the verdict depends on nothing but which filters are present and
    switched on, and one more exception never makes it a block. -/
theorem verdict_of_filters_on (s : Store) (calls : List Call) :
    let n := State.after { store := s } calls
    let ids := present s calls
    (∀ id, n.matcher.Has id ↔ id ∈ ids) ∧
    (∀ q, ((n.decide q).verdict = .allow ↔ ∃ id ∈ ids, Fires Rule.isException n.store q id) ∧
      ((n.decide q).verdict = .block ↔ (¬ ∃ id ∈ ids, Fires Rule.isException n.store q id) ∧
        ∃ id ∈ ids, Fires Rule.isBlocking n.store q id) ∧
      ((n.decide q).verdict = .none ↔ (¬ ∃ id ∈ ids, Fires Rule.isException n.store q id) ∧
        ¬ ∃ id ∈ ids, Fires Rule.isBlocking n.store q id)) ∧
    (∀ q id, (n.decide q = .allow id → Earliest (Fires Rule.isException n.store q) ids id) ∧
      (n.decide q = .block id → Earliest (Fires Rule.isBlocking n.store q) ids id)) ∧
    (∀ calls', let n' := State.after { store := s } calls'
      (∀ id, n.On id ↔ n'.On id) → ∀ q, (n.decide q).verdict = (n'.decide q).verdict) ∧
    ∀ q id, s.isOf Rule.isException id = true →
      (((Call.add id).run n).decide q).isBlocked = true → (n.decide q).isBlocked = true := by
  intro n ids
  have holds : Holds s n ids := (holds_nothing s).after calls
  refine ⟨holds.has_iff, holds.verdict_iff, holds.earliest_of_decide, ?_, ?_⟩
  · intro calls' n' same q
    have holds' : Holds s n' (present s calls') := (holds_nothing s).after calls'
    exact holds.verdict_eq holds' same q
  · intro q id exception blocked
    exact holds.isBlocked_of_add exception blocked

/-- Two filters that block the same request decide it in the order in which they were added. -/
theorem verdict_of_filters_on_reordered :
    let s := ((Interning.start .lenient).after [.ofText "a", .ofText "ab", .ofText "@@c"]).store
    let n := State.after { store := s } [.add 0, .add 1]
    let n' := State.after { store := s }
      [.add 1, .add 0, .add 2, .remove "a", .remove "@@c", .add 0, .add 0]
    let q : Request := { url := "http://x/ab", types := .standard }
    (∀ id, n.On id ↔ n'.On id) ∧ n.decide q = .block 0 ∧ n'.decide q = .block 1 ∧
      (n.decide q).verdict = (n'.decide q).verdict ∧
      s.isOf Rule.isException 2 = true ∧ (((Call.add 2).run n).decide q).isBlocked = true ∧
      (n.decide q).isBlocked = true := by
  intro s n n' q
  obtain ⟨-, -, -, same, exceptions⟩ := verdict_of_filters_on s [.add 0, .add 1]
  have on : ∀ id, n.On id ↔ n'.On id := by
    have blocking : n.matcher.blocking = [0, 1] ∧ n'.matcher.blocking = [1, 0] := by
      decide +kernel
    have others : n.matcher.exceptions = n'.matcher.exceptions := by
      decide +kernel
    have store : n.store = s := rfl
    have store' : n'.store = s := rfl
    intro id
    rw [State.On, State.On, Has, Has, blocking.1, blocking.2, others, store, store']
    simp [or_comm]
  have exception : s.isOf Rule.isException 2 = true := by
    decide +kernel
  have blocked : (((Call.add 2).run n).decide q).isBlocked = true := by
    decide +kernel
  exact ⟨on, by decide +kernel, by decide +kernel, same _ on q, exception, blocked,
    exceptions q 2 exception blocked⟩

end Matcher

end AdFilter
