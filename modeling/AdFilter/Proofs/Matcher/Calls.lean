import AdFilter.Matcher
import AdFilter.Proofs.Registry.Identity

/-! # Calls on a matcher

What is in a matcher after calls is one list: the filters that are present, in the order in which
they were added. The matcher keeps the blocking ones and the exceptions of that list apart.
-/

namespace AdFilter

namespace Store

def rule? (s : Store) (id : FilterId) : Option Rule :=
  (s.get? id).map (·.rule)

/-- Whether there is such a filter and its rule is of the kind. -/
def isOf (s : Store) (kind : Rule → Bool) (id : FilterId) : Bool :=
  (s.rule? id).any kind

/-- The filters are the same but for their switches and counters. -/
structure Alike (s s' : Store) : Prop where
  text : s.text? = s'.text?
  rule : s.rule? = s'.rule?

theorem alike_modifyActivity (s : Store) (id : FilterId) (change : Activity → Activity) :
    (s.modifyActivity id change).Alike s where
  text := funext (text?_modifyActivity s id change)
  rule := by
    funext i
    simp only [rule?, modifyActivity, get?_modify]
    split
    · simp [Function.comp_def]
    · rfl

end Store

namespace Matcher

structure State where
  matcher : Matcher := {}
  store : Store

/-- What can be done with a matcher and its filters. -/
inductive Call where
  | add (id : FilterId)
  | remove (text : String)
  | clear
  /-- Switches a filter, counts a hit, or sets or resets the counters. -/
  | update (id : FilterId) (change : Activity → Activity)

/-- The filter is about requests, and none of the others has its text. -/
def Fresh (s : Store) (ids : List FilterId) (id : FilterId) : Prop :=
  (s.isOf Rule.isBlocking id ∨ s.isOf Rule.isException id) ∧ ∀ i ∈ ids, s.text? i ≠ s.text? id

instance (s : Store) (ids : List FilterId) (id : FilterId) : Decidable (Fresh s ids id) :=
  inferInstanceAs (Decidable (_ ∧ _))

namespace Call

def run (n : State) : Call → State
  | .add id => { n with matcher := (n.matcher.add n.store id).2 }
  | .remove text => { n with matcher := (n.matcher.remove n.store text).2 }
  | .clear => { n with matcher := {} }
  | .update id change => { n with store := n.store.modifyActivity id change }

/-- The filters that are present after a call, in the order in which they were added, if these were
before. -/
def keep (s : Store) (ids : List FilterId) : Call → List FilterId
  | .add id => if Fresh s ids id then ids ++ [id] else ids
  | .remove text => ids.filter (s.text? · != some text)
  | .clear => []
  | .update _ _ => ids

end Call

def State.after (n : State) (calls : List Call) : State :=
  calls.foldl Call.run n

/-- The filters that are present after calls, in the order in which they were added. -/
def present (s : Store) (calls : List Call) : List FilterId :=
  calls.foldl (Call.keep s) []

/-- The matcher holds these filters of the store and keeps their order. -/
structure Holds (s : Store) (n : State) (ids : List FilterId) : Prop where
  alike : n.store.Alike s
  blocking : n.matcher.blocking = ids.filter (s.isOf Rule.isBlocking)
  exceptions : n.matcher.exceptions = ids.filter (s.isOf Rule.isException)
  known : ∀ text, text ∈ n.matcher.known ↔ ∃ id ∈ ids, s.text? id = some text
  kinds : ∀ id ∈ ids, s.isOf Rule.isBlocking id ∨ s.isOf Rule.isException id

section Holds

variable {s : Store} {n : State} {ids : List FilterId}

theorem holds_nothing (s : Store) : Holds s { store := s } [] where
  alike := ⟨rfl, rfl⟩
  blocking := rfl
  exceptions := rfl
  known := by simp
  kinds := by simp

theorem Holds.isOf_eq (holds : Holds s n ids) {id : FilterId} {f : Filter}
    (stored : n.store.get? id = some f) (kind : Rule → Bool) : s.isOf kind id = kind f.rule := by
  have rule : s.rule? id = some f.rule := by
    rw [← holds.alike.rule, Store.rule?, stored]
    rfl
  rw [Store.isOf, rule, Option.any_some]

theorem Holds.text?_eq (holds : Holds s n ids) {id : FilterId} {f : Filter}
    (stored : n.store.get? id = some f) : s.text? id = some f.text := by
  rw [← holds.alike.text, Store.text?, stored]
  rfl

theorem Holds.add_cases (holds : Holds s n ids) (id : FilterId) :
    (¬ Fresh s ids id ∧ n.matcher.add n.store id = (false, n.matcher)) ∨
    ∃ text, Fresh s ids id ∧ s.text? id = some text ∧
      ((s.isOf Rule.isBlocking id = true ∧ s.isOf Rule.isException id = false ∧
          n.matcher.add n.store id = (true, { n.matcher with
            blocking := n.matcher.blocking ++ [id], known := text :: n.matcher.known })) ∨
        (s.isOf Rule.isBlocking id = false ∧ s.isOf Rule.isException id = true ∧
          n.matcher.add n.store id = (true, { n.matcher with
            exceptions := n.matcher.exceptions ++ [id], known := text :: n.matcher.known }))) := by
  unfold add
  cases stored : n.store.get? id with
  | none =>
      left
      refine ⟨?_, rfl⟩
      have noRule : s.rule? id = none := by
        rw [← holds.alike.rule, Store.rule?, stored]
        rfl
      simp [Fresh, Store.isOf, noRule]
  | some f =>
      have kinds := holds.isOf_eq stored
      have hasText := holds.text?_eq stored
      have unasked (neither : f.rule.isBlocking = false ∧ f.rule.isException = false) :
          ¬ Fresh s ids id := by
        simp [Fresh, kinds, neither]
      by_cases known : f.text ∈ n.matcher.known
      · left
        refine ⟨?_, if_pos (List.contains_iff_mem.mpr known)⟩
        rintro ⟨-, fresh⟩
        obtain ⟨i, member, same⟩ := (holds.known f.text).mp known
        exact fresh i member (same.trans hasText.symm)
      · have fresh : ∀ i ∈ ids, s.text? i ≠ s.text? id := by
          intro i member same
          exact known ((holds.known f.text).mpr ⟨i, member, same.trans hasText⟩)
        have unknown : n.matcher.known.contains f.text = false := by
          simpa using known
        simp only [unknown, Bool.false_eq_true, if_false]
        cases rule : f.rule with
        | blocking r collapse =>
            right
            refine ⟨f.text, ⟨.inl ?_, fresh⟩, hasText, .inl ⟨?_, ?_, rfl⟩⟩
            all_goals rw [kinds, rule]; rfl
        | exception r =>
            right
            refine ⟨f.text, ⟨.inr ?_, fresh⟩, hasText, .inr ⟨?_, ?_, rfl⟩⟩
            all_goals rw [kinds, rule]; rfl
        | invalid reason => exact .inl ⟨unasked (by rw [rule]; exact ⟨rfl, rfl⟩), rfl⟩
        | comment => exact .inl ⟨unasked (by rw [rule]; exact ⟨rfl, rfl⟩), rfl⟩
        | hide r => exact .inl ⟨unasked (by rw [rule]; exact ⟨rfl, rfl⟩), rfl⟩

theorem Holds.add (holds : Holds s n ids) (id : FilterId) :
    Holds s ((Call.add id).run n) ((Call.add id).keep s ids) := by
  rw [Call.run, Call.keep]
  rcases holds.add_cases id with ⟨stale, result⟩ | ⟨text, fresh, hasText, added⟩
  · rw [if_neg stale, result]
    exact holds
  · have known : ∀ t, t ∈ text :: n.matcher.known ↔ ∃ i ∈ ids ++ [id], s.text? i = some t := by
      intro t
      rw [List.mem_cons, holds.known]
      simp [or_and_right, exists_or, hasText, or_comm, eq_comm]
    have kinds : ∀ i ∈ ids ++ [id], s.isOf Rule.isBlocking i ∨ s.isOf Rule.isException i := by
      intro i member
      rcases List.mem_append.mp member with old | last
      · exact holds.kinds i old
      · rw [List.mem_singleton.mp last]
        exact fresh.1
    rw [if_pos fresh]
    rcases added with ⟨blocks, excepts, result⟩ | ⟨blocks, excepts, result⟩
    · rw [result]
      refine ⟨holds.alike, ?_, ?_, known, kinds⟩
      · simp [holds.blocking, blocks]
      · simp [holds.exceptions, excepts]
    · rw [result]
      refine ⟨holds.alike, ?_, ?_, known, kinds⟩
      · simp [holds.blocking, blocks]
      · simp [holds.exceptions, excepts]

theorem Holds.remove (holds : Holds s n ids) (text : String) :
    Holds s ((Call.remove text).run n) ((Call.remove text).keep s ids) := by
  rw [Call.run, Call.keep, Matcher.remove, holds.alike.text]
  -- Taking out the text and picking out a kind can change places.
  have others (kind : Rule → Bool) : (ids.filter (s.isOf kind)).filter (s.text? · != some text) =
      (ids.filter (s.text? · != some text)).filter (s.isOf kind) := by
    simp only [List.filter_filter, Bool.and_comm]
  by_cases known : text ∈ n.matcher.known
  · rw [if_pos (List.contains_iff_mem.mpr known)]
    refine ⟨holds.alike, ?_, ?_, ?_, ?_⟩
    · rw [← others, ← holds.blocking]
    · rw [← others, ← holds.exceptions]
    · intro t
      simp only [List.mem_filter, holds.known, bne_iff_ne]
      constructor
      · rintro ⟨⟨i, member, hasText⟩, other⟩
        refine ⟨i, ⟨member, ?_⟩, hasText⟩
        rw [hasText]
        exact fun same => other (Option.some.inj same)
      · rintro ⟨i, ⟨member, other⟩, hasText⟩
        refine ⟨⟨i, member, hasText⟩, ?_⟩
        rintro rfl
        exact other hasText
    · intro i member
      exact holds.kinds i (List.mem_filter.mp member).1
  · have same : ids.filter (s.text? · != some text) = ids := by
      apply List.filter_eq_self.mpr
      intro i member
      rw [bne_iff_ne]
      exact fun hasText => known ((holds.known text).mpr ⟨i, member, hasText⟩)
    rw [if_neg (by simpa using known), same]
    exact holds

theorem Holds.run (holds : Holds s n ids) (call : Call) :
    Holds s (call.run n) (call.keep s ids) := by
  cases call with
  | add id => exact holds.add id
  | remove text => exact holds.remove text
  | clear => exact ⟨holds.alike, rfl, rfl, by simp [Call.run, Call.keep], by simp [Call.keep]⟩
  | update id change =>
      have alike := n.store.alike_modifyActivity id change
      refine ⟨⟨?_, ?_⟩, holds.blocking, holds.exceptions, holds.known, holds.kinds⟩
      · exact alike.text.trans holds.alike.text
      · exact alike.rule.trans holds.alike.rule

theorem Holds.after (holds : Holds s n ids) (calls : List Call) :
    Holds s (n.after calls) (calls.foldl (Call.keep s) ids) := by
  induction calls generalizing n ids with
  | nil => exact holds
  | cons call calls ih => exact ih (holds.run call)

end Holds

end Matcher

end AdFilter
