import AdFilter.Proofs.Filter.Line
import AdFilter.Proofs.Record.Giving
import AdFilter.Registry

/-! # Calls on a registry

A holder of filters asks for them by text or by record, switches them and counts their hits, and
may make the registry forget them. Whatever the calls are, a registry only ever comes to know
filters that were compiled from a text or given by a record.
-/

namespace AdFilter

/-- What can be done with a registry and its filters. -/
inductive Call where
  | ofText (text : String)
  | ofRecord (version : Nat) (r : Record)
  | get (text : String)
  | clear
  /-- Switches a filter, counts a hit, or sets or resets the counters. -/
  | update (id : FilterId) (change : Activity → Activity)

namespace Call

/-- The filter that was found and what was found then; without a filter nothing has changed. -/
def settle (n : Interning) : Option (FilterId × Interning) → Option FilterId × Interning
  | some (id, n') => (some id, n')
  | none => (none, n)

/-- The filter that a call returns, and the registry and the store after it. -/
def run (n : Interning) : Call → Option FilterId × Interning
  | .ofText text => settle n (n.ofText? text)
  | .ofRecord version r => settle n (n.ofRecord? version r)
  | .get text => (n.registry.get? text, n)
  | .clear => (none, n.clear)
  | .update id change => (none, { n with store := n.store.modifyActivity id change })

theorem settle_cases (n : Interning) (found : Option (FilterId × Interning)) :
    (found = none ∧ settle n found = (none, n)) ∨
      ∃ id n', found = some (id, n') ∧ settle n found = (some id, n') := by
  cases found with
  | none => exact .inl ⟨rfl, rfl⟩
  | some result => exact .inr ⟨result.1, result.2, rfl, rfl⟩

end Call

section Compiling

variable (r : Registry) (text : String)

theorem Registry.compile_eq : r.compile text = { text, rule := .ofLine r.policy text } :=
  Filter.ofLine_eq r.policy text

@[simp] theorem Registry.text_compile : (r.compile text).text = text := by
  rw [Registry.compile_eq]

@[simp] theorem Registry.activity_compile : (r.compile text).activity = {} := by
  rw [Registry.compile_eq]

end Compiling

namespace Interning

def after (n : Interning) (calls : List Call) : Interning :=
  calls.foldl (fun n call => (call.run n).2) n

def start (policy : Policy) : Interning :=
  { registry := { policy } }

section Finding

variable {n : Interning} {text : String}

theorem intern_of_unknown {f : Filter} (unknown : n.registry.get? f.text = none) :
    n.intern f = n.replace f := by
  unfold intern
  rw [unknown]
  rfl

theorem ofText?_of_blank (isBlank : Text.blank text = true) : n.ofText? text = none :=
  if_pos isBlank

theorem ofText?_of_known {id : FilterId} (solid : Text.blank text = false)
    (known : n.registry.get? text = some id) : n.ofText? text = some (id, n) := by
  unfold ofText?
  rw [solid, known]
  rfl

theorem ofText?_of_unknown (solid : Text.blank text = false)
    (unknown : n.registry.get? text = none) :
    n.ofText? text = some (n.replace (n.registry.compile text)) := by
  have made : n.intern (n.registry.compile text) = n.replace (n.registry.compile text) :=
    intern_of_unknown (by rwa [Registry.text_compile])
  unfold ofText?
  rw [solid, unknown, ← made]
  rfl

theorem ofText?_cases {id : FilterId} {n' : Interning} (found : n.ofText? text = some (id, n')) :
    Text.blank text = false ∧
      ((n.registry.get? text = some id ∧ n' = n) ∨
        (n.registry.get? text = none ∧ n.replace (n.registry.compile text) = (id, n'))) := by
  cases solid : Text.blank text with
  | true =>
      rw [ofText?_of_blank solid] at found
      cases found
  | false =>
      refine ⟨rfl, ?_⟩
      cases known : n.registry.get? text with
      | some id' =>
          rw [ofText?_of_known solid known] at found
          cases found
          exact .inl ⟨rfl, rfl⟩
      | none =>
          rw [ofText?_of_unknown solid known] at found
          exact .inr ⟨rfl, Option.some.inj found⟩

theorem place?_eq (n : Interning) (text : String) (restored : Option (Except RuleError Filter)) :
    n.place? text restored =
      match restored.bind (·.toOption) with
      | some f => some (n.replace f)
      | none => n.ofText? text := by
  match restored with
  | none => rfl
  | some (.ok f) => rfl
  | some (.error e) => rfl

theorem found?_eq (n : Interning) (version : Nat) (r : Record) :
    n.found? version r = (r.get? "text").bind fun text => (r.get? "type").bind fun kind =>
      if kind ∈ Record.kinds then
        match r.given? version with
        | some f => some (n.replace f)
        | none => n.ofText? text
      else none := by
  unfold found? Record.given?
  cases r.get? "text" with
  | none => rfl
  | some text =>
      cases r.get? "type" with
      | none => rfl
      | some kind =>
          simp only [Option.bind_some, place?_eq, Record.kinds]
          grind

theorem found?_cases {version : Nat} {r : Record} {id : FilterId} {n' : Interning}
    (found : n.found? version r = some (id, n')) :
    (∃ f, r.given? version = some f ∧ n.replace f = (id, n')) ∨
      ∃ text, r.get? "text" = some text ∧ r.given? version = none ∧
        n.ofText? text = some (id, n') := by
  rw [found?_eq] at found
  obtain ⟨text, hasText, found⟩ := Option.bind_eq_some_iff.mp found
  obtain ⟨kind, hasKind, found⟩ := Option.bind_eq_some_iff.mp found
  split at found
  · cases h : r.given? version with
    | some f =>
        rw [h] at found
        exact .inl ⟨f, rfl, Option.some.inj found⟩
    | none =>
        rw [h] at found
        exact .inr ⟨text, hasText, rfl, found⟩
  · cases found

theorem ofRecord?_cases {version : Nat} {r : Record} {id : FilterId} {n' : Interning}
    (found : n.ofRecord? version r = some (id, n')) :
    ∃ m, n.found? version r = some (id, m) ∧
      n' = { m with store := m.store.modifyActivity id r.setActivity } := by
  obtain ⟨⟨id', m⟩, foundFirst, same⟩ := Option.map_eq_some_iff.mp found
  cases same
  exact ⟨m, foundFirst, rfl⟩

end Finding

/-- The filters that a registry can come to know. -/
def Makes (registry : Registry) (f : Filter) : Prop :=
  (∃ text, Text.blank text = false ∧ f = registry.compile text) ∨
    ∃ version r, Record.given? version r = some f

section Preservation

variable {P : Interning → Prop}
  (put : ∀ n f, P n → Makes n.registry f → P (n.replace f).2)
  (update : ∀ n id change, P n → P { n with store := n.store.modifyActivity id change })
  (clear : ∀ n, P n → P n.clear)

include put in
theorem ofText?_preserves {n n' : Interning} {text : String} {id : FilterId} (holds : P n)
    (found : n.ofText? text = some (id, n')) : P n' := by
  obtain ⟨solid, ⟨-, rfl⟩ | ⟨-, replaced⟩⟩ := ofText?_cases found
  · exact holds
  · have made := put n (n.registry.compile text) holds (.inl ⟨text, solid, rfl⟩)
    rw [replaced] at made
    exact made

include put update clear in
/-- A call does nothing but put filters into place, switch them and count their hits, or forget
    them all. -/
theorem run_preserves (call : Call) {n : Interning} (holds : P n) : P (call.run n).2 := by
  cases call with
  | ofText text =>
      rw [Call.run]
      rcases Call.settle_cases n (n.ofText? text) with ⟨-, same⟩ | ⟨id, n', found, same⟩
      · rw [same]
        exact holds
      · rw [same]
        exact ofText?_preserves put holds found
  | ofRecord version r =>
      rw [Call.run]
      rcases Call.settle_cases n (n.ofRecord? version r) with ⟨-, same⟩ | ⟨id, n', outcome, same⟩
      · rw [same]
        exact holds
      · rw [same]
        obtain ⟨m, found, rfl⟩ := ofRecord?_cases outcome
        refine update m _ _ ?_
        rcases found?_cases found with ⟨f, given, replaced⟩ | ⟨text, -, -, found⟩
        · have made := put n f holds (.inr ⟨version, r, given⟩)
          rw [replaced] at made
          exact made
        · exact ofText?_preserves put holds found
  | get text => exact holds
  | clear => exact clear n holds
  | update id change => exact update n id change holds

include put update clear in
theorem after_preserves (calls : List Call) {n : Interning} (holds : P n) : P (n.after calls) := by
  induction calls generalizing n with
  | nil => exact holds
  | cons call calls ih => exact ih (run_preserves put update clear call holds)

end Preservation

/-- What holds of all filters that a registry of the policy can come to know, whatever becomes of
    their switches and counters, holds of all filters that a run leaves in the store. -/
theorem stored_after {P : Filter → Prop} {policy : Policy}
    (made : ∀ registry f, registry.policy = policy → Makes registry f → P f)
    (updated : ∀ f change, P f → P (f.updateActivity change)) (calls : List Call) {id : FilterId}
    {f : Filter} (stored : ((start policy).after calls).store.get? id = some f) : P f := by
  have each : ((start policy).after calls).registry.policy = policy ∧
      ∀ id f, ((start policy).after calls).store.get? id = some f → P f := by
    refine after_preserves (P := fun m => m.registry.policy = policy ∧
      ∀ id f, m.store.get? id = some f → P f) ?_ ?_ ?_ calls ⟨rfl, fun id f stored => ?_⟩
    · rintro n f ⟨same, each⟩ makes
      refine ⟨same, fun id g stored => ?_⟩
      by_cases new : id = n.store.filters.size
      · obtain rfl : f = g := by
          subst new
          exact Option.some.inj ((n.store.get?_add_self f).symm.trans stored)
        exact made n.registry f same makes
      · exact each id g ((Store.get?_add_of_ne new).symm.trans stored)
    · rintro n id change ⟨same, each⟩
      refine ⟨same, fun i g stored => ?_⟩
      rw [Store.modifyActivity, Store.get?_modify] at stored
      split at stored
      · obtain ⟨f, old, rfl⟩ := Option.map_eq_some_iff.mp stored
        exact updated f change (each i f old)
      · exact each i g stored
    · exact fun n holds => holds
    · simp [start, Store.get?] at stored
  exact each.2 id f stored

end Interning

end AdFilter
