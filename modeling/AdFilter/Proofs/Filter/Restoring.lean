import AdFilter.Proofs.Filter.Stored
import AdFilter.Proofs.Registry.Calls

/-! # Filters restored from their records

A registry that does not know the text of a record makes its filter from the record and the policy
alone. For the record of a filter that a registry has made, that is the filter itself.
-/

namespace AdFilter

open Text

/-- The filter of a record whose text is not known. -/
def Record.filter? (policy : Policy) (version : Nat) (r : Record) : Option Filter :=
  (r.get? "text").bind fun text => (r.get? "type").bind fun kind =>
    if kind ∈ kinds then
      ((r.given? version).or
        (if blank text then none else some { text, rule := .ofLine policy text })).map
          (·.updateActivity r.setActivity)
    else none

namespace Filter

/-- A filter with the same text, rule, switch and counters. -/
def copy (f : Filter) : Filter :=
  { text := f.text, rule := f.rule, activity := f.activity }

/-- What the filters that registries make have in common. -/
structure Restorable (policy : Policy) (f : Filter) : Prop where
  idle : f.rule.isActive = false → f.activity = {}
  invalid : ∀ reason, f.rule = .invalid reason →
    blank f.text = false ∧ Rule.ofLine policy f.text = f.rule
  shortcut : ∀ q, f.rule.request? = some q → ∀ s ∈ q.shortcut, s.length = RequestRule.shortcutLength

theorem updateActivity_of_active {f : Filter} (active : f.rule.isActive = true)
    (change : Activity → Activity) :
    f.updateActivity change = { f with activity := change f.activity } :=
  if_pos active

theorem updateActivity_of_idle {f : Filter} (idle : f.rule.isActive = false)
    (change : Activity → Activity) : f.updateActivity change = f := by
  rw [updateActivity, idle, if_neg Bool.false_ne_true]

theorem Restorable.updateActivity {policy : Policy} {f : Filter} (h : f.Restorable policy)
    (change : Activity → Activity) : (f.updateActivity change).Restorable policy := by
  cases active : f.rule.isActive with
  | false =>
      rw [updateActivity_of_idle active]
      exact h
  | true =>
      rw [updateActivity_of_active active]
      exact ⟨fun idle => absurd (active.symm.trans idle) (by decide), h.invalid, h.shortcut⟩

theorem shortcut_ofLine {policy : Policy} {line : String} {q : RequestRule}
    (request : (Rule.ofLine policy line).request? = some q) : q.shortcut = none := by
  have made := Rule.make_of_ofRequestLine (Rule.request?_ofLine request)
  exact (RequestRule.eq_of_make made).2.2

theorem restorable_ofLine {policy : Policy} {text : String} (solid : blank text = false) :
    Restorable policy { text, rule := .ofLine policy text } where
  idle := fun _ => rfl
  invalid := fun _ _ => ⟨solid, rfl⟩
  shortcut := fun q request s member => by
    rw [shortcut_ofLine request] at member
    cases member

theorem length_of_shortcut? {r : Record} {s : String} (member : s ∈ r.shortcut?) :
    s.length = RequestRule.shortcutLength := by
  have filtered := (Option.filter_eq_some_iff.mp member).2
  simpa using filtered

theorem Restorable.of_gives {policy : Policy} {version : Nat} {r : Record} {f : Filter}
    (gives : r.Gives version f) : f.Restorable policy := by
  cases gives with
  | comment => exact ⟨fun _ => rfl, fun _ h => (nomatch h), fun _ h => (nomatch h)⟩
  | blocking =>
      refine ⟨fun _ => rfl, fun _ h => (nomatch h), fun q h s member => ?_⟩
      cases h
      exact length_of_shortcut? member
  | exception =>
      refine ⟨fun _ => rfl, fun _ h => (nomatch h), fun q h s member => ?_⟩
      cases h
      exact length_of_shortcut? member
  | hide => exact ⟨fun _ => rfl, fun _ h => (nomatch h), fun _ h => (nomatch h)⟩

/-- Every filter that a run of calls leaves in the store can be restored. -/
theorem Restorable.of_stored {policy : Policy} {calls : List Call} {id : FilterId} {f : Filter}
    (stored : ((Interning.start policy).after calls).store.get? id = some f) :
    f.Restorable policy := by
  refine Interning.stored_after ?_ (fun f change h => h.updateActivity change) calls stored
  rintro registry f rfl (⟨text, solid, rfl⟩ | ⟨version, r, given⟩)
  · rw [Registry.compile_eq]
    exact restorable_ofLine solid
  · exact of_gives (Record.gives_of_given? given)

section Reading

variable {policy : Policy} {f : Filter}

theorem shortcut?_toRecord (h : f.Restorable policy) {q : RequestRule}
    (request : f.rule.request? = some q) : f.toRecord.shortcut? = q.shortcut := by
  have field : f.toRecord.get? "shortcut" = q.shortcut := by
    simp [get?_toRecord_request request, get?_writeRequest, get?_beginRecord]
  rw [Record.shortcut?, field]
  cases short : q.shortcut with
  | none => rfl
  | some s =>
      rw [Option.filter_some, h.shortcut q request s short]
      rfl

theorem make_toRecord {q : RequestRule} (h : f.Restorable policy)
    (request : f.rule.request? = some q) :
    ∃ rule, RequestRule.make q.source f.toRecord.conditions = .ok rule ∧
      { rule with shortcut := f.toRecord.shortcut? } = q := by
  refine ⟨{ q with shortcut := none }, ?_, ?_⟩
  · rw [conditions_toRecord request]
    exact q.make_self
  · exact RequestRule.ext rfl rfl (shortcut?_toRecord h request)

theorem regexp_toRecord {q : RequestRule} (request : f.rule.request? = some q) :
    f.toRecord.get? "regexp" = some q.source := by
  simp [get?_toRecord_request request, get?_writeRequest]

theorem gives_toRecord (h : f.Restorable policy) (valid : f.rule.rejection? = none) :
    f.toRecord.Gives formatVersion { text := f.text, rule := f.rule } := by
  cases rule : f.rule with
  | invalid reason =>
      rw [rule] at valid
      cases valid
  | comment =>
      have kind := type_toRecord f
      rw [rule] at kind
      exact .comment (text_toRecord f) kind
  | blocking q collapse =>
      have request : f.rule.request? = some q := by rw [rule]; rfl
      have kind := type_toRecord f
      rw [rule] at kind
      obtain ⟨made, builds, same⟩ := make_toRecord h request
      have collapses : f.toRecord.bool? "collapse" = collapse := by
        refine Record.bool?_of_get? ?_
        simp [get?_toRecord_request request, rule, Rule.collapse?]
      have gives := Record.Gives.blocking (text_toRecord f) kind rfl (regexp_toRecord request) builds
      rw [same, collapses] at gives
      exact gives
  | exception q =>
      have request : f.rule.request? = some q := by rw [rule]; rfl
      have kind := type_toRecord f
      rw [rule] at kind
      obtain ⟨made, builds, same⟩ := make_toRecord h request
      have gives := Record.Gives.exception (text_toRecord f) kind rfl (regexp_toRecord request) builds
      rw [same] at gives
      exact gives
  | hide rule' =>
      have field := get?_toRecord_hide rule
      have kind := type_toRecord f
      rw [rule] at kind
      have domain : f.toRecord.get? "domain" = rule'.domain := by simp [field]
      have selector : f.toRecord.get? "selector" = some rule'.selector := by simp [field]
      refine .hide (text_toRecord f) kind selector ?_
      rw [domain]
      exact rule'.make_self

theorem kind_mem_kinds (rule : Rule) : rule.kind ∈ Record.kinds := by
  cases rule <;> simp [Rule.kind, Record.kinds]

theorem updateActivity_toRecord (h : f.Restorable policy) :
    ({ text := f.text, rule := f.rule } : Filter).updateActivity f.toRecord.setActivity = f.copy := by
  cases active : f.rule.isActive with
  | true =>
      have changed := updateActivity_of_active (f := { text := f.text, rule := f.rule }) active
        f.toRecord.setActivity
      rw [changed, setActivity_toRecord active]
      rfl
  | false =>
      have unchanged := updateActivity_of_idle (f := { text := f.text, rule := f.rule }) active
        f.toRecord.setActivity
      rw [unchanged, copy, h.idle active]

theorem Restorable.lined_of_rejected (h : f.Restorable policy)
    (rejected : f.rule.rejection? ≠ none) :
    blank f.text = false ∧ Rule.ofLine policy f.text = f.rule := by
  obtain ⟨reason, rejected⟩ := Option.ne_none_iff_exists'.mp rejected
  apply h.invalid reason
  cases rule : f.rule <;> rw [rule] at rejected <;> cases rejected
  rfl

theorem filter?_toRecord_of_line (h : f.Restorable policy)
    {version : Nat} (unaided : f.toRecord.given? version = none) (solid : blank f.text = false)
    (lined : Rule.ofLine policy f.text = f.rule) :
    f.toRecord.filter? policy version = some f.copy := by
  rw [Record.filter?, text_toRecord, type_toRecord, Option.bind_some, Option.bind_some,
    if_pos (kind_mem_kinds f.rule), ← updateActivity_toRecord h, unaided, Option.none_or,
    solid, if_neg Bool.false_ne_true, Option.map_some, lined]

theorem filter?_toRecord_of_gives (h : f.Restorable policy)
    {version : Nat} (gives : f.toRecord.Gives version { text := f.text, rule := f.rule }) :
    f.toRecord.filter? policy version = some f.copy := by
  rw [Record.filter?, text_toRecord, type_toRecord, Option.bind_some, Option.bind_some,
    if_pos (kind_mem_kinds f.rule), ← updateActivity_toRecord h,
    Record.given?_eq_some.mpr gives, Option.some_or, Option.map_some]

theorem given?_toRecord_eq_none {version : Nat}
    (leaves : f.rule.rejection? ≠ none ∨ version ≠ formatVersion ∧ f.rule.request? ≠ none) :
    f.toRecord.given? version = none := by
  rw [Record.given?, text_toRecord, type_toRecord, Option.bind_some, Option.bind_some]
  cases rule : f.rule <;> simp_all [Rule.kind, Rule.rejection?, Rule.request?]

/-- The record of a filter that can be restored stands for a copy of it. -/
theorem filter?_toRecord (h : f.Restorable policy) :
    f.toRecord.filter? policy formatVersion = some f.copy := by
  by_cases valid : f.rule.rejection? = none
  · exact filter?_toRecord_of_gives h (gives_toRecord h valid)
  · obtain ⟨solid, lined⟩ := h.lined_of_rejected valid
    exact filter?_toRecord_of_line h (given?_toRecord_eq_none (.inl valid)) solid lined

end Reading

end Filter

end AdFilter
