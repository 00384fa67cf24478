import AdFilter.Proofs.Registry.FirstUse

/-! # Visits to a registry

Most callers only look texts up, switch filters and count hits. Whatever they interleave with, none
of their steps forgets or replaces a filter, and all that a step can do to a filter is to switch it
or to count one hit on it.
-/

namespace AdFilter

theorem Filter.activity?_updateActivity (f : Filter) (change : Activity → Activity) :
    (f.updateActivity change).activity? = f.activity?.map change := by
  cases active : f.rule.isActive with
  | true => simp [updateActivity_of_active active, activity?, active]
  | false => simp [updateActivity_of_idle active, activity?, active]

namespace Store

variable {s : Store} {id : FilterId} {a : Activity}

def activity? (s : Store) (id : FilterId) : Option Activity :=
  (s.get? id).bind (·.activity?)

theorem activity?_add (present : s.activity? id = some a) (f : Filter) :
    (s.add f).2.activity? id = some a := by
  obtain ⟨g, stored, active⟩ := Option.bind_eq_some_iff.mp present
  rw [activity?, get?_add_of_some stored]
  exact active

theorem activity?_modifyActivity (present : s.activity? id = some a) (i : FilterId)
    (change : Activity → Activity) :
    (s.modifyActivity i change).activity? id = some (if id = i then change a else a) := by
  obtain ⟨f, stored, active⟩ := Option.bind_eq_some_iff.mp present
  rw [activity?, modifyActivity, get?_modify, stored]
  split
  · simp [Filter.activity?_updateActivity, active]
  · exact active

end Store

namespace Call

def switch (id : FilterId) (disabled : Bool) : Call :=
  .update id ({ · with disabled })

def hit (id : FilterId) (time : UInt64) : Call :=
  .update id (·.hit time)

/-- What others do with the registry and its filters while a record is restored. -/
inductive Visits : Call → Prop where
  | ofText (text : String) : Visits (.ofText text)
  | get (text : String) : Visits (.get text)
  | switch (id : FilterId) (disabled : Bool) : Visits (switch id disabled)
  | hit (id : FilterId) (time : UInt64) : Visits (hit id time)

/-- Whether a visit counts a hit on the filter: it makes one hit out of none. -/
def countsOn (id : FilterId) : Call → Bool
  | .update i change => id == i && (change {}).hits == 1
  | _ => false

theorem countsOn_switch (id i : FilterId) (disabled : Bool) :
    (switch i disabled).countsOn id = false := by
  simp [switch, countsOn]

theorem countsOn_hit (id i : FilterId) (time : UInt64) : (hit i time).countsOn id = (id == i) := by
  simp [hit, countsOn, Activity.hit]

end Call

namespace Caller

variable {c : Caller} {n : Interning} {id : FilterId} {text : String} {a : Activity}

/-- What the next step of the caller makes of the switch and the counters of a filter. -/
def changeOn (id : FilterId) (c : Caller) (a : Activity) : Activity :=
  match c.stage, c.call with
  | .called, .update i change => if id = i then change a else a
  | .settling i (change :: _), _ => if id = i then change a else a
  | _, _ => a

/-- Whether the next step of the caller counts a hit on a filter. -/
def countsOn (id : FilterId) (c : Caller) : Bool :=
  match c.stage with
  | .called => c.call.countsOn id
  | _ => false

theorem activity?_step (present : n.store.activity? id = some a) (c : Caller) :
    (c.step n).2.store.activity? id = some (c.changeOn id a) := by
  obtain ⟨call, stage⟩ := c
  cases stage with
  | called =>
      cases call with
      | ofText | get | clear => exact present
      | ofRecord version r =>
          show ((Call.ofRecord version r).begin n).2.store.activity? id = some a
          rw [Call.begin]
          cases r.given? version with
          | some f => exact Store.activity?_add present f
          | none => exact present
      | update i change => exact Store.activity?_modifyActivity present i change
  | compiled f =>
      show (n.intern f).2.store.activity? id = some a
      cases known : n.registry.get? f.text with
      | some i => rw [Interning.intern_of_known known, present]
      | none =>
          rw [Interning.intern_of_unknown known]
          exact Store.activity?_add present f
  | settling i changes =>
      cases changes with
      | nil => exact present
      | cons change changes => exact Store.activity?_modifyActivity present i change
  | returned => exact present

/-- What becomes of a caller that only visits. -/
inductive Visiting : Caller → Prop where
  | called {call : Call} : call.Visits → Visiting { call }
  | compiled (text : String) (f : Filter) : Visiting ⟨.ofText text, .compiled f⟩
  | returned {call : Call} (result : Option FilterId) : call.Visits →
      Visiting ⟨call, .returned result⟩

theorem Visiting.step (visiting : c.Visiting) (n : Interning) : (c.step n).1.Visiting := by
  cases visiting with
  | called visits =>
      cases visits with
      | ofText text =>
          show Visiting ⟨.ofText text, (Call.ofText text).look n text⟩
          rcases look_cases n text with ⟨-, looked⟩ | ⟨-, id, -, looked⟩ | ⟨-, looked⟩
          · rw [looked]
            exact .returned none (.ofText text)
          · rw [looked]
            exact .returned (some id) (.ofText text)
          · rw [looked]
            exact .compiled text _
      | get text => exact .returned _ (.get text)
      | switch id disabled => exact .returned none (.switch id disabled)
      | hit id time => exact .returned none (.hit id time)
  | compiled text f => exact .returned _ (.ofText text)
  | returned result visits => exact .returned result visits

theorem Visiting.get?_step (visiting : c.Visiting) (known : n.registry.get? text = some id) :
    (c.step n).2.registry.get? text = some id := by
  cases visiting with
  | called visits => cases visits <;> exact known
  | compiled => exact Interning.get?_intern known
  | returned => exact known

theorem Visiting.changeOn_cases (visiting : c.Visiting) (id : FilterId) (a : Activity) :
    (c.changeOn id a = a ∧ c.countsOn id = false) ∨
    (∃ disabled, c.call = .switch id disabled ∧ c.changeOn id a = { a with disabled } ∧
      c.countsOn id = false) ∨
    (∃ time, c.changeOn id a = a.hit time ∧ c.countsOn id = true) := by
  cases visiting with
  | called visits =>
      cases visits with
      | ofText | get => exact .inl ⟨rfl, rfl⟩
      | switch i disabled =>
          have noHit : Caller.countsOn id { call := .switch i disabled } = false :=
            Call.countsOn_switch id i disabled
          by_cases same : id = i
          · subst same
            exact .inr (.inl ⟨disabled, rfl, if_pos rfl, noHit⟩)
          · exact .inl ⟨if_neg same, noHit⟩
      | hit i time =>
          have counts : Caller.countsOn id { call := .hit i time } = (id == i) :=
            Call.countsOn_hit id i time
          by_cases same : id = i
          · subst same
            exact .inr (.inr ⟨time, if_pos rfl, counts.trans (beq_self_eq_true id)⟩)
          · exact .inl ⟨if_neg same, counts.trans (beq_false_of_ne same)⟩
  | compiled | returned => exact .inl ⟨rfl, rfl⟩

end Caller

namespace Event

theorem isStepOf_self (k : Nat) : (Event.step k).isStepOf k = true :=
  beq_self_eq_true k

theorem eq_step_of_isStepOf {k : Nat} {e : Event} (own : e.isStepOf k = true) : e = .step k := by
  cases e with
  | arrive => cases own
  | step j => rw [eq_of_beq own]

theorem exists_first_step {k : Nat} {events : List Event}
    (steps : 0 < events.countP (Event.isStepOf k)) :
    ∃ early late, events = early ++ .step k :: late ∧ early.countP (Event.isStepOf k) = 0 := by
  obtain ⟨e, member, own⟩ := List.countP_pos_iff.mp steps
  obtain rfl := eq_step_of_isStepOf own
  obtain ⟨early, late, rfl, first⟩ := List.eq_append_cons_of_mem member
  refine ⟨early, late, rfl, List.countP_eq_zero.mpr fun e member own => ?_⟩
  rw [eq_step_of_isStepOf own] at member
  exact first member

end Event

namespace Race

variable {s : Race} {e : Event} {events : List Event} {k : Nat} {call : Call}

def activity? (s : Race) (id : FilterId) : Option Activity :=
  s.interning.store.activity? id

/-- Whether the event counts a hit on a filter. -/
def countsOn (s : Race) (id : FilterId) : Event → Bool
  | .arrive _ => false
  | .step j => s.callers[j]?.any (·.countsOn id)

/-- How many hits the events count on a filter. -/
def hitCount (id : FilterId) (s : Race) : List Event → Nat
  | [] => 0
  | e :: events => (s.countsOn id e).toNat + hitCount id (e.run s) events

theorem hitCount_append (id : FilterId) (s : Race) (first rest : List Event) :
    s.hitCount id (first ++ rest) = s.hitCount id first + (s.after first).hitCount id rest := by
  induction first generalizing s with
  | nil => simp [hitCount, after]
  | cons e first ih =>
      have next : s.after (e :: first) = (e.run s).after first := rfl
      simp only [List.cons_append, hitCount, ih, next]
      omega

/-- Another caller makes the call, or has made it. -/
def Comes (s : Race) (k : Nat) (events : List Event) (call : Call) : Prop :=
  (∃ j c, j ≠ k ∧ s.callers[j]? = some c ∧ c.call = call) ∨ .arrive call ∈ events

theorem Comes.of_run (comes : (e.run s).Comes k events call) : s.Comes k (e :: events) call := by
  rcases comes with ⟨j, c, other, present, rfl⟩ | arrives
  · have called : ((e.run s).callers.map (·.call))[j]? = some c.call := by
      rw [List.getElem?_map, present, Option.map_some]
    rw [calls_run] at called
    by_cases inside : j < (s.callers.map (·.call)).length
    · rw [List.getElem?_append_left inside, List.getElem?_map, Option.map_eq_some_iff] at called
      obtain ⟨c', before, same⟩ := called
      exact .inl ⟨j, c', other, before, same⟩
    · rw [List.getElem?_append_right (Nat.le_of_not_lt inside)] at called
      have new := List.mem_of_getElem? called
      rw [Option.mem_toList] at new
      cases e with
      | arrive call =>
          cases new
          exact .inr List.mem_cons_self
      | step => cases new
  · exact .inr (List.mem_cons_of_mem e arrives)

/-- All callers but one only visit. -/
structure Visited (s : Race) (k : Nat) (events : List Event) : Prop where
  calls : ∀ {call : Call}, s.Comes k events call → call.Visits
  callers : ∀ {j : Nat} {c : Caller}, j ≠ k → s.callers[j]? = some c → c.Visiting

theorem Visited.run (visited : s.Visited k (e :: events)) : (e.run s).Visited k events where
  calls comes := visited.calls comes.of_run
  callers := by
    intro j c other present
    rcases caller_run_cases present with new | ⟨c', before, rfl⟩
    · obtain ⟨call, stage⟩ := c
      cases new
      exact .called (visited.calls (Comes.of_run (.inl ⟨j, _, other, present, rfl⟩)))
    · split
      · exact (visited.callers other before).step _
      · exact visited.callers other before

theorem Comes.of_after {first : List Event} (comes : (s.after first).Comes k events call) :
    s.Comes k (first ++ events) call := by
  induction first generalizing s with
  | nil => exact comes
  | cons e first ih => exact (ih comes).of_run

theorem Visited.of_append {first : List Event} (visited : s.Visited k (first ++ events)) :
    s.Visited k first where
  calls comes := visited.calls (comes.imp_right (List.mem_append_left events))
  callers := visited.callers

theorem Visited.after {first : List Event} (visited : s.Visited k (first ++ events)) :
    (s.after first).Visited k events := by
  induction first generalizing s with
  | nil => exact visited
  | cons e first ih => exact ih visited.run

theorem Comes.arrives_of_only (comes : s.Comes 0 events call) (only : s.callers.length = 1) :
    .arrive call ∈ events := by
  rcases comes with ⟨j, c, other, present, -⟩ | arrives
  · obtain ⟨inside, -⟩ := List.getElem?_eq_some_iff.mp present
    omega
  · exact arrives

theorem visited_of_only (only : s.callers.length = 1)
    (visits : ∀ call, .arrive call ∈ events → call.Visits) : s.Visited 0 events where
  calls comes := visits _ (comes.arrives_of_only only)
  callers := by
    intro j c other present
    obtain ⟨inside, -⟩ := List.getElem?_eq_some_iff.mp present
    omega

end Race

end AdFilter
