import AdFilter.Proofs.Registry.Interleaving
import Mathlib.Data.List.Induction

/-! # First use by several callers at once

Any number of callers can find a text unknown and compile its filter, each for itself. Whoever is
first puts a filter into place, and the others get that one. So whatever is returned for a text was
known under it at that moment; and as long as texts are only asked for, nothing that is known is
ever replaced or forgotten.
-/

namespace AdFilter

open Text

namespace Interning

variable {n : Interning} {f : Filter} {text : String} {id : FilterId}

theorem intern_of_known (known : n.registry.get? f.text = some id) : n.intern f = (id, n) := by
  unfold intern
  rw [known]

theorem known_of_intern (n : Interning) (f : Filter) :
    (n.intern f).2.registry.get? f.text = some (n.intern f).1 := by
  cases known : n.registry.get? f.text with
  | some id => rw [intern_of_known known, known]
  | none => rw [intern_of_unknown known, get?_replace, if_pos rfl]

theorem get?_intern_of_ne (other : text ≠ f.text) :
    (n.intern f).2.registry.get? text = n.registry.get? text := by
  cases known : n.registry.get? f.text with
  | some id => rw [intern_of_known known]
  | none => rw [intern_of_unknown known, get?_replace, if_neg other]

theorem get?_intern (known : n.registry.get? text = some id) :
    (n.intern f).2.registry.get? text = some id := by
  by_cases same : text = f.text
  · rw [intern_of_known (same ▸ known), known]
  · rw [get?_intern_of_ne same, known]

end Interning

/-- The call asks for the filter of the text. -/
def Call.Asks (text : String) (call : Call) : Prop :=
  call = .ofText text ∨ call = .get text

/-- What becomes of a caller that asks for a text. -/
inductive Asking (text : String) : Caller → Prop where
  | called {call : Call} : call.Asks text → Asking text { call }
  | compiled {f : Filter} : f.text = text → blank text = false →
      Asking text ⟨.ofText text, .compiled f⟩
  | gave {result : Option FilterId} : (blank text = false → result ≠ none) →
      Asking text ⟨.ofText text, .returned result⟩
  | got {result : Option FilterId} : Asking text ⟨.get text, .returned result⟩

/-- How many steps are left at most to a caller that asks for a text. -/
def Stage.remaining : Stage → Nat
  | .called => 2
  | .compiled _ => 1
  | .settling _ _ | .returned _ => 0

section Caller

variable {text : String} {c : Caller} {n : Interning} {id : FilterId}

theorem Caller.call_step (n : Interning) (c : Caller) : (c.step n).1.call = c.call := by
  unfold step
  split <;> rfl

theorem look_cases (n : Interning) (text : String) :
    (blank text = true ∧ (Call.ofText text).look n text = .returned none) ∨
    (blank text = false ∧ ∃ id, n.registry.get? text = some id ∧
      (Call.ofText text).look n text = .returned (some id)) ∨
    (blank text = false ∧
      (Call.ofText text).look n text = .compiled (n.registry.compile text)) := by
  unfold Call.look
  cases solid : blank text with
  | true => simp
  | false =>
      cases known : n.registry.get? text with
      | some id => simp [Call.found]
      | none => simp

theorem Asking.step (asking : Asking text c) (n : Interning) : Asking text (c.step n).1 := by
  cases asking with
  | called asks =>
      rcases asks with rfl | rfl
      · show Asking text ⟨.ofText text, (Call.ofText text).look n text⟩
        rcases look_cases n text with ⟨isBlank, looked⟩ | ⟨solid, id, -, looked⟩ | ⟨solid, looked⟩
        · rw [looked]
          refine .gave fun solid => ?_
          cases isBlank.symm.trans solid
        · rw [looked]
          exact .gave fun _ => Option.some_ne_none id
        · rw [looked]
          exact .compiled (Registry.text_compile ..) solid
      · exact .got
  | compiled => exact .gave fun _ => Option.some_ne_none _
  | gave given => exact .gave given
  | got => exact .got

theorem Asking.known_of_step (asking : Asking text c) (underway : c.stage.result? = none)
    (returns : (c.step n).1.stage = .returned (some id)) :
    (c.step n).2.registry.get? text = some id := by
  cases asking with
  | called asks =>
      rcases asks with rfl | rfl
      · have looked : (Call.ofText text).look n text = .returned (some id) := returns
        rcases look_cases n text with ⟨-, nothing⟩ | ⟨-, id', known, found⟩ | ⟨-, missing⟩
        · cases nothing.symm.trans looked
        · cases found.symm.trans looked
          exact known
        · cases missing.symm.trans looked
      · have got : n.registry.get? text = some id := Stage.returned.inj returns
        exact got
  | @compiled f hasText =>
      have gave : (n.intern f).1 = id := Option.some.inj (Stage.returned.inj returns)
      rw [← gave, ← hasText]
      exact n.known_of_intern f
  | gave | got => cases underway

theorem Asking.interning_step (asking : Asking text c) (n : Interning) :
    (c.step n).2 = n ∨ ∃ f : Filter, f.text = text ∧ blank text = false ∧ c.call = .ofText text ∧
      (c.step n).2 = (n.intern f).2 := by
  cases asking with
  | called asks =>
      rcases asks with rfl | rfl
      · exact .inl rfl
      · exact .inl rfl
  | @compiled f hasText solid => exact .inr ⟨f, hasText, solid, rfl, rfl⟩
  | gave | got => exact .inl rfl

theorem Asking.remaining_step (asking : Asking text c) (n : Interning) :
    (c.step n).1.stage.remaining ≤ c.stage.remaining - 1 := by
  cases asking with
  | called asks =>
      rcases asks with rfl | rfl
      · show ((Call.ofText text).look n text).remaining ≤ 1
        rcases look_cases n text with ⟨-, looked⟩ | ⟨-, id, -, looked⟩ | ⟨-, looked⟩
        all_goals simp [looked, Stage.remaining]
      · exact Nat.zero_le _
  | compiled | gave | got => exact Nat.le_refl 0

theorem Asking.remaining_le (asking : Asking text c) : c.stage.remaining ≤ 2 := by
  cases asking <;> simp [Stage.remaining]

theorem Asking.returned_of_remaining (asking : Asking text c) (rest : c.stage.remaining = 0) :
    ∃ result, c.stage = .returned result := by
  cases asking with
  | called | compiled => cases rest
  | gave | got => exact ⟨_, rfl⟩

end Caller

namespace Race

def start (n : Interning) : Race :=
  { interning := n }

def get? (s : Race) (text : String) : Option FilterId :=
  s.interning.registry.get? text

section Events

variable {s : Race} {e : Event} {k : Nat} {c : Caller} {text : String} {id : FilterId}

theorem caller_run (present : s.callers[k]? = some c) :
    (e.run s).callers[k]? = some (if e.isStepOf k then (c.step s.interning).1 else c) := by
  obtain ⟨inside, -⟩ := List.getElem?_eq_some_iff.mp present
  cases e with
  | arrive call => exact (List.getElem?_append_left inside).trans present
  | step j =>
      by_cases own : j = k
      · subst own
        simp [Event.run_step present, Event.isStepOf, List.getElem?_set_self inside]
      · cases there : s.callers[j]? with
        | none => simpa [Event.run_step_of_none there, Event.isStepOf, own] using present
        | some c' =>
            simpa [Event.run_step there, Event.isStepOf, own, List.getElem?_set_ne own]
              using present

theorem caller_run_cases (present : (e.run s).callers[k]? = some c) :
    c.stage = .called ∨ ∃ c', s.callers[k]? = some c' ∧
      c = if e.isStepOf k then (c'.step s.interning).1 else c' := by
  cases before : s.callers[k]? with
  | some c' => exact .inr ⟨c', rfl, Option.some.inj (present.symm.trans (caller_run before))⟩
  | none =>
      left
      cases e with
      | arrive call =>
          have outside := List.getElem?_eq_none_iff.mp before
          have new : c ∈ [({ call } : Caller)] := by
            refine List.mem_of_getElem? (i := k - s.callers.length) ?_
            rw [← List.getElem?_append_right outside]
            exact present
          rw [List.mem_singleton.mp new]
      | step j =>
          have absent : ((Event.step j).run s).callers[k]? = none := by
            have outside := List.getElem?_eq_none_iff.mp before
            cases there : s.callers[j]? with
            | none => rw [Event.run_step_of_none there, before]
            | some c' => simp [Event.run_step there, outside]
          cases absent.symm.trans present

theorem interning_run_cases (s : Race) (e : Event) :
    (e.run s).interning = s.interning ∨
      ∃ c ∈ s.callers, (e.run s).interning = (c.step s.interning).2 := by
  cases e with
  | arrive call => exact .inl rfl
  | step k =>
      cases there : s.callers[k]? with
      | none => exact .inl (by rw [Event.run_step_of_none there])
      | some c => exact .inr ⟨c, List.mem_of_getElem? there, by rw [Event.run_step there]⟩

theorem after_append (s : Race) (first rest : List Event) :
    s.after (first ++ rest) = (s.after first).after rest :=
  List.foldl_append

theorem calls_run (s : Race) (e : Event) :
    (e.run s).callers.map (·.call) = s.callers.map (·.call) ++ e.call?.toList := by
  cases e with
  | arrive call => simp [Event.run, Event.call?]
  | step k =>
      cases there : s.callers[k]? with
      | none => simp [Event.run_step_of_none there, Event.call?]
      | some c =>
          obtain ⟨inside, rfl⟩ := List.getElem?_eq_some_iff.mp there
          simp only [Event.run_step there, Event.call?, Option.toList_none, List.append_nil,
            List.map_set, Caller.call_step]
          have within : k < (s.callers.map (·.call)).length := by simpa using inside
          have own : (s.callers.map (·.call))[k] = s.callers[k].call := List.getElem_map _
          rw [← own, List.set_getElem_self]

theorem calls_after (n : Interning) (events : List Event) :
    ((start n).after events).callers.map (·.call) = events.filterMap Event.call? := by
  induction events using List.reverseRecOn with
  | nil => rfl
  | append_singleton events e ih =>
      rw [after_append, List.filterMap_append, ← ih]
      refine (calls_run _ e).trans ?_
      cases e <;> rfl

theorem mem_calls_iff {call : Call} {events : List Event} :
    call ∈ events.filterMap Event.call? ↔ .arrive call ∈ events := by
  rw [List.mem_filterMap]
  constructor
  · rintro ⟨e, member, called⟩
    cases e <;> cases called
    exact member
  · intro member
    exact ⟨_, member, rfl⟩

/-- A caller that asks for a text is where such a caller can be, whatever the others do. -/
theorem asking_after {n : Interning} {events : List Event}
    (present : ((start n).after events).callers[k]? = some c) (asks : c.call.Asks text) :
    Asking text c := by
  induction events using List.reverseRecOn generalizing c with
  | nil => cases present
  | append_singleton events e ih =>
      rw [after_append] at present
      rcases caller_run_cases present with new | ⟨c', before, rfl⟩
      · obtain ⟨call, stage⟩ := c
        cases new
        exact .called asks
      · split at asks
        · rw [Caller.call_step] at asks
          rename_i stepped
          rw [if_pos stepped]
          exact (ih before asks).step _
        · rename_i stayed
          rw [if_neg stayed]
          exact ih before asks

/-- Whoever asks for a text has returned after two steps, whatever the others do in between. -/
theorem returned_of_steps {later : List Event} (present : s.callers[k]? = some c)
    (asking : Asking text c) (enough : c.stage.remaining ≤ later.countP (Event.isStepOf k)) :
    ∃ result, (s.after later).callers[k]? = some ⟨c.call, .returned result⟩ ∧
      Asking text ⟨c.call, .returned result⟩ := by
  induction later generalizing s c with
  | nil =>
      obtain ⟨result, returned⟩ := asking.returned_of_remaining (Nat.le_zero.mp enough)
      obtain ⟨call, stage⟩ := c
      cases returned
      exact ⟨result, present, asking⟩
  | cons e later ih =>
      have next := caller_run (e := e) present
      rw [List.countP_cons] at enough
      split at next
      · rename_i stepped
        have fewer := asking.remaining_step s.interning
        rw [if_pos stepped] at enough
        have rest := ih next (asking.step _) (by omega)
        rw [Caller.call_step] at rest
        exact rest
      · rename_i stayed
        rw [if_neg stayed] at enough
        exact ih next asking enough

/-- The caller was under way before the event and has returned the filter after it, and it is then
    that the filter is known under the text. -/
structure Gives (s : Race) (e : Event) (k : Nat) (call : Call) (text : String) (id : FilterId) :
    Prop where
  underway : ∃ c, s.callers[k]? = some c ∧ c.stage.result? = none
  returned : (e.run s).callers[k]? = some ⟨call, .returned (some id)⟩
  known : (e.run s).get? text = some id

theorem gives_of_run (present : s.callers[k]? = some c) (asking : Asking text c)
    (underway : c.stage.result? = none) {call : Call}
    (returned : (e.run s).callers[k]? = some ⟨call, .returned (some id)⟩) :
    s.Gives e k call text id := by
  refine ⟨⟨c, present, underway⟩, returned, ?_⟩
  have next := caller_run (e := e) present
  rw [returned] at next
  split at next
  · rename_i stepped
    have returns := (congrArg Caller.stage (Option.some.inj next)).symm
    have known := asking.known_of_step underway returns
    cases e with
    | arrive call => cases stepped
    | step j =>
        obtain rfl : j = k := by simpa [Event.isStepOf] using stepped
        rw [get?, Event.run_step present]
        exact known
  · cases Option.some.inj next
    cases underway

theorem exists_gives {n : Interning} {events : List Event} {call : Call}
    (returned : ((start n).after events).callers[k]? = some ⟨call, .returned (some id)⟩)
    (asks : call.Asks text) : ∃ first e rest, events = first ++ e :: rest ∧
      ((start n).after first).Gives e k call text id := by
  induction events using List.reverseRecOn with
  | nil => cases returned
  | append_singleton events e ih =>
      have later (returned : ((start n).after events).callers[k]? =
          some ⟨call, .returned (some id)⟩) : ∃ first e' rest, events ++ [e] = first ++ e' :: rest ∧
            ((start n).after first).Gives e' k call text id := by
        obtain ⟨first, e', rest, rfl, gives⟩ := ih returned
        exact ⟨first, e', rest ++ [e], by simp, gives⟩
      rw [after_append] at returned
      rcases caller_run_cases returned with new | ⟨c, before, same⟩
      · cases new
      · have called : c.call = call := by
          have calls := congrArg Caller.call same
          split at calls
          · rw [Caller.call_step] at calls
            exact calls.symm
          · exact calls.symm
        have asking := asking_after before (called.symm ▸ asks)
        obtain ⟨_, stage⟩ := c
        cases called
        cases stage with
        | returned result =>
            -- The event found the caller where it is now, so an earlier one must have given.
            have unmoved := same.trans (ite_self _)
            cases unmoved
            exact later before
        | called | compiled | settling =>
            exact ⟨events, e, [], rfl, gives_of_run before asking rfl returned⟩

end Events

section Plain

/-! ### Only texts are asked for -/

variable {n : Interning} {events first rest : List Event} {text : String} {id : FilterId}

/-- All calls that come ask for a text. -/
def Plain (events : List Event) : Prop :=
  ∀ call, .arrive call ∈ events → ∃ text, call.Asks text

theorem Plain.of_prefix (plain : Plain events) (part : first <+: events) : Plain first :=
  fun call member => plain call (part.subset member)

theorem arrive_of_mem {c : Caller} (present : c ∈ ((start n).after events).callers) :
    .arrive c.call ∈ events := by
  rw [← mem_calls_iff, ← calls_after n]
  exact List.mem_map_of_mem present

theorem Plain.asking (plain : Plain events) {c : Caller}
    (present : c ∈ ((start n).after events).callers) : ∃ text, Asking text c := by
  obtain ⟨text, asks⟩ := plain c.call (arrive_of_mem present)
  obtain ⟨k, there⟩ := List.mem_iff_getElem?.mp present
  exact ⟨text, asking_after there asks⟩

theorem Plain.interning_run (plain : Plain events) (n : Interning) (e : Event) :
    (e.run ((start n).after events)).interning = ((start n).after events).interning ∨
      ∃ f : Filter, blank f.text = false ∧ .arrive (.ofText f.text) ∈ events ∧
        (e.run ((start n).after events)).interning =
          (((start n).after events).interning.intern f).2 := by
  rcases interning_run_cases ((start n).after events) e with same | ⟨c, present, stepped⟩
  · exact .inl same
  · obtain ⟨text, asking⟩ := plain.asking present
    rcases asking.interning_step ((start n).after events).interning with
      same | ⟨f, rfl, solid, call, interned⟩
    · exact .inl (stepped.trans same)
    · exact .inr ⟨f, solid, call ▸ arrive_of_mem present, stepped.trans interned⟩

/-- Nothing that is known is replaced or forgotten. -/
theorem Plain.get?_after (plain : Plain (first ++ rest))
    (known : ((start n).after first).get? text = some id) :
    ((start n).after (first ++ rest)).get? text = some id := by
  -- On the events that follow: each puts at most one filter into place, under an unknown text.
  induction rest using List.reverseRecOn with
  | nil => rwa [List.append_nil]
  | append_singleton rest e ih =>
      rw [← List.append_assoc] at plain ⊢
      have before := plain.of_prefix (List.prefix_append _ [e])
      rw [after_append]
      rcases before.interning_run n e with same | ⟨f, -, -, interned⟩
      · exact (congrArg (·.registry.get? text) same).trans (ih before)
      · exact (congrArg (·.registry.get? text) interned).trans (Interning.get?_intern (ih before))

theorem Plain.known_cases (plain : Plain events)
    (known : ((start n).after events).get? text = some id) :
    n.registry.get? text = some id ∨ blank text = false ∧ .arrive (.ofText text) ∈ events := by
  induction events using List.reverseRecOn with
  | nil => exact .inl known
  | append_singleton events e ih =>
      have before := plain.of_prefix (List.prefix_append events [e])
      have earlier (known : ((start n).after events).get? text = some id) :
          n.registry.get? text = some id ∨
            blank text = false ∧ .arrive (.ofText text) ∈ events ++ [e] :=
        (ih before known).imp_right fun ⟨solid, asked⟩ => ⟨solid, List.mem_append_left _ asked⟩
      rw [after_append] at known
      rcases before.interning_run n e with same | ⟨f, solid, asked, interned⟩
      · exact earlier ((congrArg (·.registry.get? text) same).symm.trans known)
      · by_cases own : text = f.text
        · subst own
          exact .inr ⟨solid, List.mem_append_left _ asked⟩
        · refine earlier (Eq.trans (Interning.get?_intern_of_ne own).symm ?_)
          exact (congrArg (·.registry.get? text) interned).symm.trans known

/-- What several callers share who only ask for texts. -/
structure Shared (n : Interning) (events : List Event) : Prop where
  /-- At no time is anything that is known replaced or forgotten. -/
  kept : ∀ {first later : List Event}, first <+: later → later <+: events →
    ∀ {text : String} {id : FilterId}, ((start n).after first).get? text = some id →
      ((start n).after later).get? text = some id
  /-- All who ask for a text and are given a filter are given the same one. -/
  same : ∀ {j k : Nat} {call call' : Call} {text : String} {id id' : FilterId},
    call.Asks text → call'.Asks text →
      ((start n).after events).callers[j]? = some ⟨call, .returned (some id)⟩ →
      ((start n).after events).callers[k]? = some ⟨call', .returned (some id')⟩ → id = id'
  /-- When all have returned, the texts are those from before and those that were asked for. -/
  texts : (∀ c ∈ ((start n).after events).callers, c.stage.result? ≠ none) → ∀ text,
    ((start n).after events).get? text ≠ none ↔
      n.registry.get? text ≠ none ∨ blank text = false ∧ .arrive (.ofText text) ∈ events

theorem Plain.get?_of_returned (plain : Plain events) {k : Nat} {call : Call}
    (asks : call.Asks text)
    (returned : ((start n).after events).callers[k]? = some ⟨call, .returned (some id)⟩) :
    ((start n).after events).get? text = some id := by
  obtain ⟨first, e, rest, rfl, gives⟩ := exists_gives returned asks
  have split : first ++ e :: rest = (first ++ [e]) ++ rest := by simp
  rw [split] at plain ⊢
  refine plain.get?_after ?_
  rw [after_append]
  exact gives.known

theorem Plain.shared (plain : Plain events) : Shared n events where
  kept := by
    rintro first later ⟨middle, rfl⟩ part text id known
    exact (plain.of_prefix part).get?_after known
  same asks asks' returned returned' := by
    have known := plain.get?_of_returned asks returned
    have known' := plain.get?_of_returned asks' returned'
    exact Option.some.inj (known.symm.trans known')
  texts := by
    intro all text
    constructor
    · intro known
      obtain ⟨id, known⟩ := Option.ne_none_iff_exists'.mp known
      refine (plain.known_cases known).imp_left fun initial => ?_
      rw [initial]
      exact Option.some_ne_none id
    · rintro (initial | ⟨solid, asked⟩)
      · obtain ⟨id, initial⟩ := Option.ne_none_iff_exists'.mp initial
        have whole : Plain ([] ++ events) := plain
        have known : ((start n).after events).get? text = some id := whole.get?_after initial
        exact known ▸ Option.some_ne_none id
      · have came : Call.ofText text ∈ ((start n).after events).callers.map (·.call) := by
          rw [calls_after, mem_calls_iff]
          exact asked
        obtain ⟨⟨_, stage⟩, present, rfl⟩ := List.mem_map.mp came
        obtain ⟨k, there⟩ := List.mem_iff_getElem?.mp present
        have asking := asking_after there (.inl rfl)
        have finished := all _ present
        cases asking with
        | called | compiled => cases finished rfl
        | gave given =>
            obtain ⟨id, rfl⟩ := Option.ne_none_iff_exists'.mp (given solid)
            exact plain.get?_of_returned (.inl rfl) there ▸ Option.some_ne_none id

end Plain

/-- However the calls of any number of callers interleave, whoever asks for a text is given a filter
    that was known under it between the call and the return; two steps are enough for that. If all
    only ask for texts, then they all share one filter for each text. -/
theorem first_use_is_shared (n : Interning) (events : List Event) :
    (∀ {k : Nat} {call : Call} {text : String} {id : FilterId}, call.Asks text →
      ((start n).after events).callers[k]? = some ⟨call, .returned (some id)⟩ →
        ∃ first e rest, events = first ++ e :: rest ∧
          ((start n).after first).Gives e k call text id) ∧
    (∀ {k : Nat} {c : Caller} {text : String} {later : List Event}, blank text = false →
      ((start n).after events).callers[k]? = some c → c.call = .ofText text →
        2 ≤ later.countP (Event.isStepOf k) →
          ∃ id, ((start n).after (events ++ later)).callers[k]? =
            some ⟨.ofText text, .returned (some id)⟩) ∧
    (Plain events → Shared n events) := by
  refine ⟨fun asks returned => exists_gives returned asks, ?_, Plain.shared⟩
  intro k c text later solid present call enough
  have asking := asking_after present (.inl call)
  obtain ⟨result, returned, given⟩ :=
    returned_of_steps present asking (asking.remaining_le.trans enough)
  rw [call] at returned given
  cases given with
  | gave given =>
      obtain ⟨id, rfl⟩ := Option.ne_none_iff_exists'.mp (given solid)
      exact ⟨id, after_append _ events later ▸ returned⟩

/-- Two callers compile the filter of a text, and the one who came last is first to put it into
    place. -/
def overtaking : List Event :=
  [.arrive (.ofText "##a"), .arrive (.ofText "##a"), .step 0, .step 1, .step 1]

/-- The other one gets that filter too. -/
theorem first_use_is_shared_overtaken :
    (∃ first e rest, overtaking = first ++ e :: rest ∧
      ((start {}).after first).Gives e 1 (.ofText "##a") "##a" 0) ∧
    (∃ id, ((start {}).after (overtaking ++ [.step 0, .step 0])).callers[0]? =
      some ⟨.ofText "##a", .returned (some id)⟩) ∧
    Shared {} (overtaking ++ [.step 0]) := by
  have solid : blank "##a" = false := by decide +kernel
  have asks : (Call.ofText "##a").Asks "##a" := .inl rfl
  refine ⟨?_, ?_, ?_⟩
  · exact (first_use_is_shared {} overtaking).1 asks rfl
  · have waiting : ((start {}).after overtaking).callers[0]? =
        some ⟨.ofText "##a", .compiled (Registry.compile {} "##a")⟩ := rfl
    exact (first_use_is_shared {} overtaking).2.1 solid waiting rfl (by decide)
  · refine (first_use_is_shared {} (overtaking ++ [.step 0])).2.2 fun call member => ⟨"##a", ?_⟩
    have called : call = .ofText "##a" := by simpa [overtaking] using member
    exact called ▸ asks

end Race

end AdFilter
