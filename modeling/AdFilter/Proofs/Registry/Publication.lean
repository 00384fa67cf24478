import AdFilter.Proofs.Registry.Activity
import AdFilter.Proofs.Registry.Visiting

/-! # A restored filter that is found before it is settled

A record that gives a filter puts it into place as a new filter, switched on and never hit. Only
then are the fields of the record set, one by one, and in between the filter can be found. Whoever
finds it before its switch is set can find it on although the record says off, and the hits that are
counted before its counter is set are overwritten.
-/

namespace AdFilter

namespace Record

theorem disabled_setDisabled (r : Record) (a : Activity) : (r.setDisabled a).disabled =
    if r.get? "disabled" = none then a.disabled else r.activity.disabled := by
  unfold setDisabled OrderedMap.contains
  cases r.get? "disabled" <;> rfl

theorem hits_setHits (r : Record) (a : Activity) : (r.setHits a).hits =
    if r.get? "hitCount" = none then a.hits else r.activity.hits := by
  unfold setHits OrderedMap.contains
  cases r.get? "hitCount" <;> rfl

theorem hits_setDisabled (r : Record) (a : Activity) : (r.setDisabled a).hits = a.hits := by
  unfold setDisabled
  split <;> rfl

theorem disabled_setHits (r : Record) (a : Activity) :
    (r.setHits a).disabled = a.disabled := by
  unfold setHits
  split <;> rfl

theorem setLastHit_eq (r : Record) (a : Activity) :
    r.setLastHit a = { a with lastHit := (r.setLastHit a).lastHit } := by
  unfold setLastHit
  split <;> rfl

end Record

/-- The stage of a caller who has these changes of the filter left. -/
inductive Stage.Left (id : FilterId) : List (Activity → Activity) → Stage → Prop where
  | settling (changes : List (Activity → Activity)) : Left id changes (.settling id changes)
  | returned (result : Option FilterId) : Left id [] (.returned result)

theorem Stage.Left.step {c : Caller} {id : FilterId} {left : List (Activity → Activity)}
    (rest : c.stage.Left id left) (n : Interning) :
    (c.step n).1.stage.Left id left.tail ∧ (c.step n).2.registry = n.registry ∧
      c.changeOn id = left.headD (fun a => a) ∧ c.countsOn id = false := by
  obtain ⟨call, stage⟩ := c
  cases rest with
  | settling =>
      cases left with
      | nil => exact ⟨.returned _, rfl, rfl, rfl⟩
      | cons change left =>
          refine ⟨.settling left, rfl, ?_, rfl⟩
          funext a
          exact if_pos rfl
  | returned result => exact ⟨.returned result, rfl, rfl, rfl⟩

namespace Race

variable {s : Race} {e : Event} {events : List Event} {k : Nat} {text : String} {id : FilterId}
  {left : List (Activity → Activity)} {a : Activity}

/-- The filter of a record is in place, and these changes of it are left to the caller who restores
    it. -/
structure Settling (s : Race) (k : Nat) (text : String) (id : FilterId)
    (left : List (Activity → Activity)) (a : Activity) : Prop where
  caller : ∃ c, s.callers[k]? = some c ∧ c.stage.Left id left
  known : s.get? text = some id
  activity : s.activity? id = some a

/-- What an event makes of a filter while the others only visit. -/
inductive Effect (s : Race) (k : Nat) (id : FilterId) (a : Activity) (e : Event) :
    Activity → Prop where
  | kept : s.countsOn id e = false → Effect s k id a e a
  | switched (disabled : Bool) : s.Comes k [] (.switch id disabled) → s.countsOn id e = false →
      Effect s k id a e { a with disabled }
  | hit (time : UInt64) : s.countsOn id e = true → Effect s k id a e (a.hit time)

theorem Effect.hits {b : Activity} (effect : s.Effect k id a e b) :
    b.hits = a.hits + .ofNat (s.countsOn id e).toNat := by
  cases effect with
  | kept noHit => simp [noHit]
  | switched disabled comes noHit => simp [noHit]
  | hit time hit => simp [hit, Activity.hit]

theorem Effect.disabled {b : Activity} (effect : s.Effect k id a e b)
    (unswitched : ¬ s.Comes k (e :: events) (.switch id (!a.disabled))) :
    b.disabled = a.disabled := by
  cases effect with
  | kept | hit => rfl
  | switched disabled comes =>
      by_contra turned
      obtain rfl : disabled = !a.disabled := Bool.eq_not.mpr turned
      exact unswitched (comes.imp_right fun none => absurd none List.not_mem_nil)

theorem Settling.settle (settling : s.Settling k text id left a) :
    ((Event.step k).run s).Settling k text id left.tail (left.headD (fun a => a) a) ∧
      s.countsOn id (.step k) = false := by
  obtain ⟨c, present, rest⟩ := settling.caller
  obtain ⟨next, registry, change, noHit⟩ := rest.step s.interning
  have ran := Event.run_step present
  have moved := caller_run (e := .step k) present
  rw [Event.isStepOf_self, if_pos rfl] at moved
  refine ⟨⟨⟨_, moved, next⟩, ?_, ?_⟩, ?_⟩
  · rw [get?, ran, registry]
    exact settling.known
  · rw [activity?, ran, ← change]
    exact c.activity?_step settling.activity
  · simp [countsOn, present, noHit]

theorem Settling.visit (settling : s.Settling k text id left a)
    (visited : s.Visited k (e :: events)) (other : e.isStepOf k = false) :
    ∃ a', (e.run s).Settling k text id left a' ∧ s.Effect k id a e a' := by
  obtain ⟨c, present, rest⟩ := settling.caller
  have stayed : (e.run s).callers[k]? = some c := by
    rw [caller_run present, other, if_neg Bool.false_ne_true]
  cases e with
  | arrive call =>
      exact ⟨a, ⟨⟨c, stayed, rest⟩, settling.known, settling.activity⟩, .kept rfl⟩
  | step j =>
      cases there : s.callers[j]? with
      | none =>
          have same := Event.run_step_of_none there
          refine ⟨a, ?_, .kept (by simp [countsOn, there])⟩
          rw [same]
          exact settling
      | some c' =>
          have visiting := visited.callers (ne_of_beq_false other) there
          have ran := Event.run_step there
          have counted : s.countsOn id (.step j) = c'.countsOn id := by
            simp [countsOn, there]
          refine ⟨c'.changeOn id a, ⟨⟨c, stayed, rest⟩, ?_, ?_⟩, ?_⟩
          · rw [get?, ran]
            exact visiting.get?_step settling.known
          · rw [activity?, ran]
            exact c'.activity?_step settling.activity
          · rcases visiting.changeOn_cases id a with
              ⟨same, noHit⟩ | ⟨disabled, called, switched, noHit⟩ | ⟨time, counts, hit⟩
            · rw [same]
              exact .kept (counted.trans noHit)
            · rw [switched]
              have comes : s.Comes k [] (.switch id disabled) :=
                .inl ⟨j, c', ne_of_beq_false other, there, called⟩
              exact .switched disabled comes (counted.trans noHit)
            · rw [counts]
              exact .hit time (counted.trans hit)

/-- None of the changes concerns what is observed. -/
def Spares {α : Type} (observe : Activity → α) (changes : List (Activity → Activity)) : Prop :=
  ∀ change ∈ changes, ∀ a, observe (change a) = observe a

theorem spares_hits (r : Record) : Spares (·.hits) [r.setDisabled] ∧
    Spares (·.hits) [r.setLastHit] := by
  simp only [Spares, List.forall_mem_singleton]
  exact ⟨r.hits_setDisabled, fun a => by rw [r.setLastHit_eq]⟩

theorem spares_disabled (r : Record) : Spares (·.disabled) [r.setHits, r.setLastHit] := by
  simp only [Spares, List.forall_mem_cons]
  exact ⟨r.disabled_setHits, fun a => by rw [r.setLastHit_eq], by simp⟩

theorem Spares.of_take {α : Type} {observe : Activity → α}
    (spares : Spares observe left) (steps : Nat) : Spares observe (left.take steps) :=
  fun change member => spares change (List.mem_of_mem_take member)

theorem Spares.head_tail {α : Type} {observe : Activity → α} {steps : Nat}
    (spares : Spares observe (left.take (steps + 1))) :
    (∀ a, observe (left.headD (fun a => a) a) = observe a) ∧
      Spares observe (left.tail.take steps) := by
  cases left with
  | nil => exact ⟨fun _ => rfl, by simp [Spares]⟩
  | cons change left =>
      rw [List.take_succ_cons] at spares
      exact List.forall_mem_cons.mp spares

/-- As the others only visit, the counter of a filter that is being settled goes up by the hits, and
    its switch stays as it is if nobody switches it the other way, unless a change that is left sets
    them. -/
theorem Settling.after (settling : s.Settling k text id left a) (visited : s.Visited k events) :
    ∃ a', (s.after events).Settling k text id (left.drop (events.countP (Event.isStepOf k))) a' ∧
      (Spares (·.hits) (left.take (events.countP (Event.isStepOf k))) →
        a'.hits = a.hits + .ofNat (s.hitCount id events)) ∧
      (Spares (·.disabled) (left.take (events.countP (Event.isStepOf k))) →
        ¬ s.Comes k events (.switch id (!a.disabled)) → a'.disabled = a.disabled) := by
  induction events generalizing s left a with
  | nil => exact ⟨a, settling, fun _ => by simp [hitCount], fun _ _ => rfl⟩
  | cons e events ih =>
      cases own : e.isStepOf k with
      | true =>
          obtain rfl := Event.eq_step_of_isStepOf own
          obtain ⟨settled, noHit⟩ := settling.settle
          obtain ⟨a', settling', counted, switched⟩ := ih settled visited.run
          rw [List.countP_cons_of_pos own]
          refine ⟨a', ?_, fun spares => ?_, fun spares unswitched => ?_⟩
          · rw [← List.drop_tail]
            exact settling'
          · obtain ⟨head, tail⟩ := spares.head_tail
            rw [counted tail, head, hitCount, noHit, Bool.toNat_false, Nat.zero_add]
          · obtain ⟨head, tail⟩ := spares.head_tail
            rw [head] at switched
            exact switched tail fun comes => unswitched comes.of_run
      | false =>
          obtain ⟨b, settled, effect⟩ := settling.visit visited own
          obtain ⟨a', settling', counted, switched⟩ := ih settled visited.run
          rw [List.countP_cons_of_neg (own ▸ Bool.false_ne_true)]
          refine ⟨a', settling', fun spares => ?_, fun spares unswitched => ?_⟩
          · rw [counted spares, effect.hits, hitCount, UInt64.ofNat_add, UInt64.add_assoc]
          · have kept := effect.disabled unswitched
            rw [kept] at switched
            exact switched spares fun comes => unswitched comes.of_run

/-- The filter of a record while it is being settled and the others only visit. -/
structure Published (s : Race) (k : Nat) (r : Record) (text : String) (id : FilterId) : Prop where
  /-- Whoever looks its text up finds it. -/
  known : ∀ {events : List Event}, s.Visited k events → (s.after events).get? text = some id
  /-- Before its switch is set it is on, unless somebody switches it off. -/
  enabled : ∀ {events : List Event}, s.Visited k events →
    events.countP (Event.isStepOf k) = 0 → ¬ s.Comes k events (.switch id true) →
      ∃ a, (s.after events).activity? id = some a ∧ a.disabled = false
  /-- Then it is as the record says, unless somebody switches it. -/
  settled : ∀ {events : List Event}, s.Visited k events →
    0 < events.countP (Event.isStepOf k) →
      ¬ s.Comes k events (.switch id (!r.activity.disabled)) →
        ∃ a, (s.after events).activity? id = some a ∧ a.disabled = r.activity.disabled
  /-- The counter of the record overwrites the hits that were counted before it was set, so it is
  only without such hits that all hits are counted on top of it. -/
  hits : ∀ {early late : List Event}, s.Visited k (early ++ .step k :: late) →
    early.countP (Event.isStepOf k) = 1 →
      ∃ a, (s.after (early ++ .step k :: late)).activity? id = some a ∧
        a.hits = (if r.get? "hitCount" = none then .ofNat (s.hitCount id early)
          else r.activity.hits) + .ofNat ((s.after (early ++ [.step k])).hitCount id late) ∧
        (a.hits = r.activity.hits + .ofNat (s.hitCount id (early ++ .step k :: late)) ↔
          r.get? "hitCount" = none ∨ UInt64.ofNat (s.hitCount id early) = 0)

theorem settling_of_given {version : Nat} {r : Record} {f : Filter}
    (waiting : s.callers[k]? = some { call := .ofRecord version r })
    (given : r.given? version = some f) (active : f.rule.isActive = true) :
    ((Event.step k).run s).Settling k f.text (s.interning.replace f).1
      [r.setDisabled, r.setHits, r.setLastHit] {} := by
  have begun : (Call.ofRecord version r).begin s.interning =
      (.settling (s.interning.replace f).1 [r.setDisabled, r.setHits, r.setLastHit],
        (s.interning.replace f).2) := by
    simp only [Call.begin, given, Call.found]
  have ran := Event.run_step waiting
  have moved := caller_run (e := .step k) waiting
  rw [Event.isStepOf_self, if_pos rfl] at moved
  refine ⟨⟨_, moved, ?_⟩, ?_, ?_⟩
  · show ((Call.ofRecord version r).begin s.interning).1.Left _ _
    rw [begun]
    exact .settling _
  · rw [get?, ran]
    show ((Call.ofRecord version r).begin s.interning).2.registry.get? f.text = _
    rw [begun, Interning.get?_replace, if_pos rfl]
  · rw [activity?, ran]
    show ((Call.ofRecord version r).begin s.interning).2.store.activity? _ = _
    rw [begun]
    show ((s.interning.store.add f).2.get? (s.interning.store.add f).1).bind (·.activity?) = _
    rw [Store.get?_add_self, Option.bind_some, Filter.activity?, if_pos active,
      (Record.gives_of_given? given).activity]

section Restored

variable {r : Record}

theorem Settling.disabled_eq
    (settling : s.Settling k text id [r.setDisabled, r.setHits, r.setLastHit] {})
    (visited : s.Visited k events) (stepped : 0 < events.countP (Event.isStepOf k))
    (unswitched : ¬ s.Comes k events (.switch id (!r.activity.disabled))) :
    ∃ a, (s.after events).activity? id = some a ∧ a.disabled = r.activity.disabled := by
  obtain ⟨early, late, rfl, quiet⟩ := Event.exists_first_step stepped
  obtain ⟨a, waiting, -, keptEarly⟩ := settling.after visited.of_append
  rw [quiet] at waiting keptEarly
  obtain ⟨settled, -⟩ := waiting.settle
  obtain ⟨b, done, -, keptLate⟩ := settled.after visited.after.run
  have set : (r.setDisabled a).disabled = r.activity.disabled := by
    rw [r.disabled_setDisabled]
    split
    · rename_i missing
      have default := r.settles_activity.disabled missing
      rw [default] at unswitched ⊢
      exact keptEarly (by simp [Spares]) fun comes =>
        unswitched (comes.imp_right (List.mem_append_left _))
    · rfl
  refine ⟨b, ?_, ?_⟩
  · rw [after_append]
    exact done.activity
  · rw [← set] at unswitched ⊢
    exact keptLate ((spares_disabled r).of_take _) fun comes => unswitched comes.of_run.of_after

theorem Settling.hits_eq
    (settling : s.Settling k text id [r.setDisabled, r.setHits, r.setLastHit] {})
    {early late : List Event} (visited : s.Visited k (early ++ .step k :: late))
    (once : early.countP (Event.isStepOf k) = 1) :
    ∃ a, (s.after (early ++ .step k :: late)).activity? id = some a ∧
      a.hits = (if r.get? "hitCount" = none then .ofNat (s.hitCount id early)
        else r.activity.hits) + .ofNat ((s.after (early ++ [.step k])).hitCount id late) ∧
      s.hitCount id (early ++ .step k :: late) =
        s.hitCount id early + (s.after (early ++ [.step k])).hitCount id late := by
  obtain ⟨a, waiting, countedEarly, -⟩ := settling.after visited.of_append
  rw [once] at waiting countedEarly
  obtain ⟨settled, noHit⟩ := waiting.settle
  obtain ⟨b, done, countedLate, -⟩ := settled.after visited.after.run
  have before : a.hits = .ofNat (s.hitCount id early) := by
    rw [countedEarly (spares_hits r).1, UInt64.zero_add]
  have set : b.hits = (r.setHits a).hits + _ := countedLate ((spares_hits r).2.of_take _)
  have next : s.after (early ++ [.step k]) = (Event.step k).run (s.after early) :=
    after_append s early [.step k]
  refine ⟨b, ?_, ?_, ?_⟩
  · rw [after_append]
    exact done.activity
  · rw [set, r.hits_setHits, before, next]
  · rw [hitCount_append, hitCount, noHit, Bool.toNat_false, Nat.zero_add, next]

/-- The early hits are counted on top of the record only if the record leaves the counter as it
    is. -/
theorem hits_eq_add_iff (r : Record) (early late : Nat) :
    (if r.get? "hitCount" = none then .ofNat early else r.activity.hits) + UInt64.ofNat late =
        r.activity.hits + .ofNat (early + late) ↔
      r.get? "hitCount" = none ∨ UInt64.ofNat early = 0 := by
  rw [UInt64.ofNat_add]
  split
  · rename_i missing
    simp [missing, r.settles_activity.hits missing]
  · rename_i present
    rw [← UInt64.add_assoc, UInt64.add_left_inj, eq_comm, UInt64.add_eq_left]
    simp [present]

theorem Settling.published
    (settling : s.Settling k text id [r.setDisabled, r.setHits, r.setLastHit] {}) :
    s.Published k r text id where
  known visited := by
    obtain ⟨a, settling, -, -⟩ := settling.after visited
    exact settling.known
  enabled visited quiet unswitched := by
    obtain ⟨a, settling, -, kept⟩ := settling.after visited
    rw [quiet] at kept
    exact ⟨a, settling.activity, kept (by simp [Spares]) unswitched⟩
  settled visited stepped unswitched := settling.disabled_eq visited stepped unswitched
  hits visited once := by
    obtain ⟨a, stored, hits, total⟩ := settling.hits_eq visited once
    refine ⟨a, stored, hits, ?_⟩
    rw [hits, total]
    exact hits_eq_add_iff r _ _

end Restored

/-- The filter of a record that gives one is found from the first step on, and is settled only
    then. -/
theorem restored_filter_is_settled_late {version : Nat} {r : Record} {f : Filter}
    (waiting : s.callers[k]? = some { call := .ofRecord version r })
    (given : r.given? version = some f) (active : f.rule.isActive = true) :
    ((Event.step k).run s).Published k r f.text (s.interning.replace f).1 :=
  (settling_of_given waiting given active).published

/-- A filter that was switched off after five hits. -/
def hitRecord : Record :=
  .ofList [("text", "##a"), ("disabled", "true"), ("hitCount", "5"), ("selector", "a"),
    ("type", "elemhide")]

/-- While that filter is restored it is found and it is on, and a hit that is counted on it then is
    lost. -/
theorem restored_filter_is_settled_late_hit :
    let s := (start {}).after [.arrive (.ofRecord formatVersion hitRecord), .step 0]
    let found := [.arrive (.get "##a"), .step 1]
    let early := found ++ [.arrive (.hit 0 7), .step 2, .step 0]
    let late := [.step 0, .step 0]
    hitRecord.activity.disabled = true ∧ hitRecord.activity.hits = 5 ∧
      (s.after found).get? "##a" = some 0 ∧
      (∃ a, (s.after found).activity? 0 = some a ∧ a.disabled = false) ∧
      s.hitCount 0 (early ++ .step 0 :: late) = 1 ∧
      ∃ a, (s.after (early ++ .step 0 :: late)).activity? 0 = some a ∧ a.hits = 5 := by
  intro s found early late
  have gives : (hitRecord.given? formatVersion).any
      (fun f => f.rule.isActive && f.text == "##a") = true := by
    decide +kernel
  obtain ⟨f, given, gives⟩ := (Option.any_eq_true _ _).mp gives
  obtain ⟨active, text⟩ := Bool.and_eq_true_iff.mp gives
  have waiting : ((start {}).after [.arrive (.ofRecord formatVersion hitRecord)]).callers[0]? =
      some { call := .ofRecord formatVersion hitRecord } := rfl
  have published : s.Published 0 hitRecord "##a" 0 :=
    eq_of_beq text ▸ restored_filter_is_settled_late waiting given active
  have only : s.callers.length = 1 := rfl
  refine ⟨by decide, by decide, ?_, ?_, by decide +kernel, ?_⟩
  · refine published.known (visited_of_only only ?_)
    simp [found, Call.Visits.get]
  · refine published.enabled (visited_of_only only ?_) rfl fun comes => ?_
    · simp [found, Call.Visits.get]
    · simpa [found, Call.switch] using comes.arrives_of_only only
  · have visited : s.Visited 0 (early ++ .step 0 :: late) := by
      refine visited_of_only only ?_
      simp [early, found, late, Call.Visits.get, Call.Visits.hit]
    have overwritten : (if hitRecord.get? "hitCount" = none then .ofNat (s.hitCount 0 early)
        else hitRecord.activity.hits) +
          UInt64.ofNat ((s.after (early ++ [.step 0])).hitCount 0 late) = 5 := by
      decide +kernel
    obtain ⟨a, stored, hits, -⟩ := published.hits visited rfl
    exact ⟨a, stored, hits.trans overwritten⟩

end Race

end AdFilter
