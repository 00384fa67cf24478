import AdFilter.Proofs.Matcher.Deciding
import Mathlib.Data.List.Nodup

/-! # Each text once

A matcher knows the texts of the filters in it, each of them once, and it keeps the blocking filters
and the exceptions apart. This stays so whatever is called on it and whatever filters come into
being meanwhile, also if they have the text of another filter and are of another kind.
-/

namespace AdFilter

namespace Matcher

/-- What happens next to a matcher and the store of its filters. -/
inductive Event where
  | call (c : Call)
  /-- A new filter comes into being, which nobody has added yet. -/
  | make (f : Filter)

def Event.run (n : State) : Event → State
  | .call c => c.run n
  | .make f => { n with store := (n.store.add f).2 }

namespace State

def through (n : State) (events : List Event) : State :=
  events.foldl Event.run n

/-- The filter is about requests, and no filter in the matcher has its text. -/
def Lacks (n : State) (id : FilterId) : Prop :=
  (n.store.isOf Rule.isBlocking id ∨ n.store.isOf Rule.isException id) ∧
    ∀ i, n.matcher.Has i → n.store.text? i ≠ n.store.text? id

/-- No filter of the text is added. -/
def Omits (text : String) (n : State) : List Event → Prop
  | [] => True
  | e :: events =>
    (∀ id, e = .call (.add id) → n.store.text? id ≠ some text) ∧ (e.run n).Omits text events

def texts (n : State) : List (Option String) :=
  (n.matcher.blocking ++ n.matcher.exceptions).map n.store.text?

/-- The filters are of the kinds of their lists, and their texts are those that are known, each of
them once. -/
structure Consistent (n : State) : Prop where
  blocking : ∀ id ∈ n.matcher.blocking, n.store.isOf Rule.isBlocking id
  exceptions : ∀ id ∈ n.matcher.exceptions, n.store.isOf Rule.isException id
  different : n.texts.Nodup
  known : n.texts.Perm (n.matcher.known.map some)
  size : n.matcher.size = n.matcher.known.length

end State

/-- The matcher holds these filters, their texts are different, and no text is known twice. -/
structure Single (n : State) (ids : List FilterId) : Prop extends Holds n.store n ids where
  texts : (ids.map n.store.text?).Nodup
  once : n.matcher.known.Nodup

section Steps

variable {s : Store} {n : State} {ids : List FilterId}

theorem Holds.isOf_store (holds : Holds s n ids) : n.store.isOf = s.isOf := by
  funext kind id
  rw [Store.isOf, Store.isOf, holds.alike.rule]

/-- Since the filters stay the same, it makes no difference when they are looked up. -/
theorem Holds.own (holds : Holds s n ids) : Holds n.store n ids where
  alike := ⟨rfl, rfl⟩
  blocking := by rw [holds.isOf_store, holds.blocking]
  exceptions := by rw [holds.isOf_store, holds.exceptions]
  known := by simpa only [holds.alike.text] using holds.known
  kinds := by simpa only [holds.isOf_store] using holds.kinds

theorem Holds.stored (holds : Holds n.store n ids) {id : FilterId} (member : id ∈ ids) :
    ∃ f, n.store.get? id = some f := by
  cases present : n.store.get? id with
  | some f => exact ⟨f, rfl⟩
  | none =>
      have kind := holds.kinds id member
      simp [Store.isOf, Store.rule?, present] at kind

theorem Holds.make (holds : Holds n.store n ids) (f : Filter) :
    Holds (n.store.add f).2 { n with store := (n.store.add f).2 } ids ∧
      ∀ id ∈ ids, (n.store.add f).2.text? id = n.store.text? id := by
  have same : ∀ id ∈ ids, (n.store.add f).2.get? id = n.store.get? id := by
    intro id member
    obtain ⟨g, stored⟩ := holds.stored member
    rw [Store.get?_add_of_some stored, stored]
  have sameText : ∀ id ∈ ids, (n.store.add f).2.text? id = n.store.text? id := by
    intro id member
    rw [Store.text?, Store.text?, same id member]
  have sameKind : ∀ id ∈ ids, ∀ kind, (n.store.add f).2.isOf kind id = n.store.isOf kind id := by
    intro id member kind
    simp only [Store.isOf, Store.rule?, same id member]
  refine ⟨⟨⟨rfl, rfl⟩, ?_, ?_, ?_, ?_⟩, sameText⟩
  · apply holds.blocking.trans
    exact List.filter_congr fun id member => (sameKind id member _).symm
  · apply holds.exceptions.trans
    exact List.filter_congr fun id member => (sameKind id member _).symm
  · intro text
    apply (holds.known text).trans
    apply exists_congr
    intro id
    apply and_congr_right
    intro member
    rw [sameText id member]
  · intro id member
    rw [sameKind id member, sameKind id member]
    exact holds.kinds id member

theorem single_nothing (s : Store) : Single { store := s } [] where
  toHolds := holds_nothing s
  texts := List.nodup_nil
  once := List.nodup_nil

theorem Holds.not_known (holds : Holds n.store n ids) {text : String}
    (absent : ∀ id ∈ ids, n.store.text? id ≠ some text) : text ∉ n.matcher.known := by
  intro known
  obtain ⟨id, member, hasText⟩ := (holds.known text).mp known
  exact absent id member hasText

theorem Single.add (single : Single n ids) (id : FilterId) :
    (((Call.add id).keep n.store ids).map n.store.text?).Nodup ∧
      ((Call.add id).run n).matcher.known.Nodup := by
  rw [Call.keep, Call.run]
  rcases single.add_cases id with ⟨stale, result⟩ | ⟨text, fresh, hasText, added⟩
  · rw [if_neg stale, result]
    exact ⟨single.texts, single.once⟩
  · have new : text ∉ n.matcher.known := by
      apply single.not_known
      intro i member same
      exact fresh.2 i member (same.trans hasText.symm)
    have once : (text :: n.matcher.known).Nodup := List.nodup_cons.mpr ⟨new, single.once⟩
    have different : ((ids ++ [id]).map n.store.text?).Nodup := by
      rw [List.map_append, List.nodup_append]
      refine ⟨single.texts, by simp, ?_⟩
      simpa using fresh.2
    rw [if_pos fresh]
    refine ⟨different, ?_⟩
    rcases added with ⟨-, -, result⟩ | ⟨-, -, result⟩
    · rw [result]
      exact once
    · rw [result]
      exact once

theorem Single.remove (single : Single n ids) (text : String) :
    (((Call.remove text).keep n.store ids).map n.store.text?).Nodup ∧
      ((Call.remove text).run n).matcher.known.Nodup := by
  refine ⟨single.texts.sublist (List.filter_sublist.map _), ?_⟩
  show (n.matcher.remove n.store text).2.known.Nodup
  unfold Matcher.remove
  split
  · exact single.once.filter _
  · exact single.once

theorem Single.run (single : Single n ids) (e : Event) : ∃ ids', Single (e.run n) ids' := by
  cases e with
  | make f =>
      obtain ⟨holds, same⟩ := single.toHolds.make f
      refine ⟨ids, holds, ?_, single.once⟩
      show (ids.map (n.store.add f).2.text?).Nodup
      rw [List.map_congr_left same]
      exact single.texts
  | call c =>
      have holds := single.toHolds.run c
      suffices kept : ((c.keep n.store ids).map n.store.text?).Nodup ∧
          (c.run n).matcher.known.Nodup by
        rw [← holds.alike.text] at kept
        exact ⟨c.keep n.store ids, holds.own, kept.1, kept.2⟩
      cases c with
      | add id => exact single.add id
      | remove text => exact single.remove text
      | clear => exact ⟨List.nodup_nil, List.nodup_nil⟩
      | update id change => exact ⟨single.texts, single.once⟩

theorem Single.through (single : Single n ids) (events : List Event) :
    ∃ ids', Single (n.through events) ids' := by
  induction events generalizing n ids with
  | nil => exact ⟨ids, single⟩
  | cons e events ih =>
      obtain ⟨ids', next⟩ := single.run e
      exact ih next

theorem Holds.exceptions_eq (holds : Holds n.store n ids) :
    n.matcher.exceptions = ids.filter (!n.store.isOf Rule.isBlocking ·) := by
  rw [holds.exceptions]
  apply List.filter_congr
  intro id member
  obtain ⟨f, stored⟩ := holds.stored member
  have kind := holds.kinds id member
  rw [holds.isOf_eq stored, holds.isOf_eq stored] at *
  cases rule : f.rule <;> simp_all [Rule.isBlocking, Rule.isException]

theorem Holds.perm (holds : Holds n.store n ids) :
    (n.matcher.blocking ++ n.matcher.exceptions).Perm ids := by
  rw [holds.blocking, holds.exceptions_eq]
  exact List.filter_append_perm _ ids

theorem Single.consistent (single : Single n ids) : n.Consistent := by
  have different : n.texts.Nodup := (single.perm.map _).nodup_iff.mpr single.texts
  have known : n.texts.Perm (n.matcher.known.map some) := by
    apply (single.perm.map _).trans
    have once : (n.matcher.known.map some).Nodup := single.once.map fun _ _ => Option.some.inj
    rw [List.perm_ext_iff_of_nodup single.texts once]
    intro text
    rw [List.mem_map, List.mem_map]
    constructor
    · rintro ⟨id, member, rfl⟩
      obtain ⟨f, stored⟩ := single.stored member
      have hasText := single.text?_eq stored
      exact ⟨f.text, (single.known _).mpr ⟨id, member, hasText⟩, hasText.symm⟩
    · rintro ⟨text, known, rfl⟩
      exact (single.known text).mp known
  have size : n.matcher.size = n.matcher.known.length := by
    have sameLength := known.length_eq
    rwa [State.texts, List.length_map, List.length_append, List.length_map] at sameLength
  refine ⟨?_, ?_, different, known, size⟩
  · intro id member
    rw [single.blocking] at member
    exact (List.mem_filter.mp member).2
  · intro id member
    rw [single.exceptions] at member
    exact (List.mem_filter.mp member).2

theorem Holds.fresh_iff (holds : Holds n.store n ids) (id : FilterId) :
    Fresh n.store ids id ↔ n.Lacks id := by
  simp only [Fresh, State.Lacks, holds.has_iff]

theorem Holds.add_eq (holds : Holds n.store n ids) (id : FilterId) :
    ((n.matcher.add n.store id).1 = true ↔ n.Lacks id) ∧
    ((n.matcher.add n.store id).1 = false → (n.matcher.add n.store id).2 = n.matcher) ∧
    ((n.matcher.add n.store id).1 = true →
      ∀ i, (n.matcher.add n.store id).2.Has i ↔ n.matcher.Has i ∨ i = id) := by
  rw [← holds.fresh_iff]
  rcases holds.add_cases id with ⟨stale, result⟩ | ⟨text, fresh, -, ⟨-, -, result⟩ | ⟨-, -, result⟩⟩
  · simp [result, stale]
  · simp only [result, fresh, Has, List.mem_append, List.mem_singleton]
    simp [or_right_comm]
  · simp only [result, fresh, Has, List.mem_append, List.mem_singleton]
    simp [or_assoc]

theorem Holds.remove_eq (holds : Holds n.store n ids) (text : String) :
    ((n.matcher.remove n.store text).1 = true ↔
      ∃ id, n.matcher.Has id ∧ n.store.text? id = some text) ∧
    ((n.matcher.remove n.store text).1 = false → (n.matcher.remove n.store text).2 = n.matcher) := by
  simp only [holds.has_iff, ← holds.known, Matcher.remove, List.contains_iff_mem]
  split
  · rename_i known
    simp [known]
  · rename_i unknown
    simp [unknown]

theorem Holds.lists_remove (holds : Holds n.store n ids) (text : String) :
    (n.matcher.remove n.store text).2.blocking =
        n.matcher.blocking.filter (n.store.text? · != some text) ∧
      (n.matcher.remove n.store text).2.exceptions =
        n.matcher.exceptions.filter (n.store.text? · != some text) := by
  unfold Matcher.remove
  split
  · exact ⟨rfl, rfl⟩
  · rename_i unknown
    have absent : ∀ id, n.matcher.Has id → (n.store.text? id != some text) = true := by
      intro id has
      rw [bne_iff_ne]
      intro hasText
      apply unknown
      rw [List.contains_iff_mem, holds.known]
      exact ⟨id, (holds.has_iff id).mp has, hasText⟩
    constructor
    · exact (List.filter_eq_self.mpr fun id member => absent id (.inl member)).symm
    · exact (List.filter_eq_self.mpr fun id member => absent id (.inr member)).symm

theorem not_known_remove (n : State) (text : String) :
    text ∉ ((Call.remove text).run n).matcher.known := by
  show text ∉ (n.matcher.remove n.store text).2.known
  unfold Matcher.remove
  split
  · simp
  · rename_i unknown
    simpa using unknown

theorem Holds.not_known_run (holds : Holds n.store n ids) {text : String}
    (unknown : text ∉ n.matcher.known) {e : Event}
    (other : ∀ id, e = .call (.add id) → n.store.text? id ≠ some text) :
    text ∉ (e.run n).matcher.known := by
  cases e with
  | make f => exact unknown
  | call c =>
      cases c with
      | add id =>
          show text ∉ (n.matcher.add n.store id).2.known
          rcases holds.add_cases id with
            ⟨-, result⟩ | ⟨new, -, hasText, ⟨-, -, result⟩ | ⟨-, -, result⟩⟩
          · rw [result]
            exact unknown
          all_goals
            rw [result, List.mem_cons, not_or]
            refine ⟨?_, unknown⟩
            rintro rfl
            exact other id rfl hasText
      | remove text' =>
          show text ∉ (n.matcher.remove n.store text').2.known
          unfold Matcher.remove
          split
          · exact fun known => unknown (List.mem_filter.mp known).1
          · exact unknown
      | clear => exact List.not_mem_nil
      | update id change => exact unknown

theorem Single.not_known_through (single : Single n ids) {text : String}
    (unknown : text ∉ n.matcher.known) {events : List Event} (omits : n.Omits text events) :
    text ∉ (n.through events).matcher.known := by
  induction events generalizing n ids with
  | nil => exact unknown
  | cons e events ih =>
      obtain ⟨ids', next⟩ := single.run e
      exact ih next (single.not_known_run unknown omits.1) omits.2

theorem Holds.known_of_decide (holds : Holds n.store n ids) {q : Request} {id : FilterId}
    (decides : (n.decide q).filter? = some id) {text : String}
    (hasText : n.store.text? id = some text) : text ∈ n.matcher.known := by
  rw [holds.known]
  refine ⟨id, ?_, hasText⟩
  rcases holds.decide_cases q with
    ⟨i, decision, first⟩ | ⟨-, ⟨i, decision, first⟩ | ⟨decision, -⟩⟩
  · obtain ⟨front, back, rfl, -⟩ := first
    rw [decision, Decision.filter?] at decides
    cases decides
    simp
  · obtain ⟨front, back, rfl, -⟩ := first
    rw [decision, Decision.filter?] at decides
    cases decides
    simp
  · rw [decision] at decides
    cases decides

end Steps

/-- Whatever is called on a new matcher and whatever filters come into being meanwhile, each list holds
    filters of its kind only, and the texts of the filters in it are those that are known, each of
    them once. A filter is added if and only if it is about requests and its text is not there.
    Taking out a text that is there leaves all other filters in their order; from then on no filter
    of the text decides a request until one is added again, and any one that is about requests can
    be. -/
theorem each_text_once (s : Store) (events : List Event) :
    let n := State.through { store := s } events
    n.Consistent ∧
    (∀ id, ((n.matcher.add n.store id).1 = true ↔ n.Lacks id) ∧
      ((n.matcher.add n.store id).1 = false → (n.matcher.add n.store id).2 = n.matcher) ∧
      ((n.matcher.add n.store id).1 = true →
        ∀ i, (n.matcher.add n.store id).2.Has i ↔ n.matcher.Has i ∨ i = id)) ∧
    ∀ text, let n' := (Call.remove text).run n
      (((n.matcher.remove n.store text).1 = true ↔
        ∃ id, n.matcher.Has id ∧ n.store.text? id = some text) ∧
        ((n.matcher.remove n.store text).1 = false → n' = n)) ∧
      (n'.matcher.blocking = n.matcher.blocking.filter (n.store.text? · != some text) ∧
        n'.matcher.exceptions = n.matcher.exceptions.filter (n.store.text? · != some text)) ∧
      (∀ later, n'.Omits text later → ∀ q id, ((n'.through later).decide q).filter? = some id →
        (n'.through later).store.text? id ≠ some text) ∧
      ∀ id, n.store.text? id = some text →
        (n.store.isOf Rule.isBlocking id ∨ n.store.isOf Rule.isException id) →
          (n'.matcher.add n'.store id).1 = true := by
  intro n
  obtain ⟨ids, single⟩ := (single_nothing s).through events
  have holds : Holds n.store n ids := single.toHolds
  refine ⟨single.consistent, holds.add_eq, ?_⟩
  intro text n'
  obtain ⟨ids', single'⟩ : ∃ ids', Single n' ids' := single.run (.call (.remove text))
  have unknown : text ∉ n'.matcher.known := not_known_remove n text
  obtain ⟨removed, unchanged⟩ := holds.remove_eq text
  refine ⟨⟨removed, ?_⟩, holds.lists_remove text, ?_, ?_⟩
  · intro missing
    show State.mk (n.matcher.remove n.store text).2 n.store = n
    rw [unchanged missing]
  · intro later omits q id decides hasText
    obtain ⟨ids'', single''⟩ := single'.through later
    apply single'.not_known_through unknown omits
    exact single''.known_of_decide decides hasText
  · intro id hasText kind
    have lacks : n'.Lacks id := by
      refine ⟨kind, ?_⟩
      intro i has same
      apply unknown
      exact (single'.known text).mpr ⟨i, (single'.has_iff i).mp has, same.trans hasText⟩
    exact (single'.add_eq id).1.mpr lacks

/-- A record makes an exception of the text that a blocking filter has. The matcher holds on to the
    one that came first until the text is taken out, and then it takes the other one. -/
theorem each_text_once_other_kind :
    let s := ((Interning.start .lenient).after [.ofText "ads"]).store
    let r : Record := .ofList [("text", "ads"), ("regexp", "x"), ("type", "whitelist")]
    let n := State.through { store := s }
      (.call (.add 0) :: (r.given? formatVersion).toList.map .make)
    let n' := (Call.remove "ads").run n
    let off : Event := .call (.update 0 ({ · with disabled := true }))
    (∀ i, (Matcher.add {} s 0).2.Has i ↔ Matcher.Has {} i ∨ i = 0) ∧
      (n.matcher.add n.store 1).2 = n.matcher ∧ (Call.remove "x").run n = n ∧
      n'.Omits "ads" [off] ∧
      (∀ q id, ((n'.through [off]).decide q).filter? = some id →
        (n'.through [off]).store.text? id ≠ some "ads") ∧
      n.store.isOf Rule.isException 1 = true ∧ (n'.matcher.add n'.store 1).1 = true := by
  intro s r n n' off
  obtain ⟨-, first, -⟩ := each_text_once s []
  obtain ⟨-, adds, removes⟩ := each_text_once s
    (.call (.add 0) :: (r.given? formatVersion).toList.map .make)
  obtain ⟨-, -, gone, again⟩ := removes "ads"
  have taken : (Matcher.add {} s 0).1 = true := by
    decide +kernel
  have refused : (n.matcher.add n.store 1).1 = false := by
    decide +kernel
  have missing : (n.matcher.remove n.store "x").1 = false := by
    decide +kernel
  have omits : n'.Omits "ads" [off] := ⟨fun _ same => (nomatch Event.call.inj same), trivial⟩
  have hasText : n.store.text? 1 = some "ads" := by
    decide +kernel
  have exception : n.store.isOf Rule.isException 1 = true := by
    decide +kernel
  exact ⟨(first 0).2.2 taken, (adds 1).2.1 refused, (removes "x").1.2 missing, omits,
    gone [off] omits, exception, again 1 hasText (.inr exception)⟩

end Matcher

end AdFilter
