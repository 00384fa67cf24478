import AdFilter.Proofs.HideSet.Keys
import Mathlib.Data.List.Induction
import Mathlib.Logic.Function.Basic

/-! # Hide sets that share filters

A filter carries one key, whatever the number of sets that it is a member of. A set never changes
the members or the keys of another one, but it can change the key that a member of the other one
carries; the other one then takes out its member without the key under which it knows it.
-/

namespace AdFilter

namespace HideSet

/-- The members of the text carry keys that lead to them. -/
def Releases (h : HideSet) (s : Store) (text : String) : Prop :=
  ∀ id ∈ h.members, s.text? id = some text → ∃ key, s.key? id = some key ∧ h.byKey? key = some id

/-- No key leads to a filter that was a member of the text. -/
def Forgets (h h' : HideSet) (s : Store) (text : String) : Prop :=
  ∀ id ∈ h.members, s.text? id = some text → ∀ key, h'.byKey? key ≠ some id

section Alone

variable {h : HideSet} {s : Store} {id : FilterId} {text : String}

theorem listed_empty (s : Store) : Listed {} s where
  toNamed := named_empty s
  leads := by simp [byKey?]
  once := by simp [byKey?]

theorem Listed.add (listed : h.Listed s) (id : FilterId) :
    Listed (h.add s id).2.1 (h.add s id).2.2 := by
  have named := listed.toNamed.add id
  rcases listed.add_cases id with ⟨-, result⟩ | ⟨f, key, takes, search, result⟩
  · rw [result]
    exact listed
  · rw [result] at named ⊢
    have free : h.byKey? key = none := get?_of_freeKey? search
    have bare : ∀ k, h.byKey? k ≠ some id :=
      fun k found => takes.not_mem ((listed.leads id).mpr ⟨k, found⟩)
    have lookup (k : String) :
        byKey? ⟨h.members ++ [id], f.text :: h.known, h.keys.insert key id⟩ k =
          if k = key then some id else h.byKey? k :=
      OrderedMap.get?_insert _ _ _ _
    refine ⟨named, ?_, ?_⟩
    · intro i
      simp only [lookup, List.mem_append, List.mem_singleton, listed.leads]
      constructor
      · rintro (⟨k, found⟩ | rfl)
        · refine ⟨k, ?_⟩
          rw [if_neg, found]
          rintro rfl
          cases free.symm.trans found
        · exact ⟨key, if_pos rfl⟩
      · rintro ⟨k, found⟩
        split at found
        · exact .inr (Option.some.inj found).symm
        · exact .inl ⟨k, found⟩
    · intro k k' i found found'
      simp only [lookup] at found found'
      -- No key led to the new member before, so its new key is the only one.
      split at found <;> split at found'
      · rename_i isKey isKey'
        rw [isKey, isKey']
      · cases found
        exact absurd found' (bare k')
      · cases found'
        exact absurd found (bare k)
      · exact listed.once found found'

theorem get?_keysWithout (h : HideSet) (s : Store) (id : FilterId) (key : String) :
    (h.keysWithout s id).get? key = if s.key? id = some key then none else h.byKey? key := by
  unfold keysWithout
  cases s.key? id with
  | none => simp [byKey?]
  | some carried => simp [byKey?, eq_comm]

theorem Listed.remove (listed : h.Listed s) (releases : h.Releases s text) :
    Listed (h.remove s text).2.1 (h.remove s text).2.2 := by
  have named := listed.toNamed.remove text
  rcases h.remove_cases s text with ⟨-, result⟩ | ⟨id, member, hasText, result⟩
  · rw [result]
    exact listed
  · obtain ⟨key, carried, found⟩ := releases id member hasText
    rw [result] at named ⊢
    have kept (k : String) :
        (h.keysWithout s id).get? k = if key = k then none else h.byKey? k := by
      simp [get?_keysWithout, carried]
    refine ⟨named, ?_, ?_⟩
    · intro i
      rw [listed.nodup.mem_erase_iff, listed.leads]
      simp only [byKey?, kept]
      constructor
      · rintro ⟨other, k, leads⟩
        refine ⟨k, ?_⟩
        rw [if_neg]
        · exact leads
        · rintro rfl
          exact other (Option.some.inj (leads.symm.trans found))
      · rintro ⟨k, leads⟩
        split at leads
        · cases leads
        · rename_i other
          refine ⟨?_, k, leads⟩
          rintro rfl
          exact other (listed.once found leads)
    · intro k k' i leads leads'
      simp only [byKey?, kept] at leads leads'
      split at leads <;> split at leads'
      · cases leads
      · cases leads
      · cases leads'
      · exact listed.once leads leads'

theorem Listed.forgets (listed : h.Listed s)
    (after : Listed (h.remove s text).2.1 (h.remove s text).2.2) :
    h.Forgets (h.remove s text).2.1 s text := by
  intro i member hasText key leads
  rcases h.remove_cases s text with ⟨missing, -⟩ | ⟨id, member', hasText', result⟩
  · exact missing i member hasText
  · have same := listed.eq_of_text member member' (hasText.trans hasText'.symm)
    have stays := (after.leads i).mpr ⟨key, leads⟩
    rw [result] at stays
    exact (listed.nodup.mem_erase_iff.mp stays).1 same

theorem Listed.releases (listed : h.Listed s)
    (forgets : h.Forgets (h.remove s text).2.1 s text) : h.Releases s text := by
  intro i member hasText
  rcases h.remove_cases s text with ⟨missing, -⟩ | ⟨id, member', hasText', result⟩
  · exact absurd hasText (missing i member)
  · obtain rfl := listed.eq_of_text member member' (hasText.trans hasText'.symm)
    obtain ⟨key, leads⟩ := (listed.leads i).mp member
    -- The key that leads to the filter is gone, so it was the one that the filter carried.
    have gone := forgets i member hasText key
    rw [result, byKey?, get?_keysWithout] at gone
    split at gone
    · exact ⟨key, ‹_›, leads⟩
    · exact absurd leads gone

theorem Listed.of_text? {s' : Store} (listed : h.Listed s) (same : s'.text? = s.text?) :
    h.Listed s' where
  toNamed := listed.toNamed.of_text? same
  leads := listed.leads
  once := listed.once

end Alone

section Calls

variable {n : State} {id : FilterId}

/-- Each member carries a key that leads to it. -/
def Carries (h : HideSet) (s : Store) : Prop :=
  ∀ id ∈ h.members, ∃ key, s.key? id = some key ∧ h.byKey? key = some id

theorem Carries.releases {h : HideSet} {s : Store} (carries : h.Carries s) (text : String) :
    h.Releases s text :=
  fun id member _ => carries id member

theorem text?_clear (ids : List FilterId) (s : Store) :
    (ids.foldl (fun s id => s.setKey id none) s).text? = s.text? := by
  induction ids generalizing s with
  | nil => rfl
  | cons id ids ih => rw [List.foldl_cons, ih, Store.text?_setKey]

theorem text?_run (named : n.set.Named n.store) (call : Call) :
    (call.run n).store.text? = n.store.text? := by
  cases call with
  | add new =>
      rw [Call.run]
      rcases named.add_cases new with ⟨-, result⟩ | ⟨f, key, -, -, result⟩
      · rw [result]
      · rw [result, Store.text?_setKey]
  | remove text =>
      rw [Call.run]
      rcases n.set.remove_cases n.store text with ⟨-, result⟩ | ⟨old, -, -, result⟩
      · rw [result]
      · rw [result, Store.text?_setKey]
  | clear => exact text?_clear n.set.members n.store

theorem key?_run_of_not_mem (named : n.set.Named n.store) {call : Call}
    (before : id ∉ n.set.members) (after : id ∉ (call.run n).set.members) :
    (call.run n).store.key? id = n.store.key? id := by
  cases call with
  | add new =>
      rw [Call.run] at after ⊢
      rcases named.add_cases new with ⟨-, result⟩ | ⟨f, key, -, -, result⟩
      · rw [result]
      · rw [result] at after ⊢
        refine Store.key?_setKey_of_ne ?_ _
        rintro rfl
        exact after (by simp)
  | remove text =>
      rw [Call.run]
      rcases n.set.remove_cases n.store text with ⟨-, result⟩ | ⟨old, member, -, result⟩
      · rw [result]
      · rw [result]
        refine Store.key?_setKey_of_ne ?_ _
        rintro rfl
        exact before member
  | clear =>
      refine (key?_clear n.set.members n.store id).trans ?_
      rw [if_neg before]

theorem Listed.run (listed : n.set.Listed n.store) {call : Call}
    (releases : ∀ text, call = .remove text → n.set.Releases n.store text) :
    (call.run n).set.Listed (call.run n).store := by
  cases call with
  | add id => exact listed.add id
  | remove text => exact listed.remove (releases text rfl)
  | clear => exact listed_empty _

theorem Carries.run (listed : n.set.Listed n.store) (carries : n.set.Carries n.store)
    (call : Call) : (call.run n).set.Carries (call.run n).store := by
  cases call with
  | add new =>
      rw [Call.run]
      rcases listed.add_cases new with ⟨-, result⟩ | ⟨f, key, takes, search, result⟩
      · rw [result]
        exact carries
      · rw [result]
        have free : n.set.byKey? key = none := get?_of_freeKey? search
        intro i member
        rcases List.mem_append.mp member with old | last
        · obtain ⟨k, carried, found⟩ := carries i old
          refine ⟨k, ?_, ?_⟩
          · rw [Store.key?_setKey_of_ne, carried]
            rintro rfl
            exact takes.not_mem old
          · rw [byKey?, OrderedMap.get?_insert, if_neg]
            · exact found
            · rintro rfl
              cases free.symm.trans found
        · rw [List.mem_singleton.mp last]
          exact ⟨key, Store.key?_setKey_self takes.1 _, by
            rw [byKey?, OrderedMap.get?_insert, if_pos rfl]⟩
  | remove text =>
      rw [Call.run]
      rcases n.set.remove_cases n.store text with ⟨-, result⟩ | ⟨old, member, -, result⟩
      · rw [result]
        exact carries
      · rw [result]
        obtain ⟨released, carried, found⟩ := carries old member
        intro i stays
        obtain ⟨other, stayed⟩ := listed.nodup.mem_erase_iff.mp stays
        obtain ⟨k, carried', found'⟩ := carries i stayed
        refine ⟨k, ?_, ?_⟩
        · rw [Store.key?_setKey_of_ne other, carried']
        · rw [byKey?, get?_keysWithout, carried, if_neg]
          · exact found'
          · rintro same
            cases same
            exact other (Option.some.inj (found'.symm.trans found))
  | clear => exact fun _ member => absurd member List.not_mem_nil

end Calls

/-- Hide sets, each under its name, whose members are in one store. -/
structure Family (ι : Type) where
  sets : ι → HideSet := fun _ => {}
  store : Store

namespace Family

variable {ι : Type} [DecidableEq ι]

def run (n : Family ι) (on : ι × Call) : Family ι :=
  let result := on.2.run ⟨n.sets on.1, n.store⟩
  ⟨Function.update n.sets on.1 result.set, result.store⟩

def after (n : Family ι) (calls : List (ι × Call)) : Family ι :=
  calls.foldl run n

/-- The keys of each set lead to each of its members once. -/
def InOrder (n : Family ι) : Prop :=
  ∀ i, (n.sets i).Listed n.store

/-- No two sets have a member in common. -/
def Apart (n : Family ι) : Prop :=
  ∀ i j, i ≠ j → ∀ id ∈ (n.sets i).members, id ∉ (n.sets j).members

variable {n : Family ι} {i j : ι} {call : Call} {calls : List (ι × Call)}

theorem sets_run_self (n : Family ι) (i : ι) (call : Call) :
    (n.run (i, call)).sets i = (call.run ⟨n.sets i, n.store⟩).set :=
  Function.update_self _ _ _

theorem sets_run_of_ne (n : Family ι) (other : j ≠ i) (call : Call) :
    (n.run (i, call)).sets j = n.sets j :=
  Function.update_of_ne other _ _

@[simp] theorem after_concat (n : Family ι) (calls : List (ι × Call)) (on : ι × Call) :
    n.after (calls ++ [on]) = (n.after calls).run on :=
  List.foldl_concat run n on calls

theorem InOrder.run (ordered : n.InOrder)
    (releases : ∀ text, call = .remove text → (n.sets i).Releases n.store text) :
    (n.run (i, call)).InOrder := by
  intro j
  by_cases own : j = i
  · subst own
    rw [sets_run_self]
    exact Listed.run (n := ⟨n.sets j, n.store⟩) (ordered j) releases
  · rw [sets_run_of_ne n own]
    have texts := text?_run (n := ⟨n.sets i, n.store⟩) (ordered i).toNamed call
    exact (ordered j).of_text? texts

/-- Calls that release the keys of what they take out keep all sets in order, and no others do. -/
theorem inOrder_iff (s : Store) (calls : List (ι × Call)) :
    (∀ first, first <+: calls → (after { store := s } first).InOrder) ↔
      ∀ first i text, first ++ [(i, .remove text)] <+: calls →
        ((after { store := s } first).sets i).Releases (after { store := s } first).store text := by
  constructor
  · intro ordered first i text part
    have before := ordered first ((List.prefix_append _ _).trans part)
    have later := ordered _ part i
    rw [after_concat, sets_run_self] at later
    exact (before i).releases ((before i).forgets later)
  · intro releases first part
    induction first using List.reverseRecOn with
    | nil => exact fun _ => listed_empty s
    | append_singleton first on ih =>
        obtain ⟨i, call⟩ := on
        rw [after_concat]
        refine (ih ((List.prefix_append _ _).trans part)).run ?_
        rintro text rfl
        exact releases first i text part

theorem carries_run (ordered : n.InOrder) (carries : ∀ i, (n.sets i).Carries n.store)
    (apart : n.Apart) (apart' : (n.run (i, call)).Apart) :
    ∀ j, ((n.run (i, call)).sets j).Carries (n.run (i, call)).store := by
  intro j
  by_cases own : j = i
  · subst own
    rw [sets_run_self]
    exact Carries.run (n := ⟨n.sets j, n.store⟩) (ordered j) (carries j) call
  · have other := apart' j i own
    rw [sets_run_of_ne n own] at other ⊢
    intro id member
    have kept : (n.run (i, call)).store.key? id = n.store.key? id := by
      refine key?_run_of_not_mem (n := ⟨n.sets i, n.store⟩) (ordered i).toNamed ?_ ?_
      · exact apart j i own id member
      · rw [← sets_run_self]
        exact other id member
    rw [kept]
    exact carries j id member

theorem inOrder_of_apart {s : Store}
    (apart : ∀ first, first <+: calls → (after { store := s } first).Apart) :
    (after { store := s } calls).InOrder ∧
      ∀ i, ((after { store := s } calls).sets i).Carries (after { store := s } calls).store := by
  induction calls using List.reverseRecOn with
  | nil => exact ⟨fun _ => listed_empty s, fun _ _ member => nomatch member⟩
  | append_singleton calls on ih =>
      obtain ⟨i, call⟩ := on
      have before := List.prefix_append calls [(i, call)]
      obtain ⟨ordered, carries⟩ := ih fun first part => apart first (part.trans before)
      have now := apart calls before
      have later := apart _ (List.prefix_refl _)
      rw [after_concat] at later ⊢
      exact ⟨ordered.run fun text _ => (carries i).releases text,
        carries_run ordered carries now later⟩

/-- A call on one set leaves the members and the keys of all other sets as they are, and after a
    set was cleared none of its keys leads anywhere. Removing a filter makes the keys of a set in
    order forget it if and only if the filter still carries the key under which that set knows it,
    and it is just these removals that keep the sets in order. In particular the sets are in order
    if no filter is ever in two of them. -/
theorem in_order_iff_keys_released (s : Store) (calls : List (ι × Call)) :
    let n := after { store := s } calls
    (∀ i call j, j ≠ i → (n.run (i, call)).sets j = n.sets j) ∧
    (∀ i key, ((n.run (i, .clear)).sets i).byKey? key = none) ∧
    (n.InOrder → ∀ i text, (n.sets i).Forgets ((n.run (i, .remove text)).sets i) n.store text ↔
      (n.sets i).Releases n.store text) ∧
    ((∀ first, first <+: calls → (after { store := s } first).InOrder) ↔
      ∀ first i text, first ++ [(i, .remove text)] <+: calls →
        ((after { store := s } first).sets i).Releases (after { store := s } first).store text) ∧
    ((∀ first, first <+: calls → (after { store := s } first).Apart) → n.InOrder) := by
  intro n
  refine ⟨?_, ?_, ?_, inOrder_iff s calls, fun apart => (inOrder_of_apart apart).1⟩
  · intro i call j other
    exact sets_run_of_ne n other call
  · intro i key
    rw [sets_run_self]
    rfl
  · intro ordered i text
    rw [sets_run_self]
    constructor
    · exact (ordered i).releases
    · intro releases
      exact (ordered i).forgets ((ordered i).remove releases)

/-- Two sets that share no filters are in order, and a removal from one makes its keys forget the
    filter. -/
theorem in_order_iff_keys_released_apart :
    let s := ((Interning.start .lenient).after [.ofText "##a", .ofText "##b"]).store
    let n := after { store := s } [(false, .add 0), (true, .add 1)]
    n.InOrder ∧
      ((n.sets true).Forgets ((n.run (true, .remove "##b")).sets true) n.store "##b" ↔
        (n.sets true).Releases n.store "##b") ∧
      (n.run (true, .remove "##b")).sets false = n.sets false := by
  intro s n
  have apart : ∀ first, first <+: [(false, Call.add 0), (true, .add 1)] →
      (after { store := s } first).Apart := by
    intro first before
    simp only [List.prefix_cons_iff, List.prefix_nil] at before
    rcases before with rfl | ⟨_, rfl, rfl | ⟨_, rfl, rfl⟩⟩
    all_goals
      unfold Apart
      decide +kernel
  obtain ⟨frame, -, forgets, -, whole⟩ :=
    in_order_iff_keys_released s [(false, .add 0), (true, .add 1)]
  exact ⟨whole apart, forgets (whole apart) true "##b", frame true _ false Bool.false_ne_true⟩

/-- A filter that is taken out of one set after another set has taken it out is still found in the
    first one by its key. -/
theorem removed_filter_found_by_stale_key :
    let s := ((Interning.start .lenient).after [.ofText "##a"]).store
    let n := after { store := s } [(false, .add 0), (true, .add 0), (false, .remove "##a")]
    let h := ((n.run (true, .remove "##a")).sets true)
    (n.sets true).members = [0] ∧ ((n.sets true).remove n.store "##a").1 = true ∧
      h.members = [] ∧ h.byKey? (Digest.key "##a" 0) = some 0 := by
  decide +kernel

end Family

end HideSet

end AdFilter
