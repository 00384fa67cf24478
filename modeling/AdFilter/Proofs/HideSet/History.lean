import AdFilter.Proofs.HideSet.Attempts
import AdFilter.Proofs.Registry.Identity

/-! # What has happened to a hide set

The members of a hide set are the filters that were added and neither taken out nor cleared away
since, in the order in which they were added.
-/

namespace AdFilter

namespace HideSet

/-- What is done with a hide set and the filters in its store. -/
inductive Action where
  | call (c : Call)
  /-- Switches a filter, counts a hit, or sets or resets the counters. -/
  | update (id : FilterId) (change : Activity → Activity)

namespace Action

def run (n : State) : Action → State
  | .call c => c.run n
  | .update id change => { n with store := n.store.modifyActivity id change }

/-- Whether the action takes no filter of the text out of a set. -/
def keeps (text : Option String) : Action → Bool
  | .call (.remove removed) => text != some removed
  | .call .clear => false
  | .call (.add _) | .update _ _ => true

end Action

def State.through (n : State) (actions : List Action) : State :=
  actions.foldl Action.run n

def after (s : Store) (actions : List Action) : State :=
  State.through { store := s } actions

/-- The action at the place added the filter, and none since has taken it out. -/
structure AddedAt (s : Store) (actions : List Action) (place : Nat) (id : FilterId) : Prop where
  adds : actions[place]? = some (.call (.add id))
  added : ((after s (actions.take place)).set.add (after s (actions.take place)).store id).1 = true
  kept : ∀ action ∈ actions.drop (place + 1), action.keeps (s.text? id) = true

section Runs

variable {n : State} {s : Store} {actions : List Action} {action : Action} {place : Nat}
variable {id : FilterId}

@[simp] theorem after_concat (s : Store) (actions : List Action) (action : Action) :
    after s (actions ++ [action]) = action.run (after s actions) :=
  List.foldl_concat ..

theorem Named.act (named : n.set.Named n.store) (action : Action) :
    (action.run n).set.Named (action.run n).store := by
  cases action with
  | call c => exact named.run c
  | update id change => exact named.of_text? (funext (n.store.text?_modifyActivity id change))

theorem text?_action (named : n.set.Named n.store) (action : Action) :
    (action.run n).store.text? = n.store.text? := by
  cases action with
  | call c => exact text?_run named c
  | update id change => exact funext (n.store.text?_modifyActivity id change)

theorem named_after (s : Store) (actions : List Action) :
    (after s actions).set.Named (after s actions).store ∧
      (after s actions).store.text? = s.text? := by
  induction actions using List.reverseRecOn with
  | nil => exact ⟨named_empty s, rfl⟩
  | append_singleton actions action ih =>
      rw [after_concat]
      exact ⟨ih.1.act action, (text?_action ih.1 action).trans ih.2⟩

theorem AddedAt.lt (stands : AddedAt s actions place id) : place < actions.length :=
  (List.getElem?_eq_some_iff.mp stands.adds).1

theorem addedAt_concat_of_lt (before : place < actions.length) :
    AddedAt s (actions ++ [action]) place id ↔
      AddedAt s actions place id ∧ action.keeps (s.text? id) = true := by
  have adds : (actions ++ [action])[place]? = actions[place]? := List.getElem?_append_left before
  have front : (actions ++ [action]).take place = actions.take place :=
    List.take_append_of_le_length (Nat.le_of_lt before)
  have back : (actions ++ [action]).drop (place + 1) = actions.drop (place + 1) ++ [action] :=
    List.drop_append_of_le_length before
  constructor
  · rintro ⟨isAdd, added, kept⟩
    rw [adds] at isAdd
    rw [front] at added
    rw [back, List.forall_mem_append, List.forall_mem_singleton] at kept
    exact ⟨⟨isAdd, added, kept.1⟩, kept.2⟩
  · rintro ⟨⟨isAdd, added, kept⟩, keeps⟩
    refine ⟨adds.trans isAdd, by rwa [front], ?_⟩
    rw [back, List.forall_mem_append, List.forall_mem_singleton]
    exact ⟨kept, keeps⟩

theorem addedAt_concat_length : AddedAt s (actions ++ [action]) actions.length id ↔
    action = .call (.add id) ∧ ((after s actions).set.add (after s actions).store id).1 = true := by
  constructor
  · rintro ⟨isAdd, added, -⟩
    rw [List.getElem?_concat_length, Option.some.injEq] at isAdd
    rw [List.take_left] at added
    exact ⟨isAdd, added⟩
  · rintro ⟨rfl, added⟩
    refine ⟨List.getElem?_concat_length, by rwa [List.take_left], ?_⟩
    simp

theorem addedAt_concat : AddedAt s (actions ++ [action]) place id ↔
    (AddedAt s actions place id ∧ action.keeps (s.text? id) = true) ∨
      (place = actions.length ∧ action = .call (.add id) ∧
        ((after s actions).set.add (after s actions).store id).1 = true) := by
  rcases Nat.lt_or_ge place actions.length with before | atEnd
  · rw [addedAt_concat_of_lt before, or_iff_left]
    rintro ⟨rfl, -⟩
    exact Nat.lt_irrefl _ before
  · rw [or_iff_right fun ⟨stands, _⟩ => Nat.not_lt_of_ge atEnd stands.lt]
    constructor
    · intro stands
      have within := stands.lt
      rw [List.length_append, List.length_singleton] at within
      obtain rfl : place = actions.length := by omega
      exact ⟨rfl, addedAt_concat_length.mp stands⟩
    · rintro ⟨rfl, added⟩
      exact addedAt_concat_length.mpr added

theorem Named.members_remove (named : n.set.Named n.store) (text : String) :
    (n.set.remove n.store text).2.1.members =
      n.set.members.filter (n.store.text? · != some text) := by
  rcases n.set.remove_cases n.store text with ⟨missing, result⟩ | ⟨id, member, hasText, result⟩
  · rw [result, List.filter_eq_self.mpr]
    intro i inSet
    exact bne_iff_ne.mpr (missing i inSet)
  · rw [result]
    refine (named.nodup.erase_eq_filter id).trans (List.filter_congr fun i inSet => ?_)
    rw [Bool.eq_iff_iff, bne_iff_ne, bne_iff_ne, ← hasText]
    exact not_congr ⟨congrArg _, named.eq_of_text inSet member⟩

/-- The members with the places at which they were added, in the order of the places. -/
structure Standing (s : Store) (actions : List Action) (entries : List (Nat × FilterId)) :
    Prop where
  members : (after s actions).set.members = entries.map Prod.snd
  ordered : entries.Pairwise fun e e' => e.1 < e'.1
  before : ∀ e ∈ entries, e.1 < actions.length
  added : ∀ e, AddedAt s actions e.1 e.2 ↔ e ∈ entries

theorem Standing.thin {entries : List (Nat × FilterId)} (standing : Standing s actions entries)
    (nothing : ∀ id, action = .call (.add id) →
      ((after s actions).set.add (after s actions).store id).1 = false)
    (members : (action.run (after s actions)).set.members =
      (after s actions).set.members.filter fun id => action.keeps (s.text? id)) :
    Standing s (actions ++ [action]) (entries.filter fun e => action.keeps (s.text? e.2)) where
  members := by
    rw [after_concat, members, standing.members, List.filter_map]
    rfl
  ordered := standing.ordered.filter _
  before := by
    intro e member
    have := standing.before e (List.mem_filter.mp member).1
    rw [List.length_append]
    omega
  added := by
    rintro ⟨place, id⟩
    rw [addedAt_concat, List.mem_filter, ← standing.added, or_iff_left]
    rintro ⟨-, isAdd, added⟩
    rw [nothing id isAdd] at added
    cases added

theorem Standing.extend {entries : List (Nat × FilterId)} (standing : Standing s actions entries)
    (added : ((after s actions).set.add (after s actions).store id).1 = true)
    (members : (Action.run (after s actions) (.call (.add id))).set.members =
      (after s actions).set.members ++ [id]) :
    Standing s (actions ++ [.call (.add id)]) (entries ++ [(actions.length, id)]) where
  members := by
    rw [after_concat, members, standing.members, List.map_append]
    rfl
  ordered := by
    refine List.pairwise_append.mpr ⟨standing.ordered, List.pairwise_singleton _ _, ?_⟩
    intro e member e' last
    rw [List.mem_singleton.mp last]
    exact standing.before e member
  before := by
    intro e member
    rw [List.length_append, List.length_singleton]
    rcases List.mem_append.mp member with old | last
    · exact Nat.lt_succ_of_lt (standing.before e old)
    · rw [List.mem_singleton.mp last]
      exact Nat.lt_succ_self _
  added := by
    rintro ⟨place, id'⟩
    rw [addedAt_concat, List.mem_append, ← standing.added, List.mem_singleton, Prod.mk.injEq]
    refine or_congr (and_iff_left rfl) (and_congr_right fun _ => ⟨?_, ?_⟩)
    · rintro ⟨same, -⟩
      cases same
      rfl
    · rintro rfl
      exact ⟨rfl, added⟩

theorem Standing.step {entries : List (Nat × FilterId)} (standing : Standing s actions entries)
    (action : Action) : ∃ entries', Standing s (actions ++ [action]) entries' := by
  obtain ⟨named, texts⟩ := named_after s actions
  have all : ∀ {ids : List FilterId}, ids = ids.filter fun _ => true := by simp
  cases action with
  | update id change => exact ⟨_, standing.thin (by simp) all⟩
  | call c =>
      cases c with
      | clear =>
          refine ⟨_, standing.thin (by simp) ?_⟩
          simp [Action.run, Call.run, clear, Action.keeps]
      | remove text =>
          refine ⟨_, standing.thin (by simp) ?_⟩
          exact texts ▸ named.members_remove text
      | add id =>
          rcases named.add_cases id with ⟨-, result⟩ | ⟨f, key, -, -, result⟩
          · refine ⟨_, standing.thin ?_ ?_⟩
            · rintro id' ⟨⟩
              rw [result]
            · rw [Action.run, Call.run, result]
              exact all
          · refine ⟨_, standing.extend ?_ ?_⟩
            · rw [result]
            · rw [Action.run, Call.run, result]

/-- The members are the filters that stand as added, in the order in which they were added. -/
theorem exists_standing (s : Store) (actions : List Action) :
    ∃ entries, Standing s actions entries := by
  induction actions using List.reverseRecOn with
  | nil =>
      refine ⟨[], rfl, List.Pairwise.nil, by simp, ?_⟩
      rintro ⟨place, id⟩
      refine iff_of_false (fun standing => ?_) List.not_mem_nil
      cases standing.adds
  | append_singleton actions action ih =>
      obtain ⟨entries, standing⟩ := ih
      exact standing.step action

theorem mem_members_iff :
    id ∈ (after s actions).set.members ↔ ∃ place, AddedAt s actions place id := by
  obtain ⟨entries, standing⟩ := exists_standing s actions
  rw [standing.members, List.mem_map]
  constructor
  · rintro ⟨⟨place, id⟩, entry, rfl⟩
    exact ⟨place, (standing.added _).mpr entry⟩
  · rintro ⟨place, stands⟩
    exact ⟨(place, id), (standing.added _).mp stands, rfl⟩

end Runs

end HideSet

end AdFilter
