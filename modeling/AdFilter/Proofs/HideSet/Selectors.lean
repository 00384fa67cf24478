import AdFilter.Proofs.FirstOccurrences
import AdFilter.Proofs.HideSet.History

/-! # The selectors for a document

A selector is offered on a document as long as one of the members that are switched on and apply
there has it. The selectors stand in the order in which their first such members were added.
-/

namespace AdFilter

theorem Rule.eq_hide_of_hiding? {rule : Rule} {r : HidingRule} (hides : rule.hiding? = some r) :
    rule = .hide r := by
  cases rule with
  | hide => exact congrArg _ (Option.some.inj hides)
  | invalid | comment | blocking | exception => cases hides

namespace HideSet

/-- The filter is switched on, and its hiding rule has the property and the selector. -/
def Offers (s : Store) (P : HidingRule → Prop) (sel : String) (id : FilterId) : Prop :=
  ∃ f r, s.get? id = some f ∧ f.isDisabled = false ∧ f.rule = .hide r ∧ P r ∧ r.selector = sel

/-- The filter is switched on and hides by the selector on documents of the host. -/
abbrev Shows (s : Store) (host sel : String) (id : FilterId) : Prop :=
  Offers s (fun r => r.restriction.isActiveOn host = true) sel id

def State.selectors (n : State) (host : String) : List String :=
  n.set.selectors n.store host

/-- The search for a key ends at each of the filters when they are added one after the other. -/
def State.FindsKeys (n : State) : List FilterId → Prop
  | [] => True
  | id :: ids =>
    (∀ f, n.set.Takes n.store id f → ∃ key, n.set.freeKey? f.text = some key) ∧
      (Call.run n (.add id)).FindsKeys ids

section Offered

variable {s : Store} {host sel : String} {id : FilterId}

theorem selectorOn?_eq_some : selectorOn? s host id = some sel ↔ Shows s host sel id := by
  unfold selectorOn?
  rw [Option.bind_eq_some_iff]
  constructor
  · rintro ⟨f, stored, offered⟩
    split at offered
    · cases offered
    · rename_i enabled
      obtain ⟨r, hides, offered⟩ := Option.bind_eq_some_iff.mp offered
      split at offered
      · rename_i active
        exact ⟨f, r, stored, by simpa using enabled, Rule.eq_hide_of_hiding? hides, active,
          Option.some.inj offered⟩
      · cases offered
  · rintro ⟨f, r, stored, enabled, hides, active, rfl⟩
    exact ⟨f, stored, by simp [enabled, hides, Rule.hiding?, active]⟩

theorem selectorOn?_setKey (s : Store) (id : FilterId) (key : Option String) (host : String) :
    selectorOn? (s.setKey id key) host = selectorOn? s host := by
  funext i
  rw [selectorOn?, selectorOn?, Store.setKey, Store.get?_modify]
  split
  · rw [Option.bind_map]
    rfl
  · rfl

theorem selectorOn?_clear (ids : List FilterId) (s : Store) (host : String) :
    selectorOn? (ids.foldl (fun s id => s.setKey id none) s) host = selectorOn? s host := by
  induction ids generalizing s with
  | nil => rfl
  | cons id ids ih => exact (ih _).trans (selectorOn?_setKey s id none host)

theorem shows_disable {i : FilterId} :
    Shows (s.modifyActivity id fun a => { a with disabled := true }) host sel i ↔
      i ≠ id ∧ Shows s host sel i := by
  unfold Shows Offers Store.modifyActivity
  rw [Store.get?_modify]
  split
  · rename_i same
    simp only [same, ne_eq, not_true_eq_false, false_and, iff_false]
    rintro ⟨f, r, stored, enabled, hides, -⟩
    obtain ⟨g, -, rfl⟩ := Option.map_eq_some_iff.mp stored
    unfold Filter.updateActivity at enabled hides
    split at enabled
    · rename_i active
      simp [Filter.isDisabled, Filter.activity?, active] at enabled
    · rename_i inactive
      rw [if_neg inactive] at hides
      simp [hides, Rule.isActive] at inactive
  · rename_i other
    simp [other]

end Offered

section Members

variable {n : State} {host sel : String} {id : FilterId}

theorem mem_selectors :
    sel ∈ n.selectors host ↔ ∃ id ∈ n.set.members, Shows n.store host sel id := by
  simp only [State.selectors, selectors, List.mem_eraseDups, List.mem_filterMap,
    selectorOn?_eq_some]

theorem nodup_selectors : (n.selectors host).Nodup :=
  nodup_eraseDups _

theorem selectorOn?_run (named : n.set.Named n.store) (call : Call) :
    selectorOn? (call.run n).store host = selectorOn? n.store host := by
  cases call with
  | add id =>
      rw [Call.run]
      rcases named.add_cases id with ⟨-, result⟩ | ⟨f, key, -, -, result⟩
      · rw [result]
      · rw [result, selectorOn?_setKey]
  | remove text =>
      rw [Call.run]
      rcases n.set.remove_cases n.store text with ⟨-, result⟩ | ⟨id, -, -, result⟩
      · rw [result]
      · rw [result, selectorOn?_setKey]
  | clear => exact selectorOn?_clear n.set.members n.store host

theorem shows_run (named : n.set.Named n.store) (call : Call) :
    Shows (call.run n).store host sel id ↔ Shows n.store host sel id := by
  rw [← selectorOn?_eq_some, selectorOn?_run named, selectorOn?_eq_some]

theorem shows_after (named : n.set.Named n.store) (calls : List Call) :
    Shows (n.after calls).store host sel id ↔ Shows n.store host sel id := by
  induction calls generalizing n with
  | nil => exact Iff.rfl
  | cons call calls ih => exact (ih (named.run call)).trans (shows_run named call)

theorem mem_members_add (named : n.set.Named n.store)
    (finds : ∀ f, n.set.Takes n.store id f → ∃ key, n.set.freeKey? f.text = some key)
    {i : FilterId} : i ∈ (Call.run n (.add id)).set.members ↔
      i ∈ n.set.members ∨ (i = id ∧ ∃ f, n.set.Takes n.store i f) := by
  rw [Call.run]
  rcases named.add_cases id with ⟨refused, result⟩ | ⟨f, key, takes, -, result⟩
  · rw [result, or_iff_left]
    rintro ⟨rfl, f, takes⟩
    obtain ⟨key, search⟩ := finds f takes
    exact refused f key takes search
  · rw [result, List.mem_append, List.mem_singleton]
    refine or_congr_right ⟨?_, And.left⟩
    rintro rfl
    exact ⟨rfl, f, takes⟩

theorem takes_add (named : n.set.Named n.store) {i : FilterId}
    (other : n.store.text? i ≠ n.store.text? id) :
    (∃ f, (Call.run n (.add id)).set.Takes (Call.run n (.add id)).store i f) ↔
      ∃ f, n.set.Takes n.store i f := by
  rw [Call.run]
  rcases named.add_cases id with ⟨-, result⟩ | ⟨f, key, -, -, result⟩
  · rw [result]
  · have apart : i ≠ id := fun same => other (congrArg _ same)
    rw [result]
    simp only [Takes, Store.text?_setKey, List.forall_mem_append, List.forall_mem_singleton]
    refine exists_congr fun g => ?_
    rw [Store.setKey, Store.get?_modify, if_neg apart]
    refine and_congr_right fun stored => and_congr_right fun _ => and_iff_left ?_
    intro same
    refine other (Eq.trans ?_ same.symm)
    rw [Store.text?, stored]
    rfl

/-- Of filters of different texts those become members that hide elements and whose texts are new,
    in whatever order they are added. -/
theorem mem_members_after_add {ids : List FilterId} (named : n.set.Named n.store)
    (texts : (ids.map n.store.text?).Nodup) (finds : n.FindsKeys ids) {i : FilterId} :
    i ∈ (n.after (ids.map .add)).set.members ↔
      i ∈ n.set.members ∨ (i ∈ ids ∧ ∃ f, n.set.Takes n.store i f) := by
  induction ids generalizing n with
  | nil => simp [State.after]
  | cons id ids ih =>
      obtain ⟨fresh, texts⟩ := List.nodup_cons.mp texts
      have other : ∀ i ∈ ids, n.store.text? i ≠ n.store.text? id := by
        intro i member same
        exact fresh (List.mem_map.mpr ⟨i, member, same⟩)
      have texts' : (ids.map (Call.run n (.add id)).store.text?).Nodup := by
        rwa [text?_run named]
      have rest := ih (named.run (.add id)) texts' finds.2
      refine rest.trans ?_
      rw [mem_members_add named finds.1, List.mem_cons, or_and_right, or_assoc]
      exact or_congr_right (or_congr_right (and_congr_right fun member =>
        takes_add named (other i member)))

theorem perm_selectors_after_add {ids ids' : List FilterId} (named : n.set.Named n.store)
    (perm : ids.Perm ids') (texts : (ids.map n.store.text?).Nodup)
    (finds : n.FindsKeys ids) (finds' : n.FindsKeys ids') :
    ((n.after (ids.map .add)).selectors host).Perm ((n.after (ids'.map .add)).selectors host) := by
  have texts' := (perm.map n.store.text?).nodup_iff.mp texts
  refine (List.perm_ext_iff_of_nodup nodup_selectors nodup_selectors).mpr fun sel => ?_
  simp only [mem_selectors, shows_after named, mem_members_after_add named texts finds,
    mem_members_after_add named texts' finds', perm.mem_iff]

theorem findsKeys_of_hasKeys {ids : List FilterId} (named : n.set.Named n.store)
    (enough : ∀ id ∈ ids, ∀ text, n.store.text? id = some text →
      Digest.HasKeys text (n.set.keys.size + ids.length)) : n.FindsKeys ids := by
  induction ids generalizing n with
  | nil => exact trivial
  | cons id ids ih =>
      have number : (id :: ids).length = ids.length + 1 := List.length_cons
      refine ⟨fun f takes => exists_freeKey? ?_, ih (named.run _) fun i member text hasText => ?_⟩
      · exact (enough id List.mem_cons_self f.text takes.hasText).mono (by omega)
      · have grown := size_keys_run_le named (.add id)
        rw [text?_run named] at hasText
        exact (enough i (List.mem_cons_of_mem _ member) text hasText).mono (by omega)

end Members

section Runs

variable {s : Store} {actions : List Action} {place : Nat} {id : FilterId}

theorem mem_selectors_after {host sel : String} : sel ∈ (after s actions).selectors host ↔
    ∃ place id, AddedAt s actions place id ∧ Shows (after s actions).store host sel id := by
  simp only [mem_selectors, mem_members_iff, ← exists_and_right]
  exact exists_comm

/-- Every selector has a member that was added before all members that have a later one. -/
theorem pairwise_selectors (s : Store) (actions : List Action) (host : String) :
    ((after s actions).selectors host).Pairwise fun sel sel' =>
      ∃ place id, AddedAt s actions place id ∧ Shows (after s actions).store host sel id ∧
        ∀ place' id', AddedAt s actions place' id' →
          Shows (after s actions).store host sel' id' → place < place' := by
  obtain ⟨entries, standing⟩ := exists_standing s actions
  rw [State.selectors, selectors, standing.members, List.filterMap_map]
  refine (pairwise_eraseDups_filterMap _ standing.ordered).imp ?_
  rintro sel sel' ⟨⟨place, id⟩, entry, gives, first⟩
  refine ⟨place, id, (standing.added _).mpr entry, selectorOn?_eq_some.mp gives, ?_⟩
  intro place' id' stands shows
  exact first (place', id') ((standing.added _).mp stands) (selectorOn?_eq_some.mpr shows)

theorem not_mem_selectors_disable {n : State} {host sel : String} :
    sel ∉ (Action.run n (.update id fun a => { a with disabled := true })).selectors host ↔
      ∀ id' ∈ n.set.members, id' ≠ id → ¬ Shows n.store host sel id' := by
  simp only [mem_selectors, Action.run, shows_disable, not_exists, not_and]

theorem not_mem_selectors_remove {n : State} (named : n.set.Named n.store)
    (member : id ∈ n.set.members) {text : String} (hasText : n.store.text? id = some text)
    {host sel : String} :
    sel ∉ (Action.run n (.call (.remove text))).selectors host ↔
      ∀ id' ∈ n.set.members, id' ≠ id → ¬ Shows n.store host sel id' := by
  have others : ∀ id' ∈ n.set.members, n.store.text? id' ≠ some text ↔ id' ≠ id := by
    intro id' member'
    rw [← hasText]
    exact not_congr ⟨named.eq_of_text member' member, congrArg _⟩
  have members := named.members_remove text
  simp only [mem_selectors, Action.run, shows_run named, not_exists, not_and]
  simp only [Call.run, members, List.mem_filter, bne_iff_ne, and_imp]
  exact forall₂_congr fun id' member' => imp_congr_left (others id' member')

/-- The selectors for documents of a host are those of the members that are switched on and apply
    there, whatever was done before. Each stands there once, and before those of which all such
    members were added later. So adding filters of different texts in another order only permutes
    the selectors, if the search for their keys ends. Switching a member off or taking it out takes
    away the selectors that no other member offers. -/
theorem selectors_of_members (s : Store) (actions : List Action) (host : String) :
    let n := after s actions
    (∀ sel, sel ∈ n.selectors host ↔
      ∃ place id, AddedAt s actions place id ∧ Shows n.store host sel id) ∧
    (n.selectors host).Nodup ∧
    (n.selectors host).Pairwise (fun sel sel' =>
      ∃ place id, AddedAt s actions place id ∧ Shows n.store host sel id ∧
        ∀ place' id', AddedAt s actions place' id' → Shows n.store host sel' id' →
          place < place') ∧
    (∀ ids ids' : List FilterId, ids.Perm ids' → (ids.map s.text?).Nodup →
      n.FindsKeys ids → n.FindsKeys ids' →
      ((n.after (ids.map .add)).selectors host).Perm
        ((n.after (ids'.map .add)).selectors host)) ∧
    ∀ place id, AddedAt s actions place id → ∀ sel,
      (sel ∉ (Action.run n (.update id fun a => { a with disabled := true })).selectors host ↔
        ∀ place' id', AddedAt s actions place' id' → id' ≠ id → ¬ Shows n.store host sel id') ∧
      ∀ text, s.text? id = some text →
        (sel ∉ (Action.run n (.call (.remove text))).selectors host ↔
          ∀ place' id', AddedAt s actions place' id' → id' ≠ id →
            ¬ Shows n.store host sel id') := by
  intro n
  obtain ⟨named, texts⟩ : n.set.Named n.store ∧ n.store.text? = s.text? := named_after s actions
  have others (P : FilterId → Prop) :
      (∀ id ∈ n.set.members, P id) ↔ ∀ place id, AddedAt s actions place id → P id := by
    simp only [n, mem_members_iff, forall_exists_index]
    exact forall_comm
  refine ⟨fun sel => mem_selectors_after, nodup_selectors, pairwise_selectors s actions host,
    ?_, ?_⟩
  · intro ids ids' perm different
    rw [← texts] at different
    exact perm_selectors_after_add named perm different
  · intro place id stands sel
    refine ⟨not_mem_selectors_disable.trans (others _), fun text hasText => ?_⟩
    have member : id ∈ n.set.members := mem_members_iff.mpr ⟨place, stands⟩
    rw [← texts] at hasText
    exact (not_mem_selectors_remove named member hasText).trans (others _)

/-- Two filters have the same selector, so that it stays when one of them is switched off or taken
    out. -/
theorem selectors_of_members_shared :
    let s := ((Interning.start .lenient).after
      [.ofText "##.a", .ofText "example.com##.a", .ofText "##.b", .ofText "##.c"]).store
    let n := after s [.call (.add 0), .call (.add 1)]
    ((n.after [.add 2, .add 3]).selectors "example.com").Perm
      ((n.after [.add 3, .add 2]).selectors "example.com") ∧
    ".a" ∈ (Action.run n (.update 0 fun a => { a with disabled := true })).selectors
      "example.com" ∧
    ".a" ∈ (Action.run n (.call (.remove "##.a"))).selectors "example.com" := by
  intro s n
  obtain ⟨-, -, -, perm, off⟩ := selectors_of_members s [.call (.add 0), .call (.add 1)]
    "example.com"
  have finds : ∀ ids : List FilterId, ids ⊆ [2, 3] → ids.length = 2 → n.FindsKeys ids := by
    intro ids inside two
    refine findsKeys_of_hasKeys (named_after s _).1 fun id member text hasText => ?_
    have short : ∀ id ∈ [2, 3], ∀ text ∈ n.store.text? id, (Digest.bytesOf text).length < 32 := by
      decide +kernel
    have number : n.set.keys.size = 2 := by decide +kernel
    rw [number, two]
    exact Digest.hasKeys_of_short (short id (inside member) text hasText) (by decide)
  have first : AddedAt s [.call (.add 0), .call (.add 1)] 0 0 :=
    ⟨rfl, by decide +kernel, by decide +kernel⟩
  have second : AddedAt s [.call (.add 0), .call (.add 1)] 1 1 :=
    ⟨rfl, by decide +kernel, by decide +kernel⟩
  have shown : Shows n.store "example.com" ".a" 1 := selectorOn?_eq_some.mp (by decide +kernel)
  obtain ⟨disabled, removed⟩ := off 0 0 first ".a"
  refine ⟨perm [2, 3] [3, 2] (.swap 3 2 []) (by decide +kernel) ?_ ?_, ?_, ?_⟩
  · exact finds _ (by simp) rfl
  · exact finds _ (by simp) rfl
  · by_contra gone
    exact disabled.mp gone 1 1 second (by decide) shown
  · by_contra gone
    exact (removed "##.a" (by decide +kernel)).mp gone 1 1 second (by decide) shown

end Runs

end HideSet

end AdFilter
