import AdFilter.Proofs.HideSet.Calls
import AdFilter.Proofs.Registry.Calls

/-! # One key for each member

Whatever is called on a hide set, and whatever filters it is called with, each member carries a key
of its own for as long as it is a member, and no other filter carries one.
-/

namespace AdFilter

theorem Interning.key?_after (policy : Policy) (calls : List Call) (id : FilterId) :
    ((start policy).after calls).store.key? id = none := by
  cases stored : ((start policy).after calls).store.get? id with
  | none => simp [Store.key?, stored]
  | some f =>
      have bare : f.key = none := by
        refine stored_after (P := fun f => f.key = none) ?_ ?_ calls stored
        · rintro registry f - (⟨text, -, rfl⟩ | ⟨version, r, given⟩)
          · rw [Registry.compile_eq]
          · cases Record.gives_of_given? given <;> rfl
        · exact fun f change bare => (f.key_updateActivity change).trans bare
      simp [Store.key?, stored, bare]

namespace HideSet

/-- The keys lead to each member once, and to nothing else. -/
structure Listed (h : HideSet) (s : Store) : Prop extends Named h s where
  leads : ∀ id, id ∈ h.members ↔ ∃ key, h.byKey? key = some id
  once : ∀ {key key' id}, h.byKey? key = some id → h.byKey? key' = some id → key = key'

section Steps

variable {h : HideSet} {s : Store} {n : State} {id : FilterId}

theorem Listed.perm_values (listed : h.Listed s) :
    (h.keys.entries.map Prod.snd).Perm h.members := by
  have leads : ∀ e ∈ h.keys.entries, h.byKey? e.1 = some e.2 :=
    fun e member => (OrderedMap.get?_eq_some_iff h.keys).mpr member
  have different : (h.keys.entries.map Prod.snd).Nodup := by
    apply List.Nodup.map_on _ h.keys.nodup_keys.of_map
    intro e member e' member' same
    exact Prod.ext (listed.once (leads e member) (same ▸ leads e' member')) same
  rw [List.perm_ext_iff_of_nodup different listed.nodup]
  intro id
  rw [listed.leads, List.mem_map]
  constructor
  · rintro ⟨e, member, rfl⟩
    exact ⟨e.1, leads e member⟩
  · rintro ⟨key, found⟩
    exact ⟨(key, id), (OrderedMap.get?_eq_some_iff h.keys).mp found, rfl⟩

theorem Keyed.listed (keyed : h.Keyed s) : h.Listed s where
  toNamed := keyed.named
  leads := by
    intro id
    rw [keyed.carries]
    exact exists_congr fun key => (keyed.keys key id).symm
  once := by
    intro key key' id found found'
    have carried := (keyed.keys key id).mp found
    have carried' := (keyed.keys key' id).mp found'
    exact Option.some.inj (carried.symm.trans carried')

theorem Keyed.size_keys (keyed : h.Keyed s) : h.keys.size = h.size := by
  have sameLength := keyed.listed.perm_values.length_eq
  rwa [List.length_map] at sameLength

theorem Keyed.key?_run (keyed : n.set.Keyed n.store) {call : Call} (member : id ∈ n.set.members)
    (stays : id ∈ (call.run n).set.members) : (call.run n).store.key? id = n.store.key? id := by
  cases call with
  | add new =>
      rw [Call.run]
      rcases keyed.named.add_cases new with ⟨-, result⟩ | ⟨f, key, ⟨stored, -, fresh⟩, -, result⟩
      · rw [result]
      · rw [result]
        apply Store.key?_setKey_of_ne
        rintro rfl
        exact fresh id member (by simp [Store.text?, stored])
  | remove text =>
      rw [Call.run] at stays ⊢
      rcases keyed.remove_cases text with ⟨-, result⟩ | ⟨old, key, -, -, -, result⟩
      · rw [result]
      · rw [result] at stays ⊢
        exact Store.key?_setKey_of_ne (keyed.named.nodup.mem_erase_iff.mp stays).1 none
  | clear => cases stays

theorem Keyed.key?_after (keyed : n.set.Keyed n.store) {calls : List Call}
    (stays : ∀ first, first <+: calls → id ∈ (n.after first).set.members) :
    (n.after calls).store.key? id = n.store.key? id := by
  -- On the calls: the set after the first one is keyed again, and the filter is still in it.
  induction calls generalizing n with
  | nil => rfl
  | cons call calls ih =>
      have now : id ∈ n.set.members := stays [] List.nil_prefix
      have next : id ∈ (call.run n).set.members := stays [call] ⟨calls, rfl⟩
      have rest : ((call.run n).after calls).store.key? id = (call.run n).store.key? id := by
        apply ih (keyed.run call)
        intro first before
        exact stays (call :: first) ((List.prefix_cons_inj call).mpr before)
      exact rest.trans (keyed.key?_run now next)

theorem Keyed.takes_of_add (keyed : h.Keyed s) (added : (h.add s id).1 = true) :
    (∃ f, h.Takes s id f) ∧ (h.add s id).2.1.members = h.members ++ [id] := by
  rcases keyed.named.add_cases id with ⟨-, result⟩ | ⟨f, key, takes, -, result⟩
  · rw [result] at added
    cases added
  · rw [result]
    exact ⟨⟨f, takes⟩, rfl⟩

theorem Keyed.add_of_takes (keyed : h.Keyed s) {f : Filter} (takes : h.Takes s id f)
    (enough : Digest.HasKeys f.text (h.size + 1)) : (h.add s id).1 = true := by
  rw [← keyed.size_keys] at enough
  obtain ⟨key, search⟩ := exists_freeKey? enough
  rcases keyed.named.add_cases id with ⟨refused, -⟩ | ⟨f, key, -, -, result⟩
  · exact absurd search (refused f key takes)
  · rw [result]

theorem Keyed.remove_eq_true_iff (keyed : h.Keyed s) (text : String) :
    (h.remove s text).1 = true ↔ ∃ id ∈ h.members, s.text? id = some text := by
  rcases keyed.remove_cases text with ⟨missing, result⟩ | ⟨id, key, member, hasText, -, result⟩
  · rw [result]
    simpa using missing
  · rw [result]
    simp only [true_iff]
    exact ⟨id, member, hasText⟩

theorem Keyed.members_remove (keyed : h.Keyed s) (member : id ∈ h.members) {text : String}
    (hasText : s.text? id = some text) :
    ∃ front back, h.members = front ++ id :: back ∧
      (h.remove s text).2.1.members = front ++ back := by
  rcases keyed.remove_cases text with ⟨missing, -⟩ | ⟨id', key, member', hasText', -, result⟩
  · exact absurd hasText (missing id member)
  · obtain rfl := keyed.named.eq_of_text member member' (hasText.trans hasText'.symm)
    obtain ⟨front, back, -, split, rest⟩ := List.exists_erase_eq member
    rw [result]
    exact ⟨front, back, split, rest⟩

end Steps

/-- Each member is known by its text and by a key of its own, and no other filter is. -/
structure Coherent (n : State) : Prop where
  texts : (n.set.members.map n.store.text?).Nodup
  known : ∀ text, text ∈ n.set.known ↔ ∃ id ∈ n.set.members, n.store.text? id = some text
  entries : (n.set.keys.entries.map Prod.snd).Perm n.set.members
  leads : ∀ id ∈ n.set.members, ∃ key, n.store.key? id = some key ∧ n.set.byKey? key = some id
  apart : ∀ id ∈ n.set.members, ∀ id' ∈ n.set.members,
    n.store.key? id = n.store.key? id' → id = id'
  others : ∀ id, id ∉ n.set.members → n.store.key? id = none ∧ ∀ key, n.set.byKey? key ≠ some id

theorem Keyed.coherent {n : State} (keyed : n.set.Keyed n.store) : Coherent n where
  texts := keyed.texts
  known := keyed.known
  entries := keyed.listed.perm_values
  leads := by
    intro id member
    obtain ⟨key, carried⟩ := (keyed.carries id).mp member
    exact ⟨key, carried, (keyed.keys key id).mpr carried⟩
  apart := by
    intro id member id' member' same
    obtain ⟨key, carried⟩ := (keyed.carries id).mp member
    have leads := (keyed.keys key id).mpr carried
    have leads' := (keyed.keys key id').mpr (same ▸ carried)
    exact Option.some.inj (leads.symm.trans leads')
  others := by
    intro id other
    have bare : ∀ key, n.store.key? id ≠ some key := by
      intro key carried
      exact other ((keyed.carries id).mpr ⟨key, carried⟩)
    refine ⟨Option.eq_none_iff_forall_ne_some.mpr bare, ?_⟩
    intro key leads
    exact bare key ((keyed.keys key id).mp leads)

/-- After any calls on a hide set whose filters carried no keys before, every member has a key of
    its own and keeps it while it is a member, and no other filter has one. A hiding filter is added
    if and only if no member has its text; the search for its key ends since the text has more keys
    than there are members. Taking out a text takes out its member and leaves the others in
    order. -/
theorem one_key_for_each_member {s : Store} (fresh : ∀ id, s.key? id = none) (calls : List Call) :
    let n := State.after { store := s } calls
    Coherent n ∧
    (∀ id later, (∀ first, first <+: later → id ∈ (n.after first).set.members) →
      (n.after later).store.key? id = n.store.key? id) ∧
    (∀ id, (n.set.add n.store id).1 = true →
      (∃ f, n.set.Takes n.store id f) ∧
        (n.set.add n.store id).2.1.members = n.set.members ++ [id]) ∧
    (∀ id f, n.set.Takes n.store id f → Digest.HasKeys f.text (n.set.size + 1) →
      (n.set.add n.store id).1 = true) ∧
    (∀ text, (n.set.remove n.store text).1 = true ↔
      ∃ id ∈ n.set.members, n.store.text? id = some text) ∧
    ∀ id ∈ n.set.members, ∀ text, n.store.text? id = some text →
      ∃ front back, n.set.members = front ++ id :: back ∧
        (n.set.remove n.store text).2.1.members = front ++ back := by
  intro n
  have keyed : n.set.Keyed n.store :=
    Keyed.after (n := { store := s }) (keyed_empty fresh) calls
  refine ⟨keyed.coherent, ?_, ?_, ?_, keyed.remove_eq_true_iff, ?_⟩
  · intro id later stays
    exact keyed.key?_after stays
  · intro id added
    exact keyed.takes_of_add added
  · intro id f takes enough
    exact keyed.add_of_takes takes enough
  · intro id member text hasText
    exact keyed.members_remove member hasText

/-- Two texts have the same key at the first attempt, so the second is given its next one. -/
theorem one_key_for_each_member_colliding :
    let s := ((Interning.start .lenient).after
      [.ofText "##.collide-ad-01", .ofText "##ozrp[oBDyt:MZc"]).store
    let n := State.after { store := s } [.add 0]
    (∀ id, s.key? id = none) ∧
    Digest.key "##.collide-ad-01" 0 = Digest.key "##ozrp[oBDyt:MZc" 0 ∧
    (n.set.add n.store 1).1 = true ∧
    (n.after [.add 1, .remove "##ozrp[oBDyt:MZc"]).store.key? 0 = n.store.key? 0 ∧
    ∃ front back, n.set.members = front ++ 0 :: back ∧
      (n.set.remove n.store "##.collide-ad-01").2.1.members = front ++ back := by
  intro s n
  have fresh : ∀ id, s.key? id = none := Interning.key?_after .lenient _
  obtain ⟨-, keeps, -, adds, -, removes⟩ := one_key_for_each_member fresh [.add 0]
  obtain ⟨f, takes, sameText⟩ :
      ∃ f, n.set.Takes n.store 1 f ∧ f.text = "##ozrp[oBDyt:MZc" :=
    exists_takes (by decide +kernel) (by decide +kernel)
  have enough : Digest.HasKeys f.text (n.set.size + 1) := by
    rw [sameText]
    exact Digest.hasKeys_of_short (by decide +kernel) (by decide +kernel)
  have stays : ∀ first, first <+: [Call.add 1, .remove "##ozrp[oBDyt:MZc"] →
      0 ∈ (n.after first).set.members := by
    intro first before
    simp only [List.prefix_cons_iff, List.prefix_nil] at before
    rcases before with rfl | ⟨_, rfl, rfl | ⟨_, rfl, rfl⟩⟩
    all_goals decide +kernel
  refine ⟨fresh, by decide +kernel, adds 1 f takes enough, keeps 0 _ stays, ?_⟩
  exact removes 0 (by decide +kernel) "##.collide-ad-01" (by decide +kernel)

end HideSet

end AdFilter
