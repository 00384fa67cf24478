import AdFilter.Proofs.HideSet.FreeKey
import Mathlib.Data.List.Nodup
import Mathlib.Data.List.Perm.Basic

/-! # Calls on a hide set

The key of a member is kept in three places: the member carries it, the set leads from it to the
member, and the text of the member is known. No call on the set brings them apart.
-/

namespace AdFilter

namespace Store

def key? (s : Store) (id : FilterId) : Option String :=
  (s.get? id).bind (·.key)

@[simp] theorem text?_setKey (s : Store) (id : FilterId) (key : Option String) :
    (s.setKey id key).text? = s.text? := by
  funext i
  simp only [text?, setKey, get?_modify]
  split
  · simp [Function.comp_def]
  · rfl

theorem key?_setKey_of_ne {s : Store} {id i : FilterId} (other : i ≠ id) (key : Option String) :
    (s.setKey id key).key? i = s.key? i := by
  simp [key?, setKey, other]

theorem key?_setKey_self {s : Store} {id : FilterId} {f : Filter} (stored : s.get? id = some f)
    (key : Option String) : (s.setKey id key).key? id = key := by
  simp [key?, setKey, stored]

@[simp] theorem key?_setKey_none (s : Store) (id i : FilterId) :
    (s.setKey id none).key? i = if i = id then none else s.key? i := by
  by_cases same : i = id
  · subst same
    cases stored : s.get? i with
    | none => simp [key?, setKey, stored]
    | some f => simp [key?_setKey_self stored]
  · rw [key?_setKey_of_ne same, if_neg same]

end Store

namespace HideSet

structure State where
  set : HideSet := {}
  store : Store

/-- What can be done with a hide set. -/
inductive Call where
  | add (id : FilterId)
  | remove (text : String)
  | clear

def Call.run (n : State) : Call → State
  | .add id => ⟨(n.set.add n.store id).2.1, (n.set.add n.store id).2.2⟩
  | .remove text => ⟨(n.set.remove n.store text).2.1, (n.set.remove n.store text).2.2⟩
  | .clear => ⟨(n.set.clear n.store).1, (n.set.clear n.store).2⟩

def State.after (n : State) (calls : List Call) : State :=
  calls.foldl Call.run n

/-- The filter hides elements, and no member has its text. -/
def Takes (h : HideSet) (s : Store) (id : FilterId) (f : Filter) : Prop :=
  s.get? id = some f ∧ f.rule.hiding?.isSome = true ∧ ∀ m ∈ h.members, s.text? m ≠ some f.text

/-- The members have different texts, and these are the known ones. -/
structure Named (h : HideSet) (s : Store) : Prop where
  texts : (h.members.map s.text?).Nodup
  known : ∀ text, text ∈ h.known ↔ ∃ id ∈ h.members, s.text? id = some text

section Named

variable {h : HideSet} {s : Store} {id : FilterId} {text : String}

theorem named_empty (s : Store) : Named {} s where
  texts := List.nodup_nil
  known := by simp

theorem Named.of_text? {s' : Store} (named : h.Named s) (same : s'.text? = s.text?) :
    h.Named s' where
  texts := by rw [same]; exact named.texts
  known := by rw [same]; exact named.known

theorem Named.nodup (named : h.Named s) : h.members.Nodup :=
  named.texts.of_map

theorem Named.eq_of_text (named : h.Named s) {id' : FilterId} (member : id ∈ h.members)
    (member' : id' ∈ h.members) (same : s.text? id = s.text? id') : id = id' :=
  List.inj_on_of_nodup_map named.texts member member' same

theorem Named.not_mem_known (named : h.Named s) :
    text ∉ h.known ↔ ∀ m ∈ h.members, s.text? m ≠ some text := by
  rw [named.known]
  push Not
  rfl

theorem Takes.hasText {f : Filter} (takes : h.Takes s id f) : s.text? id = some f.text := by
  simp [Store.text?, takes.1]

theorem exists_takes
    (found : (s.get? id).any (fun f => f.rule.hiding?.isSome && f.text == text) = true)
    (fresh : ∀ m ∈ h.members, s.text? m ≠ some text) : ∃ f, h.Takes s id f ∧ f.text = text := by
  obtain ⟨f, stored, both⟩ := (Option.any_eq_true _ _).mp found
  obtain ⟨hides, same⟩ := Bool.and_eq_true_iff.mp both
  obtain rfl : f.text = text := beq_iff_eq.mp same
  exact ⟨f, ⟨stored, hides, fresh⟩, rfl⟩

theorem Takes.not_mem {f : Filter} (takes : h.Takes s id f) : id ∉ h.members :=
  fun member => takes.2.2 id member takes.hasText

theorem Named.add_cases (named : h.Named s) (id : FilterId) :
    ((∀ f key, h.Takes s id f → h.freeKey? f.text ≠ some key) ∧ h.add s id = (false, h, s)) ∨
      ∃ f key, h.Takes s id f ∧ h.freeKey? f.text = some key ∧ h.add s id =
        (true, ⟨h.members ++ [id], f.text :: h.known, h.keys.insert key id⟩,
          s.setKey id (some key)) := by
  unfold add
  cases stored : s.get? id with
  | none =>
      left
      refine ⟨?_, rfl⟩
      intro f key takes
      rw [takes.1] at stored
      cases stored
  | some f =>
      have only : ∀ g, h.Takes s id g → g = f := by
        intro g takes
        exact Option.some.inj (takes.1.symm.trans stored)
      by_cases refused : (f.rule.hiding?.isNone || h.known.contains f.text) = true
      · left
        refine ⟨?_, if_pos refused⟩
        intro g key takes
        obtain rfl := only g takes
        obtain ⟨-, hides, fresh⟩ := takes
        rcases Bool.or_eq_true_iff.mp refused with other | known
        · simp [Option.isNone_iff_eq_none.mp other] at hides
        · exact absurd (List.contains_iff_mem.mp known) (named.not_mem_known.mpr fresh)
      · rw [Bool.or_eq_true_iff, not_or] at refused
        have takes : h.Takes s id f := by
          refine ⟨stored, ?_, named.not_mem_known.mp ?_⟩
          · simpa [Option.isSome_iff_ne_none] using refused.1
          · simpa using refused.2
        simp only [refused, Bool.or_self, Bool.false_eq_true, if_false]
        cases search : h.freeKey? f.text with
        | none =>
            left
            refine ⟨?_, rfl⟩
            intro g key takes
            rw [only g takes, search]
            exact nofun
        | some key => exact .inr ⟨f, key, takes, search, rfl⟩

/-- The keys that are left when a filter has been taken out. -/
def keysWithout (h : HideSet) (s : Store) (id : FilterId) : OrderedMap FilterId :=
  match s.key? id with
  | some key => h.keys.erase key
  | none => h.keys

theorem remove_cases (h : HideSet) (s : Store) (text : String) :
    ((∀ id ∈ h.members, s.text? id ≠ some text) ∧ h.remove s text = (false, h, s)) ∨
      ∃ id, id ∈ h.members ∧ s.text? id = some text ∧ h.remove s text =
        (true, ⟨h.members.erase id, h.known.filter (· != text), h.keysWithout s id⟩,
          s.setKey id none) := by
  unfold remove
  cases search : h.members.find? (s.text? · == some text) with
  | none =>
      left
      refine ⟨?_, rfl⟩
      intro id member
      simpa using List.find?_eq_none.mp search id member
  | some id =>
      have hasText : s.text? id = some text := by
        simpa using List.find?_some search
      exact .inr ⟨id, List.mem_of_find?_eq_some search, hasText, rfl⟩

theorem Named.add (named : h.Named s) (id : FilterId) :
    Named (h.add s id).2.1 (h.add s id).2.2 := by
  rcases named.add_cases id with ⟨-, result⟩ | ⟨f, key, takes, -, result⟩
  · rw [result]
    exact named
  · rw [result]
    constructor
    · rw [Store.text?_setKey, List.map_append, List.nodup_append]
      refine ⟨named.texts, by simp, ?_⟩
      intro t inOld t' isNew
      obtain ⟨m, member, rfl⟩ := List.mem_map.mp inOld
      rw [List.map_singleton, List.mem_singleton, takes.hasText] at isNew
      rw [isNew]
      exact takes.2.2 m member
    · intro text
      rw [Store.text?_setKey, List.mem_cons, named.known]
      constructor
      · rintro (rfl | ⟨m, member, same⟩)
        · exact ⟨id, by simp, takes.hasText⟩
        · exact ⟨m, by simp [member], same⟩
      · rintro ⟨m, member, same⟩
        rcases List.mem_append.mp member with old | last
        · exact .inr ⟨m, old, same⟩
        · rw [List.mem_singleton.mp last, takes.hasText] at same
          exact .inl (Option.some.inj same).symm

theorem Named.remove (named : h.Named s) (text : String) :
    Named (h.remove s text).2.1 (h.remove s text).2.2 := by
  rcases h.remove_cases s text with ⟨-, result⟩ | ⟨id, member, hasText, result⟩
  · rw [result]
    exact named
  · rw [result]
    have kept : ∀ i, i ∈ h.members.erase id ↔ i ≠ id ∧ i ∈ h.members :=
      fun i => named.nodup.mem_erase_iff
    constructor
    · rw [Store.text?_setKey]
      exact named.texts.sublist (List.erase_sublist.map _)
    · intro t
      rw [Store.text?_setKey, List.mem_filter, named.known, bne_iff_ne]
      -- The text goes from the known ones for good: no member that stays has it too.
      constructor
      · rintro ⟨⟨m, old, same⟩, other⟩
        refine ⟨m, (kept m).mpr ⟨?_, old⟩, same⟩
        rintro rfl
        exact other (Option.some.inj (same.symm.trans hasText))
      · rintro ⟨m, rest, same⟩
        obtain ⟨other, old⟩ := (kept m).mp rest
        refine ⟨⟨m, old, same⟩, ?_⟩
        rintro rfl
        exact other (named.eq_of_text old member (same.trans hasText.symm))

end Named

/-- The members, their texts and their keys agree. -/
structure Keyed (h : HideSet) (s : Store) : Prop where
  texts : (h.members.map s.text?).Nodup
  known : ∀ text, text ∈ h.known ↔ ∃ id ∈ h.members, s.text? id = some text
  keys : ∀ key id, h.keys.get? key = some id ↔ s.key? id = some key
  carries : ∀ id, id ∈ h.members ↔ ∃ key, s.key? id = some key

section Keyed

variable {h : HideSet} {s : Store} {id : FilterId} {text : String}

theorem keyed_empty (fresh : ∀ id, s.key? id = none) : Keyed {} s where
  texts := List.nodup_nil
  known := by simp
  keys := by simp [fresh]
  carries := by simp [fresh]

theorem Keyed.named (keyed : h.Keyed s) : h.Named s where
  texts := keyed.texts
  known := keyed.known

theorem Keyed.remove_cases (keyed : h.Keyed s) (text : String) :
    ((∀ id ∈ h.members, s.text? id ≠ some text) ∧ h.remove s text = (false, h, s)) ∨
      ∃ id key, id ∈ h.members ∧ s.text? id = some text ∧ s.key? id = some key ∧
        h.remove s text = (true, ⟨h.members.erase id, h.known.filter (· != text), h.keys.erase key⟩,
          s.setKey id none) := by
  rcases h.remove_cases s text with missing | ⟨id, member, hasText, result⟩
  · exact .inl missing
  · obtain ⟨key, carried⟩ := (keyed.carries id).mp member
    refine .inr ⟨id, key, member, hasText, carried, ?_⟩
    rw [result, keysWithout, carried]

theorem Keyed.add (keyed : h.Keyed s) (id : FilterId) :
    Keyed (h.add s id).2.1 (h.add s id).2.2 := by
  have named := keyed.named.add id
  rcases keyed.named.add_cases id with ⟨-, result⟩ | ⟨f, key, takes, search, result⟩
  · rw [result]
    exact keyed
  · rw [result] at named ⊢
    have bare : s.key? id = none := by
      rw [Option.eq_none_iff_forall_ne_some]
      intro k carried
      exact takes.not_mem ((keyed.carries id).mpr ⟨k, carried⟩)
    have free : h.keys.get? key = none := get?_of_freeKey? search
    have given := Store.key?_setKey_self takes.1 (some key)
    refine ⟨named.texts, named.known, ?_, ?_⟩
    · intro k i
      rw [OrderedMap.get?_insert]
      -- Inserting the key takes it from no other filter, since it was free.
      by_cases own : i = id
      · subst own
        rw [given]
        split
        · rename_i isKey
          simp [isKey]
        · rename_i other
          rw [keyed.keys, bare]
          simp [Ne.symm other]
      · rw [Store.key?_setKey_of_ne own, ← keyed.keys]
        split
        · rename_i isKey
          simp [isKey, free, Ne.symm own]
        · exact Iff.rfl
    · intro i
      by_cases own : i = id
      · subst own
        simp [given]
      · rw [Store.key?_setKey_of_ne own, ← keyed.carries]
        simp [own]

theorem Keyed.remove (keyed : h.Keyed s) (text : String) :
    Keyed (h.remove s text).2.1 (h.remove s text).2.2 := by
  have named := keyed.named.remove text
  rcases keyed.remove_cases text with ⟨-, result⟩ | ⟨id, key, member, hasText, carried, result⟩
  · rw [result]
    exact keyed
  · rw [result] at named ⊢
    have kept : ∀ i, i ∈ h.members.erase id ↔ i ≠ id ∧ i ∈ h.members :=
      fun i => keyed.named.nodup.mem_erase_iff
    refine ⟨named.texts, named.known, ?_, ?_⟩
    · intro k i
      rw [OrderedMap.get?_erase, Store.key?_setKey_none]
      by_cases own : i = id
      · subst own
        rw [if_pos rfl]
        split
        · simp
        · rename_i other
          rw [keyed.keys, carried]
          simp [Ne.symm other]
      · rw [if_neg own, ← keyed.keys]
        split
        · rename_i isKey
          have holds := (keyed.keys key id).mpr carried
          simp [isKey, holds, Ne.symm own]
        · exact Iff.rfl
    · intro i
      rw [kept, Store.key?_setKey_none]
      by_cases own : i = id
      · simp [own]
      · simp [own, keyed.carries]

theorem key?_clear (ids : List FilterId) (s : Store) (i : FilterId) :
    (ids.foldl (fun s id => s.setKey id none) s).key? i = if i ∈ ids then none else s.key? i := by
  induction ids generalizing s with
  | nil => simp
  | cons id ids ih =>
      rw [List.foldl_cons, ih, Store.key?_setKey_none]
      by_cases own : i = id
      · simp [own]
      · simp [own]

theorem Keyed.clear (keyed : h.Keyed s) : Keyed (h.clear s).1 (h.clear s).2 := by
  apply keyed_empty
  intro i
  rw [HideSet.clear, key?_clear]
  split
  · rfl
  · rename_i other
    rw [Option.eq_none_iff_forall_ne_some]
    intro key carried
    exact other ((keyed.carries i).mpr ⟨key, carried⟩)

theorem Keyed.run {n : State} (keyed : n.set.Keyed n.store) (call : Call) :
    (call.run n).set.Keyed (call.run n).store := by
  cases call with
  | add id => exact keyed.add id
  | remove text => exact keyed.remove text
  | clear => exact keyed.clear

theorem Keyed.after {n : State} (keyed : n.set.Keyed n.store) (calls : List Call) :
    (n.after calls).set.Keyed (n.after calls).store := by
  induction calls generalizing n with
  | nil => exact keyed
  | cons call calls ih => exact ih (keyed.run call)

end Keyed

end HideSet

end AdFilter
