import AdFilter.Proofs.HideSet.Sharing
import Mathlib.Data.Fintype.Card
import Mathlib.Data.Set.List
import Mathlib.Order.Nat

/-! # The attempts at a key

The attempts at a key for a short text all give different keys. So the search for a free key tries
at most one key more than the set has, and gives the key of the first attempt that is not taken. It
would fail to end only if all words were taken.
-/

namespace AdFilter.HideSet

/-- The first attempt at a key for the text that is not taken. -/
structure FirstFree (h : HideSet) (text : String) (attempt : UInt64) : Prop where
  free : Digest.key text attempt ∉ h.keys.keys
  taken : ∀ earlier < attempt, Digest.key text earlier ∈ h.keys.keys

def Spelled (h : HideSet) : Prop :=
  h.keys.All fun key _ => ∃ w, key = Digest.hexWord w

section Search

variable {isFree : String → Bool} {text : String}

theorem freeKeyFrom?_eq {first : Nat} {start : UInt64}
    (free : isFree (Digest.key text (start + UInt64.ofNat first)) = true)
    (taken : ∀ i < first, isFree (Digest.key text (start + UInt64.ofNat i)) = false)
    (attempts : Nat) :
    freeKeyFrom? isFree text attempts start =
      if first < attempts then some (Digest.key text (start + UInt64.ofNat first)) else none := by
  induction attempts generalizing first start with
  | zero => rfl
  | succ attempts ih =>
      rw [freeKeyFrom?]
      cases first with
      | zero =>
          have now : isFree (Digest.key text start) = true := by simpa using free
          simp [now]
      | succ first =>
          have now : isFree (Digest.key text start) = false := by
            simpa using taken 0 (Nat.succ_pos first)
          rw [add_ofNat_succ] at free ⊢
          have later : ∀ i < first,
              isFree (Digest.key text (start + 1 + UInt64.ofNat i)) = false := by
            intro i small
            rw [← add_ofNat_succ]
            exact taken (i + 1) (Nat.succ_lt_succ small)
          simp [now, ih free later]

end Search

section Attempts

variable {h : HideSet} {text : String} {attempt : UInt64}

theorem ofNat_lt_of_lt_toNat {i : Nat} (small : i < attempt.toNat) : UInt64.ofNat i < attempt := by
  rw [UInt64.lt_iff_toNat_lt, UInt64.toNat_ofNat_of_lt' (Nat.lt_trans small attempt.toNat_lt)]
  exact small

theorem FirstFree.freeKeyFrom?_eq (first : h.FirstFree text attempt) (attempts : Nat) :
    freeKeyFrom? (fun key => !h.keys.contains key) text attempts 0 =
      if attempt.toNat < attempts then some (Digest.key text attempt) else none := by
  have isFree_iff (a : UInt64) :
      (!h.keys.contains (Digest.key text a)) = true ↔ Digest.key text a ∉ h.keys.keys := by
    rw [Bool.not_eq_true', ← Bool.not_eq_true, OrderedMap.contains_iff_mem_keys]
  have free : (!h.keys.contains (Digest.key text (0 + UInt64.ofNat attempt.toNat))) = true := by
    rw [UInt64.ofNat_toNat, UInt64.zero_add, isFree_iff]
    exact first.free
  have taken : ∀ i < attempt.toNat,
      (!h.keys.contains (Digest.key text (0 + UInt64.ofNat i))) = false := by
    intro i small
    rw [UInt64.zero_add, ← Bool.not_eq_true, isFree_iff]
    exact fun free => free (first.taken _ (ofNat_lt_of_lt_toNat small))
  have result : freeKeyFrom? (fun key => !h.keys.contains key) text attempts 0 = _ :=
    HideSet.freeKeyFrom?_eq free taken attempts
  rwa [UInt64.ofNat_toNat, UInt64.zero_add] at result

theorem FirstFree.freeKey?_eq (first : h.FirstFree text attempt) :
    h.freeKey? text = some (Digest.key text attempt) :=
  (first.freeKeyFrom?_eq UInt64.size).trans (if_pos attempt.toNat_lt)

/-- Among more attempts than the set has keys one is free. -/
theorem exists_free_attempt (short : (Digest.bytesOf text).length < 32) {attempts : Nat}
    (small : attempts ≤ UInt64.size) (more : h.keys.size < attempts) :
    ∃ i < attempts, Digest.key text (UInt64.ofNat i) ∉ h.keys.keys := by
  by_contra! taken
  have fits := length_le_of_taken (h := h) (Digest.nodup_keys_of_short short small) <| by
    intro attempt member
    obtain ⟨i, inside, rfl⟩ := List.mem_map.mp member
    exact taken i (List.mem_range.mp inside)
  rw [List.length_map, List.length_range] at fits
  omega

theorem FirstFree.toNat_le (short : (Digest.bytesOf text).length < 32)
    (first : h.FirstFree text attempt) : attempt.toNat ≤ h.keys.size := by
  by_contra! more
  obtain ⟨i, before, free⟩ := exists_free_attempt short (Nat.le_of_lt attempt.toNat_lt) more
  exact free (first.taken _ (ofNat_lt_of_lt_toNat before))

theorem exists_firstFree (short : (Digest.bytesOf text).length < 32)
    (small : h.keys.size < UInt64.size) : ∃ attempt, h.FirstFree text attempt := by
  classical
  have someFree := exists_free_attempt short small (Nat.lt_succ_self h.keys.size)
  obtain ⟨inside, free⟩ := Nat.find_spec someFree
  refine ⟨UInt64.ofNat (Nat.find someFree), free, ?_⟩
  intro earlier before
  rw [UInt64.lt_iff_toNat_lt, UInt64.toNat_ofNat_of_lt' (Nat.lt_of_lt_of_le inside small)] at before
  by_contra free'
  refine Nat.find_min someFree before ⟨Nat.lt_trans before inside, ?_⟩
  rwa [UInt64.ofNat_toNat]

theorem Spelled.size_lt (spelled : h.Spelled) {w : UInt64}
    (free : Digest.hexWord w ∉ h.keys.keys) : h.keys.size < UInt64.size := by
  have words : Digest.hexWord w :: h.keys.keys ∈ Set.range (List.map Digest.hexWord) := by
    rw [Set.range_list_map]
    intro key member
    rcases List.mem_cons.mp member with rfl | old
    · exact ⟨w, rfl⟩
    · obtain ⟨id, found⟩ := h.keys.mem_keys_iff.mp old
      obtain ⟨v, rfl⟩ := spelled key id found
      exact ⟨v, rfl⟩
  obtain ⟨vs, spelling⟩ := words
  have different : (vs.map UInt64.toFin).Nodup := by
    apply List.Nodup.map fun _ _ same => UInt64.toFin_inj.mp same
    apply List.Nodup.of_map Digest.hexWord
    rw [spelling]
    exact List.nodup_cons.mpr ⟨free, h.keys.nodup_keys⟩
  have fits := different.length_le_card
  have number := congrArg List.length spelling
  rw [List.length_map, Fintype.card_fin] at fits
  simp only [List.length_map, List.length_cons, OrderedMap.keys] at number
  rw [OrderedMap.size]
  omega

end Attempts

section Calls

variable {n : State}

theorem spelled_empty : Spelled {} :=
  OrderedMap.all_empty _

theorem Spelled.run (named : n.set.Named n.store) (spelled : n.set.Spelled) (call : Call) :
    (call.run n).set.Spelled := by
  cases call with
  | add id =>
      rw [Call.run]
      rcases named.add_cases id with ⟨-, result⟩ | ⟨f, key, -, search, result⟩
      · rw [result]
        exact spelled
      · rw [result]
        obtain ⟨attempt, rfl, -⟩ := exists_attempt_of_freeKeyFrom? search
        exact OrderedMap.All.insert spelled ⟨_, rfl⟩
  | remove text =>
      rw [Call.run]
      rcases n.set.remove_cases n.store text with ⟨-, result⟩ | ⟨id, -, -, result⟩
      · rw [result]
        exact spelled
      · rw [result]
        unfold Spelled keysWithout
        split
        · exact OrderedMap.All.erase spelled _
        · exact spelled
  | clear => exact spelled_empty

theorem size_keys_run_le (named : n.set.Named n.store) (call : Call) :
    (call.run n).set.keys.size ≤ n.set.keys.size + 1 := by
  cases call with
  | add id =>
      rw [Call.run]
      rcases named.add_cases id with ⟨-, result⟩ | ⟨f, key, -, -, result⟩
      · rw [result]
        exact Nat.le_succ _
      · rw [result]
        exact OrderedMap.size_insert_le _ _ _
  | remove text =>
      rw [Call.run]
      rcases n.set.remove_cases n.store text with ⟨-, result⟩ | ⟨id, -, -, result⟩
      · rw [result]
        exact Nat.le_succ _
      · rw [result]
        unfold keysWithout
        split
        · exact Nat.le_succ_of_le (OrderedMap.size_erase_le _ _)
        · exact Nat.le_succ _
  | clear => exact Nat.zero_le _

theorem Named.run (named : n.set.Named n.store) (call : Call) :
    (call.run n).set.Named (call.run n).store := by
  cases call with
  | add id => exact named.add id
  | remove text => exact named.remove text
  | clear => exact named_empty _

/-- The members have different texts, which are the known ones, and the keys are words, of which there
are at most `bound`. -/
structure Bounded (h : HideSet) (s : Store) (bound : Nat) : Prop extends Named h s where
  spelled : h.Spelled
  size_le : h.keys.size ≤ bound

theorem bounded_empty (s : Store) : Bounded {} s 0 where
  toNamed := named_empty s
  spelled := spelled_empty
  size_le := Nat.le_refl 0

theorem Bounded.run {bound : Nat} (bounded : n.set.Bounded n.store bound) (call : Call) :
    (call.run n).set.Bounded (call.run n).store (bound + 1) where
  toNamed := bounded.toNamed.run call
  spelled := bounded.spelled.run bounded.toNamed call
  size_le := (size_keys_run_le bounded.toNamed call).trans (Nat.succ_le_succ bounded.size_le)

end Calls

namespace Family

variable {ι : Type} [DecidableEq ι] {n : Family ι}

theorem bounded_run {bound : Nat} (bounded : ∀ i, (n.sets i).Bounded n.store bound)
    (on : ι × Call) (j : ι) : ((n.run on).sets j).Bounded (n.run on).store (bound + 1) := by
  obtain ⟨i, call⟩ := on
  by_cases own : j = i
  · subst own
    rw [sets_run_self]
    exact Bounded.run (n := ⟨n.sets j, n.store⟩) (bounded j) call
  · rw [sets_run_of_ne n own]
    have texts := text?_run (n := ⟨n.sets i, n.store⟩) (bounded i).toNamed call
    exact ⟨(bounded j).toNamed.of_text? texts, (bounded j).spelled,
      Nat.le_succ_of_le (bounded j).size_le⟩

theorem bounded_after (s : Store) (calls : List (ι × Call)) (i : ι) :
    ((after { store := s } calls).sets i).Bounded (after { store := s } calls).store
      calls.length := by
  induction calls using List.reverseRecOn generalizing i with
  | nil => exact bounded_empty s
  | append_singleton calls on ih =>
      rw [after_concat, List.length_append]
      exact bounded_run ih on i

/-- The keys of a short text at all attempts are different: they are the digests of the text under
    different seeds, each in sixteen hexadecimal digits. If a set holds no such text, then its search
    for a key ends if and only if it has fewer keys than there are words, and it has no more than
    there were calls. The search gives the key of the first attempt that is free. No more attempts
    come before it than the set has keys, and the filter is added under this key. -/
theorem key_of_first_free_attempt (s : Store) (calls : List (ι × Call)) (i : ι) :
    let n := after { store := s } calls
    let h := n.sets i
    ∀ id f, h.Takes n.store id f → (Digest.bytesOf f.text).length < 32 →
      Function.Injective (Digest.key f.text) ∧
      (∀ attempt, Digest.Spells (Digest.key f.text attempt)
        (Digest.xxh64 (Digest.keySeed + attempt) (Digest.bytesOf f.text))) ∧
      h.keys.size ≤ calls.length ∧
      (h.keys.size < UInt64.size ↔ ∃ attempt, h.FirstFree f.text attempt) ∧
      ∀ attempt, h.FirstFree f.text attempt →
        attempt.toNat ≤ h.keys.size ∧
        (∀ attempts, freeKeyFrom? (fun key => !h.keys.contains key) f.text attempts 0 =
          if attempt.toNat < attempts then some (Digest.key f.text attempt) else none) ∧
        h.add n.store id = (true,
          ⟨h.members ++ [id], f.text :: h.known, h.keys.insert (Digest.key f.text attempt) id⟩,
          n.store.setKey id (some (Digest.key f.text attempt))) := by
  intro n h id f takes short
  have bounded : h.Bounded n.store calls.length := bounded_after s calls i
  refine ⟨Digest.key_injective short, fun _ => Digest.spells_hexWord _, bounded.size_le, ?_, ?_⟩
  · constructor
    · exact exists_firstFree short
    · rintro ⟨attempt, first⟩
      exact bounded.spelled.size_lt first.free
  · intro attempt first
    refine ⟨first.toNat_le short, first.freeKeyFrom?_eq, ?_⟩
    rcases bounded.add_cases id with ⟨refused, -⟩ | ⟨f', key, takes', search, result⟩
    · exact absurd first.freeKey?_eq (refused f _ takes)
    · obtain rfl : f = f' := Option.some.inj (takes.1.symm.trans takes'.1)
      obtain rfl := Option.some.inj (first.freeKey?_eq.symm.trans search)
      exact result

/-- A text whose first key is taken by another one is given its second. -/
theorem key_of_first_free_attempt_colliding :
    let s := ((Interning.start .lenient).after
      [.ofText "##.collide-ad-01", .ofText "##ozrp[oBDyt:MZc"]).store
    let n := after { store := s } [((), .add 0)]
    let h := n.sets ()
    h.FirstFree "##ozrp[oBDyt:MZc" 1 ∧ h.keys.size < UInt64.size ∧
      (h.add n.store 1).2.1.keys =
        h.keys.insert (Digest.key "##ozrp[oBDyt:MZc" 1) 1 := by
  intro s n h
  obtain ⟨f, takes, sameText⟩ : ∃ f, h.Takes n.store 1 f ∧ f.text = "##ozrp[oBDyt:MZc" :=
    exists_takes (by decide +kernel) (by decide +kernel)
  have first : h.FirstFree "##ozrp[oBDyt:MZc" 1 := by
    refine ⟨by decide +kernel, ?_⟩
    intro earlier before
    obtain rfl : earlier = 0 := by
      rw [UInt64.lt_iff_toNat_lt, UInt64.toNat_one, Nat.lt_one_iff] at before
      exact UInt64.toNat_inj.mp before
    decide +kernel
  obtain ⟨-, -, -, small, finds⟩ := key_of_first_free_attempt s [((), .add 0)] () 1 f takes (by
    rw [sameText]
    decide +kernel)
  rw [sameText] at small finds
  obtain ⟨-, -, result⟩ := finds 1 first
  exact ⟨first, small.mpr ⟨1, first⟩, by rw [result]⟩

end Family

end AdFilter.HideSet
