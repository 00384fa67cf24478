import AdFilter.HideSet
import AdFilter.Proofs.Digest.Seeds
import AdFilter.Proofs.OrderedMap
import Mathlib.Data.List.Perm.Subperm

/-! # Finding a free key

The search for a key tries every seed. So it finds a key if one of the keys of the text is free,
and one is free if the text has more keys than there are members.
-/

namespace AdFilter.HideSet

section Search

variable {isFree : String → Bool} {text : String}

theorem add_ofNat_succ (attempt : UInt64) (i : Nat) :
    attempt + UInt64.ofNat (i + 1) = attempt + 1 + UInt64.ofNat i := by
  rw [UInt64.ofNat_add, UInt64.add_comm (UInt64.ofNat i), UInt64.add_assoc]
  rfl

theorem exists_attempt_of_freeKeyFrom? {attempts : Nat} {attempt : UInt64} {key : String}
    (found : freeKeyFrom? isFree text attempts attempt = some key) :
    ∃ attempt', key = Digest.key text attempt' ∧ isFree key = true := by
  induction attempts generalizing attempt with
  | zero => simp [freeKeyFrom?] at found
  | succ attempts ih =>
      simp only [freeKeyFrom?] at found
      split at found
      · rename_i free
        obtain rfl := Option.some.inj found
        exact ⟨attempt, rfl, free⟩
      · exact ih found

theorem taken_of_freeKeyFrom? {attempts : Nat} {attempt : UInt64}
    (nothing : freeKeyFrom? isFree text attempts attempt = none) :
    ∀ i < attempts, isFree (Digest.key text (attempt + UInt64.ofNat i)) = false := by
  induction attempts generalizing attempt with
  | zero =>
      intro i small
      omega
  | succ attempts ih =>
      simp only [freeKeyFrom?] at nothing
      split at nothing
      · simp at nothing
      · rename_i taken
        intro i small
        cases i with
        | zero => simpa using taken
        | succ i =>
            rw [add_ofNat_succ]
            exact ih nothing i (by omega)

end Search

variable {h : HideSet} {text : String}

theorem get?_of_freeKey? {key : String} (found : h.freeKey? text = some key) :
    h.keys.get? key = none := by
  obtain ⟨-, -, free⟩ := exists_attempt_of_freeKeyFrom? found
  simpa [OrderedMap.contains] using free

theorem taken_of_freeKey? (nothing : h.freeKey? text = none) (attempt : UInt64) :
    Digest.key text attempt ∈ h.keys.keys := by
  have taken := taken_of_freeKeyFrom? nothing attempt.toNat attempt.toNat_lt
  rw [UInt64.ofNat_toNat, UInt64.zero_add] at taken
  obtain ⟨id, holds⟩ : ∃ id, h.keys.get? (Digest.key text attempt) = some id := by
    simpa [OrderedMap.contains, Option.isSome_iff_exists] using taken
  exact List.mem_map.mpr ⟨_, (OrderedMap.get?_eq_some_iff h.keys).mp holds, rfl⟩

theorem length_le_of_taken {attempts : List UInt64}
    (nodup : (attempts.map (Digest.key text)).Nodup)
    (taken : ∀ attempt ∈ attempts, Digest.key text attempt ∈ h.keys.keys) :
    attempts.length ≤ h.keys.size := by
  have inside : attempts.map (Digest.key text) ⊆ h.keys.keys := by
    intro key member
    obtain ⟨attempt, isAttempt, rfl⟩ := List.mem_map.mp member
    exact taken attempt isAttempt
  have fits := (List.subperm_of_subset nodup inside).length_le
  simpa only [List.length_map, OrderedMap.keys, OrderedMap.size] using fits

/-- A text with more keys than are taken has a free one. -/
theorem exists_freeKey? (enough : Digest.HasKeys text (h.keys.size + 1)) :
    ∃ key, h.freeKey? text = some key := by
  cases search : h.freeKey? text with
  | some key => exact ⟨key, rfl⟩
  | none =>
      obtain ⟨attempts, number, nodup⟩ := enough
      have fits := length_le_of_taken nodup fun attempt _ => taken_of_freeKey? search attempt
      omega

end AdFilter.HideSet
