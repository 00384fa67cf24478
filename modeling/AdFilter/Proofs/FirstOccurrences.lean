import Mathlib.Data.List.Induction
import Mathlib.Data.List.Nodup

/-! # First occurrences

Without its repetitions a list holds each item at the place where it occurs first.
-/

namespace AdFilter

variable {α β : Type}

/-- One of the items that give `a` comes before all items that give `b`. -/
def GivenBefore (R : α → α → Prop) (f : α → Option β) (items : List α) (a b : β) : Prop :=
  ∃ item ∈ items, f item = some a ∧ ∀ item' ∈ items, f item' = some b → R item item'

theorem GivenBefore.concat {R : α → α → Prop} {f : α → Option β} {items : List α} {a b : β}
    (given : GivenBefore R f items a b) {last : α} (behind : ∀ item ∈ items, R item last) :
    GivenBefore R f (items ++ [last]) a b := by
  obtain ⟨item, member, gives, first⟩ := given
  refine ⟨item, List.mem_append_left _ member, gives, fun item' member' gives' => ?_⟩
  rcases List.mem_append.mp member' with old | new
  · exact first item' old gives'
  · exact List.mem_singleton.mp new ▸ behind item member

section EraseDups

variable [BEq β] [LawfulBEq β]

theorem eraseDups_concat (items : List β) (item : β) : (items ++ [item]).eraseDups =
    if items.contains item then items.eraseDups else items.eraseDups ++ [item] := by
  rw [List.eraseDups_append, List.cons_removeAll]
  cases items.contains item <;> simp [List.removeAll, List.eraseDups_cons]

theorem nodup_eraseDups (items : List β) : items.eraseDups.Nodup := by
  induction items using List.reverseRecOn with
  | nil => exact List.nodup_nil
  | append_singleton items item ih =>
      rw [eraseDups_concat]
      split
      · exact ih
      · rename_i fresh
        rw [List.contains_iff_mem, ← List.mem_eraseDups] at fresh
        exact List.concat_eq_append ▸ (List.nodup_concat _ _).mpr ⟨fresh, ih⟩

theorem pairwise_eraseDups_filterMap {R : α → α → Prop} {items : List α} (f : α → Option β)
    (ordered : items.Pairwise R) :
    (items.filterMap f).eraseDups.Pairwise (GivenBefore R f items) := by
  induction items using List.reverseRecOn with
  | nil => exact List.Pairwise.nil
  | append_singleton items last ih =>
      obtain ⟨front, -, before⟩ := List.pairwise_append.mp ordered
      have behind : ∀ item ∈ items, R item last := fun item member =>
        before item member last (List.mem_singleton_self last)
      have kept := (ih front).imp fun given => given.concat behind
      rw [List.filterMap_append]
      cases gives : f last with
      | none => simpa [gives] using kept
      | some b =>
          have single : [last].filterMap f = [b] := by simp [gives]
          rw [single, eraseDups_concat]
          split
          · exact kept
          · rename_i fresh
            refine List.pairwise_append.mpr ⟨kept, List.pairwise_singleton _ _, ?_⟩
            intro a old b' new
            obtain rfl := List.mem_singleton.mp new
            obtain ⟨item, member, given⟩ := List.mem_filterMap.mp (List.mem_eraseDups.mp old)
            have first : GivenBefore R f items a b' := by
              refine ⟨item, member, given, fun item' member' given' => ?_⟩
              have again : b' ∈ items.filterMap f := List.mem_filterMap.mpr ⟨item', member', given'⟩
              exact absurd (List.contains_iff_mem.mpr again) fresh
            exact first.concat behind

end EraseDups

end AdFilter
