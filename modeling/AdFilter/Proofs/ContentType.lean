import AdFilter.ContentType
import Mathlib.Data.List.Nodup

/-! # Masks of types

Masks are compared bit by bit: two of them meet if they share a bit, and taking the mask of a type
away clears the bit of that type.
-/

namespace AdFilter

theorem ContentType.bitIndex_lt (t : ContentType) : t.bitIndex < 32 := by
  cases t <;> decide

theorem ContentType.getLsbD_mask (t : ContentType) (i : Nat) :
    t.mask.getLsbD i = decide (t.bitIndex = i) := by
  have := t.bitIndex_lt
  rw [mask, BitVec.getLsbD_twoPow]
  by_cases same : t.bitIndex = i
  · subst same
    simp [this]
  · simp [same]

theorem ContentType.ofName?_eq_some {name : String} {t : ContentType} :
    ofName? name = some t ↔ name = t.name := by
  constructor
  · intro found
    have named := List.find?_some found
    exact (beq_iff_eq.mp named).symm
  · rintro rfl
    cases t <;> rfl

theorem ContentType.mem_all (t : ContentType) : t ∈ all := by
  cases t <;> decide

theorem ContentType.bitIndex_inj {t t' : ContentType} : t.bitIndex = t'.bitIndex ↔ t = t' := by
  have nodup : (all.map bitIndex).Nodup := by decide
  exact ⟨List.inj_on_of_nodup_map nodup t.mem_all t'.mem_all, congrArg bitIndex⟩

theorem TypeMask.has_standard (t : ContentType) : TypeMask.standard.has t = true := by
  cases t <;> rfl

namespace TypeMask

variable {m n : TypeMask} {t : ContentType}

theorem getLsbD_without_mask (m : TypeMask) (t : ContentType) (i : Nat) :
    (m.without t.mask).getLsbD i = (m.getLsbD i && decide (t.bitIndex ≠ i)) := by
  rw [without, BitVec.getLsbD_and, BitVec.getLsbD_not, t.getLsbD_mask]
  by_cases inside : i < 32
  · simp [inside]
  · simp [BitVec.getLsbD_of_ge m i (by omega)]

theorem meets_iff : m.meets n = true ↔ ∃ i, m.getLsbD i = true ∧ n.getLsbD i = true := by
  have empty : m &&& n = 0 ↔ ∀ i, (m.getLsbD i && n.getLsbD i) = false := by
    constructor
    · intro nothing i
      rw [← BitVec.getLsbD_and, nothing]
      exact BitVec.getLsbD_zero
    · intro none
      refine BitVec.eq_of_getLsbD_eq fun i _ => ?_
      rw [BitVec.getLsbD_and, none i]
      exact BitVec.getLsbD_zero.symm
  rw [meets, bne_iff_ne, ne_eq, empty]
  simp

theorem meets_mask : t.mask.meets m = m.has t := by
  rw [Bool.eq_iff_iff, meets_iff]
  simp [t.getLsbD_mask, has]

theorem meets_without_mask (other : m.has t = false) : m.meets (n.without t.mask) = m.meets n := by
  rw [Bool.eq_iff_iff, meets_iff, meets_iff]
  refine exists_congr fun i => and_congr_right fun member => ?_
  have apart : t.bitIndex ≠ i := by
    rintro rfl
    rw [has, member] at other
    cases other
  simp [getLsbD_without_mask, apart]

theorem has_without_mask (m : TypeMask) (t : ContentType) : (m.without t.mask).has t = false := by
  simp [has, getLsbD_without_mask]

end TypeMask

end AdFilter
