import AdFilter.Proofs.Regex.Sequence
import AdFilter.Proofs.Unicode.CaseMates
import AdFilter.Regex.Footprint
import Mathlib.Algebra.Order.BigOperators.Group.List
import Mathlib.Algebra.Order.Group.Nat

/-! # Bounds on the size of expressions

How large an expression is depends on how many ranges its sets have. The word characters are made
of long tables, and the spans of a table are not counted here: there are no more of them than
characters in its rows.
-/

namespace AdFilter

open Text Unicode

theorem Text.length_pieces_le (sep : Char) (cs : List Char) :
    (pieces sep cs).length ≤ cs.length + 1 := by
  induction cs with
  | nil => exact Nat.le_refl 1
  | cons c cs ih =>
      rw [pieces]
      split
      · simpa using ih
      · split
        · simp
        · rename_i cut
          rw [cut] at ih
          simp only [List.length_cons] at ih ⊢
          omega

namespace Unicode

theorem Ranges.size_ofText_le {rows : List String} {n : Nat}
    (short : ∀ row ∈ rows, row.toList.length < n) : (ofText rows).size ≤ rows.length * n := by
  rw [size, ofText, List.length_flatMap]
  have each : ∀ k ∈ rows.map fun row => ((pieces ' ' row.toList).map Span.ofChars).length,
      k ≤ n := by
    intro k member
    obtain ⟨row, isRow, rfl⟩ := List.mem_map.mp member
    rw [List.length_map]
    exact Nat.le_trans (length_pieces_le ' ' row.toList) (short row isRow)
  simpa using List.sum_le_card_nsmul _ n each

/-- One table has the name, and it is written in at most `n` rows of less than a hundred
    characters. -/
def Table.WrittenIn (tables : List Table) (name : String) (n : Nat) : Prop :=
  ∃ rows, Table.named tables name = [.ofText rows] ∧ rows.length ≤ n ∧
    ∀ row ∈ rows, decide (row.toList.length < 100) = true

theorem alphabetic_writtenIn : Table.WrittenIn identifierProperties "alphabetic" 84 := by
  refine ⟨_, rfl, by decide +kernel, ?_⟩
  repeat refine forall_rows_cons (fun cs => decide (cs.length < 100)) rfl (by decide +kernel) ?_
  exact fun _ member => nomatch member

theorem categories_writtenIn :
    ∀ name ∈ ["mn", "mc", "me", "nd", "pc"], Table.WrittenIn categories name 37 := by
  simp only [List.forall_mem_cons, List.not_mem_nil, false_implies, implies_true, and_true]
  refine ⟨⟨_, rfl, by decide +kernel, ?_⟩, ⟨_, rfl, by decide +kernel, ?_⟩,
    ⟨_, rfl, by decide +kernel, ?_⟩, ⟨_, rfl, by decide +kernel, ?_⟩,
    ⟨_, rfl, by decide +kernel, ?_⟩⟩
  all_goals
    repeat refine forall_rows_cons (fun cs => decide (cs.length < 100)) rfl (by decide +kernel) ?_
    exact fun _ member => nomatch member

end Unicode

namespace Regex

namespace CharSet

theorem rangeCount_named_le {tables : List Table} {name : String} {n : Nat}
    (written : Table.WrittenIn tables name n) : (named tables name).rangeCount ≤ n * 100 := by
  obtain ⟨rows, isNamed, few, short⟩ := written
  have size : (Ranges.ofText rows).size ≤ rows.length * 100 :=
    Ranges.size_ofText_le (by simpa using short)
  rw [named, isNamed]
  exact Nat.le_trans size (Nat.mul_le_mul_right 100 few)

theorem rangeCount_unions_le {sets : List CharSet} {n : Nat}
    (each : ∀ s ∈ sets, s.rangeCount ≤ n) : (unions sets).rangeCount ≤ sets.length * n := by
  match sets with
  | [] => exact Nat.zero_le _
  | [s] => simpa [unions] using each s List.mem_cons_self
  | s :: next :: rest =>
      have first := each s List.mem_cons_self
      have ih := rangeCount_unions_le fun s member => each s (List.mem_cons_of_mem _ member)
      rw [List.length_cons, Nat.succ_mul, unions, rangeCount]
      · omega
      · simp

theorem rangeCount_word_le : word.rangeCount ≤ 70000 := by
  have each : ∀ s ∈ named identifierProperties "alphabetic" ::
      ["mn", "mc", "me", "nd", "pc"].map (named categories) ++ [.range '\u200C' '\u200D'],
      s.rangeCount ≤ 8400 := by
    intro s member
    simp only [List.cons_append, List.mem_cons, List.mem_append, List.mem_map, List.not_mem_nil,
      or_false] at member
    rcases member with rfl | ⟨name, isName, rfl⟩ | rfl
    · exact rangeCount_named_le alphabetic_writtenIn
    · have written := categories_writtenIn name (by simpa using isName)
      exact Nat.le_trans (rangeCount_named_le written) (by decide)
    · decide
  have ascii : asciiWord.rangeCount = 4 := rfl
  have beyond := rangeCount_unions_le each
  simp only [List.length_append, List.length_cons, List.length_map, List.length_nil] at beyond
  rw [word, rangeCount, beyondAscii, rangeCount, rangeCount, ascii]
  omega

theorem rangeCount_fold_le (s : CharSet) : (fold s).rangeCount ≤ 2 * s.rangeCount := by
  rw [rangeCount]
  split <;> omega

theorem footprint_le (s : CharSet) : s.footprint ≤ 128 + 36 * s.rangeCount := by
  have others : (if s.withinAscii then stateSize + transitionSize * s.rangeCount
      else (stateSize + alternativeSize) * s.rangeCount) ≤ 128 + 36 * s.rangeCount := by
    simp only [stateSize, transitionSize, alternativeSize]
    split <;> omega
  cases s with
  | range lo hi =>
      have size := lo.utf8Size_le_four
      simp only [footprint, rangeCount, stateSize]
      split <;> omega
  | empty | table | union | inter | diff | compl | fold | asciiFold => exact others

end CharSet

def footprints : List Regex → Nat
  | [] => 0
  | r :: rest => footprint r + footprints rest

theorem footprints_append (rs rs' : List Regex) :
    footprints (rs ++ rs') = footprints rs + footprints rs' := by
  induction rs with
  | nil => simp [footprints]
  | cons r rs ih => simp [footprints, ih, Nat.add_assoc]

theorem footprints_le {rs : List Regex} {n : Nat} (each : ∀ r ∈ rs, footprint r ≤ n) :
    footprints rs ≤ rs.length * n := by
  induction rs with
  | nil => exact Nat.zero_le _
  | cons r rs ih =>
      have first := each r List.mem_cons_self
      have rest := ih fun r' member => each r' (List.mem_cons_of_mem r member)
      rw [footprints, List.length_cons, Nat.succ_mul]
      omega

theorem footprint_chain_le (rs : List Regex) :
    footprint (chain rs) ≤ stateSize + footprints rs := by
  induction rs with
  | nil => exact Nat.le_refl _
  | cons r rest ih =>
      cases rest with
      | nil => simp [chain, footprints]
      | cons next rest =>
          rw [chain, footprint, footprints]
          · omega
          · simp

end Regex

end AdFilter
