import AdFilter.Proofs.OrderedMap
import AdFilter.Proofs.Text.Pieces
import AdFilter.Proofs.Text.Trimming
import AdFilter.Record.Block

/-! # Records read back from blocks

What is written of a record is read back, except for the carriage returns at the ends of its values.
-/

namespace AdFilter.Record

open OrderedMap Text

/-- The records as blocks with a blank line between them. -/
def toBlocks (rs : List Record) : String :=
  joinWith '\n' ((rs.map toBlock).intersperse "")

def blockLines (r : Record) : List (List Char) :=
  header.toList :: r.entries.map fieldLine

/-- The record without the carriage returns at the ends of the values. -/
def dropReturns (r : Record) : Record where
  entries := r.entries.map fun e => (e.1, Text.dropReturns e.2)
  nodup_keys := by
    rw [List.map_map]
    exact r.nodup_keys

/-- Each field of the record fits on a line, and its key can be told from its value. -/
structure Printable (r : Record) : Prop where
  keys : ∀ e ∈ r.entries, '=' ∉ e.1.toList ∧ '\n' ∉ e.1.toList ∧ trimList e.1.toList = e.1.toList
  values : ∀ e ∈ r.entries, '\n' ∉ e.2.toList

theorem get?_dropReturns (r : Record) (key : String) :
    r.dropReturns.get? key = (r.get? key).map Text.dropReturns := by
  show (r.entries.map fun e => (e.1, Text.dropReturns e.2)).lookup key = _
  unfold get?
  induction r.entries with
  | nil => rfl
  | cons e es ih =>
      rw [List.map_cons, List.lookup_cons, List.lookup_cons]
      cases key == e.1 with
      | true => rfl
      | false => exact ih

theorem dropReturns_of_get? {r : Record}
    (keep : ∀ key value, r.get? key = some value → Text.dropReturns value = value) :
    r.dropReturns = r := by
  refine OrderedMap.ext ?_
  have same : ∀ e ∈ r.entries, (e.1, Text.dropReturns e.2) = e := by
    intro e member
    rw [keep e.1 e.2 ((get?_eq_some_iff r).mpr member)]
  calc
    r.dropReturns.entries = r.entries.map id := List.map_congr_left same
    _ = r.entries := List.map_id r.entries

namespace BlockProgress

theorem step_blank (p : BlockProgress) : p.step [] = p := by
  obtain ⟨finished, current⟩ := p
  cases current with
  | none => rfl
  | some r => rfl

theorem step_header (p : BlockProgress) :
    p.step header.toList = ⟨p.current.toList ++ p.finished, some ∅⟩ := by
  have kept : dropEndWhile (· == '\r') header.toList = header.toList := by decide
  have trimmed : trimList header.toList = header.toList := by decide
  rw [step, kept, if_pos trimmed]

theorem step_field {finished : List Record} {r : Record} {e : String × String}
    (noEquals : '=' ∉ e.1.toList) (trimmed : trimList e.1.toList = e.1.toList) :
    step ⟨finished, some r⟩ (fieldLine e) =
      ⟨finished, some (r.insert e.1 (Text.dropReturns e.2))⟩ := by
  have kept : dropEndWhile (· == '\r') (fieldLine e) =
      e.1.toList ++ '=' :: dropEndWhile (· == '\r') e.2.toList :=
    dropEndWhile_append_cons (by decide) e.1.toList e.2.toList
  have noHeader : trimList (e.1.toList ++ '=' :: dropEndWhile (· == '\r') e.2.toList) ≠
      header.toList := by
    intro same
    have equals : '=' ∈ header.toList := same ▸ mem_trimList_of_solid (by simp) (by decide)
    revert equals
    decide
  have key : ∀ c ∈ e.1.toList, (c != '=') = true := by
    intro c member
    rw [bne_iff_ne]
    rintro rfl
    exact noEquals member
  have value : (e.1.toList ++ '=' :: dropEndWhile (· == '\r') e.2.toList).dropWhile (· != '=') =
      '=' :: dropEndWhile (· == '\r') e.2.toList := by
    rw [List.dropWhile_append_of_pos key]
    rfl
  have name : (e.1.toList ++ '=' :: dropEndWhile (· == '\r') e.2.toList).takeWhile (· != '=') =
      e.1.toList := by
    rw [List.takeWhile_append_of_pos key, List.takeWhile_cons, if_neg (by decide), List.append_nil]
  rw [step, kept, if_neg noHeader, Option.map_some, addLine, value, name, trimmed,
    String.ofList_toList]
  rfl

/-- The lines of a block finish the record before and begin and fill the record of the block. -/
theorem foldl_blockLines (p : BlockProgress) {r : Record} (printable : r.Printable) :
    r.blockLines.foldl step p = ⟨p.current.toList ++ p.finished, some r.dropReturns⟩ := by
  have fields (finished : List Record) : ∀ (es : List (String × String)) (s : Record),
      (∀ e ∈ es, e ∈ r.entries) → (es.map fieldLine).foldl step ⟨finished, some s⟩ =
        ⟨finished, some (es.foldl (fun s e => s.insert e.1 (Text.dropReturns e.2)) s)⟩ := by
    intro es
    induction es with
    | nil => exact fun s _ => rfl
    | cons e es ih =>
        intro s inside
        obtain ⟨noEquals, -, trimmed⟩ := printable.keys e (inside e List.mem_cons_self)
        rw [List.map_cons, List.foldl_cons, step_field noEquals trimmed]
        exact ih _ fun e' member => inside e' (List.mem_cons_of_mem e member)
  have built : r.entries.foldl (fun (s : Record) e => s.insert e.1 (Text.dropReturns e.2)) ∅ =
      r.dropReturns := by
    have again := ofList_entries r.dropReturns
    rw [ofList, dropReturns, List.foldl_map] at again
    exact again
  rw [blockLines, List.foldl_cons, step_header, fields _ _ _ fun _ member => member, built]

theorem records_foldl_blockLines (p : BlockProgress) {r : Record} (printable : r.Printable) :
    (r.blockLines.foldl step p).records = p.records ++ [r.dropReturns] := by
  have order : p.current.toList.reverse = p.current.toList := by
    cases p.current with
    | none => rfl
    | some s => rfl
  rw [foldl_blockLines p printable, records, records, List.reverse_append, order]
  rfl

end BlockProgress

theorem pieces_toBlock {r : Record} (printable : r.Printable) :
    pieces '\n' r.toBlock.toList = r.blockLines := by
  have whole : ∀ line ∈ r.blockLines, pieces '\n' line = [line] := by
    intro line member
    rcases List.mem_cons.mp member with rfl | member
    · exact pieces_of_not_mem (by decide)
    · obtain ⟨e, inside, rfl⟩ := List.mem_map.mp member
      refine pieces_of_not_mem fun feed => ?_
      rcases List.mem_append.mp feed with inKey | feed
      · exact (printable.keys e inside).2.1 inKey
      · rcases List.mem_cons.mp feed with same | inValue
        · cases same
        · exact printable.values e inside inValue
  have cut : r.blockLines.flatMap (pieces '\n') = r.blockLines := by
    rw [List.flatMap_def, List.map_congr_left whole, ← List.flatMap_def, List.flatMap_singleton']
  rw [toBlock, String.toList_ofList]
  exact (pieces_join (List.cons_ne_nil _ _)).trans cut

theorem records_foldl_blocks {rs : List Record} (some : rs ≠ []) (p : BlockProgress)
    (printable : ∀ r ∈ rs, r.Printable) :
    ((((rs.map toBlock).intersperse "").flatMap fun s => pieces '\n' s.toList).foldl
      BlockProgress.step p).records = p.records ++ rs.map dropReturns := by
  match rs with
  | [] => exact absurd rfl some
  | [r] =>
      have single := printable r List.mem_cons_self
      simpa [pieces_toBlock single] using p.records_foldl_blockLines single
  | r :: s :: rs =>
      have first := printable r List.mem_cons_self
      have rest := records_foldl_blocks (List.cons_ne_nil s rs) (r.blockLines.foldl BlockProgress.step p)
        fun t member => printable t (List.mem_cons_of_mem r member)
      have blank : pieces '\n' "".toList = [[]] := rfl
      rw [List.map_cons, List.map_cons, List.intersperse_cons_cons, List.flatMap_cons, List.flatMap_cons,
        pieces_toBlock first, blank, List.foldl_append, List.foldl_append, List.foldl_cons,
        List.foldl_nil, BlockProgress.step_blank]
      rw [List.map_cons] at rest
      rw [rest, p.records_foldl_blockLines first, List.append_assoc]
      rfl

/-- Blocks that were written are read back, except for the carriage returns at the ends of values. -/
theorem ofBlocks_toBlocks {rs : List Record} (printable : ∀ r ∈ rs, r.Printable) :
    ofBlocks (toBlocks rs) = rs.map dropReturns := by
  by_cases none : rs = []
  · subst none
    rfl
  · have blocks : ((rs.map toBlock).intersperse "").map String.toList ≠ [] := by
      obtain ⟨r, rest, rfl⟩ := List.exists_cons_of_ne_nil none
      cases rest with
      | nil => exact List.cons_ne_nil _ _
      | cons s rest => exact List.cons_ne_nil _ _
    rw [ofBlocks, toBlocks, joinWith, String.toList_ofList, pieces_join blocks, List.flatMap_map]
    exact records_foldl_blocks none {} printable

end AdFilter.Record
