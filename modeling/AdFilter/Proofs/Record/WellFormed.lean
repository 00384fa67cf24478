import AdFilter.Proofs.Record.Block

/-! # Records that blocks hold exactly

A record comes back from its block exactly if its fields can be told apart on their lines. Whatever
is read from a text is such a record.
-/

namespace AdFilter.Record

open OrderedMap Text

/-- The field stands on a line of its own, and its key and its value can be read from there. -/
structure Writable (key value : String) : Prop where
  noEquals : '=' ∉ key.toList
  keyOnLine : '\n' ∉ key.toList
  trimmed : trim key = key
  valueOnLine : '\n' ∉ value.toList
  noReturn : value.toList.getLast? ≠ some '\r'

instance (key value : String) : Decidable (Writable key value) :=
  decidable_of_iff
    ('=' ∉ key.toList ∧ '\n' ∉ key.toList ∧ trim key = key ∧ '\n' ∉ value.toList ∧
      value.toList.getLast? ≠ some '\r')
    ⟨fun ⟨a, b, c, d, e⟩ => ⟨a, b, c, d, e⟩, fun ⟨a, b, c, d, e⟩ => ⟨a, b, c, d, e⟩⟩

/-- Each field can be read from its line. As in every record, the keys are different. -/
def WellFormed (r : Record) : Prop :=
  r.All Writable

theorem wellFormed_iff {r : Record} : r.WellFormed ↔ ∀ e ∈ r.entries, Writable e.1 e.2 := by
  constructor
  · intro wellFormed e member
    exact wellFormed e.1 e.2 ((get?_eq_some_iff r).mpr member)
  · intro fields key value found
    exact fields (key, value) ((get?_eq_some_iff r).mp found)

instance (r : Record) : Decidable r.WellFormed :=
  decidable_of_iff _ wellFormed_iff.symm

/-- The records as blocks, each with one line feed or more after it. -/
def spaced (blocks : List (Record × Nat)) : String :=
  String.ofList (blocks.flatMap fun block =>
    block.1.toBlock.toList ++ List.replicate (block.2 + 1) '\n')

theorem WellFormed.printable {r : Record} (wellFormed : r.WellFormed) : r.Printable where
  keys := by
    intro e member
    have field := wellFormed_iff.mp wellFormed e member
    refine ⟨field.noEquals, field.keyOnLine, ?_⟩
    rw [← String.ofList_inj, String.ofList_toList]
    exact field.trimmed
  values := by
    intro e member
    exact (wellFormed_iff.mp wellFormed e member).valueOnLine

theorem WellFormed.dropReturns_eq {r : Record} (wellFormed : r.WellFormed) : r.dropReturns = r := by
  apply dropReturns_of_get?
  intro key value found
  exact dropReturns_eq_self (wellFormed key value found).noReturn

namespace BlockProgress

theorem foldl_blanks (p : BlockProgress) (n : Nat) :
    (List.replicate n []).foldl step p = p := by
  induction n with
  | zero => rfl
  | succ n ih => rw [List.replicate_succ, List.foldl_cons, step_blank, ih]

theorem mem_records {p : BlockProgress} {r : Record} :
    r ∈ p.records ↔ r ∈ p.finished ∨ p.current = some r := by
  simp [records]

end BlockProgress

theorem wellFormed_addLine {r : Record} (wellFormed : r.WellFormed) {line : List Char}
    (noFeed : '\n' ∉ line) (noReturn : line.getLast? ≠ some '\r') :
    (r.addLine line).WellFormed := by
  unfold addLine
  split
  · exact wellFormed
  · rename_i equals value rest
    have split : line = line.takeWhile (· != '=') ++ equals :: value := by
      rw [← rest, List.takeWhile_append_dropWhile]
    apply wellFormed.insert
    constructor
    · rw [String.toList_ofList]
      intro member
      have inKey := List.mem_takeWhile_imp (mem_of_mem_trimList member)
      simp at inKey
    · rw [String.toList_ofList]
      intro member
      exact noFeed ((List.takeWhile_sublist _).subset (mem_of_mem_trimList member))
    · rw [trim, String.toList_ofList, trimList_trimList]
    · rw [String.toList_ofList]
      intro member
      apply noFeed
      rw [split]
      simp [member]
    · rw [String.toList_ofList]
      intro last
      apply noReturn
      rw [split]
      simp [List.getLast?_append, List.getLast?_cons, last]

theorem wellFormed_step {p : BlockProgress} (wellFormed : ∀ r ∈ p.records, r.WellFormed)
    {line : List Char} (noFeed : '\n' ∉ line) : ∀ r ∈ (p.step line).records, r.WellFormed := by
  have cutFeed : '\n' ∉ dropEndWhile (· == '\r') line :=
    fun member => noFeed (mem_of_mem_dropEndWhile member)
  have noReturn : (dropEndWhile (· == '\r') line).getLast? ≠ some '\r' := by
    intro last
    simpa using getLast?_dropEndWhile last
  intro r member
  rw [BlockProgress.step] at member
  split at member
  -- A header begins an empty record, and any other line goes into the one that was begun.
  · rcases BlockProgress.mem_records.mp member with old | new
    · apply wellFormed r
      rw [BlockProgress.mem_records]
      rcases List.mem_append.mp old with current | finished
      · exact .inr (Option.mem_toList.mp current)
      · exact .inl finished
    · cases new
      exact all_empty Writable
  · rcases BlockProgress.mem_records.mp member with finished | current
    · exact wellFormed r (BlockProgress.mem_records.mpr (.inl finished))
    · obtain ⟨before, begun, rfl⟩ := Option.map_eq_some_iff.mp current
      apply wellFormed_addLine _ cutFeed noReturn
      exact wellFormed before (BlockProgress.mem_records.mpr (.inr begun))

theorem wellFormed_foldl {lines : List (List Char)} (noFeeds : ∀ line ∈ lines, '\n' ∉ line)
    {p : BlockProgress} (wellFormed : ∀ r ∈ p.records, r.WellFormed) :
    ∀ r ∈ (lines.foldl BlockProgress.step p).records, r.WellFormed := by
  induction lines generalizing p with
  | nil => exact wellFormed
  | cons line lines ih =>
      have first := wellFormed_step wellFormed (noFeeds line List.mem_cons_self)
      exact ih (fun line member => noFeeds line (List.mem_cons_of_mem _ member)) first

/-- Whatever the text is, the records in it are well-formed. -/
theorem wellFormed_of_mem_ofBlocks {text : String} {r : Record} (member : r ∈ ofBlocks text) :
    r.WellFormed := by
  have noFeeds : ∀ line ∈ pieces '\n' text.toList, '\n' ∉ line := by
    intro line isPiece feed
    exact (mem_of_mem_pieces isPiece feed).2 rfl
  exact wellFormed_foldl noFeeds (p := {}) (fun _ begun => nomatch begun) r member

theorem pieces_feeds (n : Nat) (cs : List Char) :
    pieces '\n' (List.replicate n '\n' ++ cs) = List.replicate n [] ++ pieces '\n' cs := by
  induction n with
  | zero => rfl
  | succ n ih => simp [List.replicate_succ, pieces, ih]

theorem records_foldl_toBlock (p : BlockProgress) {r : Record} (wellFormed : r.WellFormed) :
    ((pieces '\n' r.toBlock.toList).foldl BlockProgress.step p).records = p.records ++ [r] := by
  rw [pieces_toBlock wellFormed.printable, p.records_foldl_blockLines wellFormed.printable,
    wellFormed.dropReturns_eq]

theorem records_foldl_spaced {blocks : List (Record × Nat)}
    (wellFormed : ∀ block ∈ blocks, block.1.WellFormed) (p : BlockProgress) :
    ((pieces '\n' (spaced blocks).toList).foldl BlockProgress.step p).records =
      p.records ++ blocks.map Prod.fst := by
  induction blocks generalizing p with
  | nil =>
      have blank : pieces '\n' (spaced []).toList = [[]] := rfl
      rw [blank, List.foldl_cons, BlockProgress.step_blank]
      simp
  | cons block blocks ih =>
      obtain ⟨r, feeds⟩ := block
      have split : (spaced ((r, feeds) :: blocks)).toList =
          r.toBlock.toList ++ '\n' :: (List.replicate feeds '\n' ++ (spaced blocks).toList) := by
        simp [spaced, List.replicate_succ]
      have first := records_foldl_toBlock p (wellFormed _ List.mem_cons_self)
      have others : ∀ block ∈ blocks, block.1.WellFormed :=
        fun block member => wellFormed block (List.mem_cons_of_mem _ member)
      -- The feeds after the first one end blank lines, which say nothing.
      rw [split, pieces_append, pieces_feeds, List.foldl_append, List.foldl_append,
        BlockProgress.foldl_blanks, ih others, first]
      simp

theorem ofBlocks_spaced {blocks : List (Record × Nat)}
    (wellFormed : ∀ block ∈ blocks, block.1.WellFormed) :
    ofBlocks (spaced blocks) = blocks.map Prod.fst :=
  records_foldl_spaced wellFormed {}

/-- A record comes back from its block if and only if it is well-formed; well-formed records come
    back from their blocks, however many line feeds follow each; and what is read from a text is
    well-formed, so that it is read again from its own blocks. -/
theorem blocks_invertible :
    (∀ r : Record, ofBlocks r.toBlock = [r] ↔ r.WellFormed) ∧
    (∀ blocks : List (Record × Nat), (∀ block ∈ blocks, block.1.WellFormed) →
      ofBlocks (spaced blocks) = blocks.map Prod.fst) ∧
    (∀ text, ∀ r ∈ ofBlocks text, r.WellFormed) ∧
    ∀ text blocks, blocks.map Prod.fst = ofBlocks text →
      ofBlocks (spaced blocks) = ofBlocks text := by
  refine ⟨?_, fun _ => ofBlocks_spaced, fun _ _ => wellFormed_of_mem_ofBlocks, ?_⟩
  · intro r
    constructor
    · intro back
      have member : r ∈ ofBlocks r.toBlock := by simp [back]
      exact wellFormed_of_mem_ofBlocks member
    · intro wellFormed
      exact records_foldl_toBlock {} wellFormed
  · intro text blocks same
    rw [← same]
    apply ofBlocks_spaced
    intro block member
    have read : block.1 ∈ ofBlocks text := same ▸ List.mem_map_of_mem member
    exact wellFormed_of_mem_ofBlocks read

/-- A header and equals signs in values do no harm, nor does a field without a name. -/
theorem blocks_invertible_header :
    let r : Record := .ofList [("text", "[Filter]"), ("", "a=b\r=")]
    r.WellFormed ∧ ofBlocks r.toBlock = [r] ∧
      ofBlocks (spaced [(r, 0), (∅, 2), (r, 1)]) = [r, ∅, r] ∧
      ¬ WellFormed (.ofList [("text", "a\r")]) := by
  intro r
  have wellFormed : r.WellFormed := by decide
  refine ⟨wellFormed, (blocks_invertible.1 r).mpr wellFormed, ?_, by decide⟩
  apply blocks_invertible.2.1 [(r, 0), (∅, 2), (r, 1)]
  decide

end AdFilter.Record
