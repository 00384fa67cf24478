import AdFilter.Proofs.FilterList.Reading
import AdFilter.Proofs.Registry.Outcome
import AdFilter.Proofs.Text.Lines
import Mathlib.Data.List.Dedup

/-! # Each line of a list

A list gives one filter for each of its lines that is not blank and not a header, in the order of
the lines. The registry comes to know the texts of these lines and forgets nothing, and reading a
list in two parts is reading it at once.
-/

namespace AdFilter

open Text

namespace FilterList

/-- The line is a header: it stands in square brackets and begins with the word, in capital or small
letters. -/
def IsHeader (line : List Char) : Prop :=
  ∃ word rest, line = '[' :: (word ++ rest) ∧ word.map Char.toLower = "adblock".toList ∧
    rest.getLast? = some ']'

theorem isHeader_iff (line : List Char) : isHeader line = true ↔ IsHeader line := by
  simp only [isHeader, Bool.and_eq_true, beq_iff_eq, List.isPrefixOf_iff_prefix]
  constructor
  · rintro ⟨⟨first, last⟩, t, begins⟩
    obtain ⟨tail, rfl⟩ := List.head?_eq_some_iff.mp first
    obtain ⟨word, rest, rfl, lower, -⟩ := List.map_eq_append_iff.mp begins.symm
    refine ⟨word, rest, rfl, lower, ?_⟩
    -- The word does not end in a bracket, so the one at the end stands behind it.
    cases rest with
    | cons c rest => simpa [List.getLast?_cons, List.getLast?_append] using last
    | nil =>
        have ends : (word.map Char.toLower).getLast? = some 'k' := by
          rw [lower]
          decide
        cases word with
        | nil => cases lower
        | cons c word =>
            rw [List.append_nil, List.getLast?_cons_cons] at last
            rw [List.getLast?_map, last] at ends
            cases ends
  · rintro ⟨word, rest, rfl, lower, last⟩
    refine ⟨⟨rfl, ?_⟩, rest.map Char.toLower, ?_⟩
    · rw [← List.cons_append, List.getLast?_append, last]
      rfl
    · simp [← lower]

instance (line : List Char) : Decidable (IsHeader line) :=
  decidable_of_iff _ (isHeader_iff line)

/-- The trimmed lines of a text that stand for filters. -/
def texts (text : String) : List String :=
  (((lines text.toList).map trimList).filter fun line => line ≠ [] ∧ ¬ IsHeader line).map String.ofList

theorem filterLines_eq (text : String) :
    (filterLines text.toList).map String.ofList = texts text := by
  have same : (fun line => !line.isEmpty && !isHeader line) =
      fun line => decide (line ≠ [] ∧ ¬ IsHeader line) := by
    funext line
    rw [Bool.eq_iff_iff]
    simp [← isHeader_iff]
  rw [texts, filterLines, same, filter_lines]
  simp

example : texts "[Adblock Plus 2.0]\r\n ads\r\n\n[Filter]\nads" = ["ads", "[Filter]", "ads"] := by
  decide +kernel

end FilterList

namespace ListStats

theorem total_count (s : ListStats) (rule : Rule) : (s.count rule).total = s.total + 1 := by
  cases rule <;> simp only [count, total] <;> omega

theorem total_foldl_count (fs : List Filter) (s : ListStats) :
    (fs.foldl (fun s f => s.count f.rule) s).total = s.total + fs.length := by
  induction fs generalizing s with
  | nil => rfl
  | cons f fs ih =>
      rw [List.foldl_cons, ih, total_count, List.length_cons]
      omega

theorem total_ofFilters (fs : List Filter) : (ofFilters fs).total = fs.length := by
  rw [ofFilters, total_foldl_count]
  exact Nat.zero_add _

end ListStats

namespace Interning

/-- Whatever was known and stored is so still, and in the same state. What is known besides was
compiled from its text. -/
structure Grows (n n' : Interning) : Prop where
  known : ∀ text id, n.registry.get? text = some id → n'.registry.get? text = some id
  filters : ∀ id f, n.store.get? id = some f → n'.store.get? id = some f
  compiled : ∀ text id, n.registry.get? text = none → n'.registry.get? text = some id →
    n'.store.get? id = some (n.registry.compile text)
  policy : n'.registry.policy = n.registry.policy

section Grows

variable {n n' n'' : Interning} {text : String} {id : FilterId}

theorem grows_self (n : Interning) : n.Grows n where
  known _ _ known := known
  filters _ _ stored := stored
  compiled _ _ unknown known := nomatch unknown.symm.trans known
  policy := rfl

theorem Grows.trans (grows : n.Grows n') (grows' : n'.Grows n'') : n.Grows n'' where
  known text id known := grows'.known text id (grows.known text id known)
  filters id f stored := grows'.filters id f (grows.filters id f stored)
  compiled := by
    intro text id unknown known
    cases between : n'.registry.get? text with
    | none =>
        have made := grows'.compiled text id between known
        rw [Registry.compile, grows.policy] at made
        exact made
    | some id' =>
        obtain rfl : id' = id :=
          Option.some.inj ((grows'.known text id' between).symm.trans known)
        exact grows'.filters id' _ (grows.compiled text id' unknown between)
  policy := grows'.policy.trans grows.policy

theorem grows_ofText? (found : n.ofText? text = some (id, n')) : n.Grows n' := by
  obtain ⟨-, ⟨-, rfl⟩ | ⟨unknown, replaced⟩⟩ := ofText?_cases found
  · exact n'.grows_self
  · refine ⟨?_, ?_, ?_, ?_⟩
    · intro other i known
      exact get?_ofText? known found
    · cases replaced
      intro i f stored
      exact Store.get?_add_of_some stored
    · intro other i absent known
      by_cases own : other = text
      · subst own
        obtain ⟨-, now⟩ := known_of_replace replaced
        rw [Registry.text_compile] at now
        obtain rfl : id = i := Option.some.inj (now.symm.trans known)
        cases replaced
        exact n.store.get?_add_self _
      · rw [get?_of_replace replaced (by rwa [Registry.text_compile]), absent] at known
        cases known
    · cases replaced
      rfl

end Grows

end Interning

namespace FilterList

variable {n : Interning}

theorem internAll_append (n : Interning) (lines lines' : List String) :
    internAll n (lines ++ lines') =
      ((internAll n lines).1 ++ (internAll (internAll n lines).2 lines').1,
        (internAll (internAll n lines).2 lines').2) := by
  induction lines generalizing n with
  | nil => rfl
  | cons line lines ih =>
      rw [List.cons_append, internAll, internAll]
      cases n.ofText? line with
      | none => exact ih n
      | some found => simp only [ih found.2, List.cons_append]

/-- Reading lines is asking for them one after the other. -/
theorem internAll_eq_after (n : Interning) (lines : List String) :
    (internAll n lines).2 = n.after (lines.map .ofText) := by
  induction lines generalizing n with
  | nil => rfl
  | cons line lines ih =>
      rw [internAll, List.map_cons, Interning.after, List.foldl_cons, Call.run]
      cases n.ofText? line with
      | none => exact ih n
      | some found => exact ih found.2

theorem grows_internAll (n : Interning) (lines : List String) : n.Grows (internAll n lines).2 := by
  induction lines generalizing n with
  | nil => exact n.grows_self
  | cons line lines ih =>
      rw [internAll]
      cases found : n.ofText? line with
      | none => exact ih n
      | some result => exact (Interning.grows_ofText? found).trans (ih result.2)

theorem known_of_internAll {lines : List String} {text : String} {id : FilterId}
    (known : (internAll n lines).2.registry.get? text = some id) :
    n.registry.get? text = some id ∨ text ∈ lines := by
  induction lines generalizing n with
  | nil => exact .inl known
  | cons line lines ih =>
      rw [internAll] at known
      cases found : n.ofText? line with
      | none =>
          rw [found] at known
          exact (ih known).imp_right (List.mem_cons_of_mem line)
      | some result =>
          rw [found] at known
          rcases ih known with before | member
          · by_cases own : text = line
            · exact .inr (own ▸ List.mem_cons_self)
            · exact .inl ((Interning.get?_of_ofText? found own).symm.trans before)
          · exact .inr (List.mem_cons_of_mem line member)

theorem held_internAll {lines : List String} (solid : ∀ line ∈ lines, blank line = false) :
    lines.map (internAll n lines).2.registry.get? = (internAll n lines).1.map some := by
  induction lines generalizing n with
  | nil => rfl
  | cons line lines ih =>
      have solidLine := solid line List.mem_cons_self
      cases found : n.ofText? line with
      | none =>
          rw [Interning.ofText?_eq_none_iff, solidLine] at found
          cases found
      | some result =>
          obtain ⟨id, n'⟩ := result
          have rest := ih (n := n') fun other member => solid other (List.mem_cons_of_mem line member)
          have known : (internAll n' lines).2.registry.get? line = some id :=
            (grows_internAll n' lines).known line id (Interning.known_of_ofText? found)
          rw [internAll, found, List.map_cons, List.map_cons, rest, known]

/-- What reading a list that stands for filters with these texts does. -/
structure Reads (n : Interning) (texts : List String) (ids : List FilterId) (n' : Interning) : Prop
    extends n.Grows n' where
  /-- The filters are those that are known under the texts, in their order. -/
  held : texts.map n'.registry.get? = ids.map some
  own : ids.map n'.store.text? = texts.map some
  /-- The texts that were not known before have been added, each once. -/
  keys : n'.registry.known.keys.Perm
    (n.registry.known.keys ++ (texts.filter (n.registry.get? · = none)).dedup)
  total : (ListStats.ofFilters (n'.store.getAll ids)).total = ids.length

section Reading

variable {lines : List String}

theorem perm_keys_internAll (solid : ∀ line ∈ lines, blank line = false) :
    (internAll n lines).2.registry.known.keys.Perm
      (n.registry.known.keys ++ (lines.filter (n.registry.get? · = none)).dedup) := by
  have member (n : Interning) (text : String) :
      text ∈ n.registry.known.keys ↔ ∃ id, n.registry.get? text = some id :=
    n.registry.known.mem_keys_iff
  have different : (n.registry.known.keys ++
      (lines.filter (n.registry.get? · = none)).dedup).Nodup := by
    rw [List.nodup_append]
    refine ⟨n.registry.known.nodup_keys, List.nodup_dedup _, ?_⟩
    intro text old text' new
    rintro rfl
    obtain ⟨id, known⟩ := (member n text).mp old
    simp [known] at new
  have different' : (internAll n lines).2.registry.known.keys.Nodup :=
    (internAll n lines).2.registry.known.nodup_keys
  rw [List.perm_ext_iff_of_nodup different' different]
  intro text
  rw [member, List.mem_append, member, List.mem_dedup, List.mem_filter, decide_eq_true_eq]
  constructor
  · rintro ⟨id, known⟩
    cases before : n.registry.get? text with
    | some id' => exact .inl ⟨id', rfl⟩
    | none =>
        refine .inr ⟨(known_of_internAll known).resolve_left ?_, rfl⟩
        rw [before]
        exact nofun
  · rintro (⟨id, known⟩ | ⟨inLines, -⟩)
    · exact ⟨id, (grows_internAll n lines).known text id known⟩
    · have held := List.mem_map_of_mem (f := (internAll n lines).2.registry.get?) inLines
      rw [held_internAll solid] at held
      obtain ⟨id, -, known⟩ := List.mem_map.mp held
      exact ⟨id, known.symm⟩

end Reading

theorem own_of_held (sound : n.Sound) {texts : List String} {ids : List FilterId}
    (held : texts.map n.registry.get? = ids.map some) :
    ids.map n.store.text? = texts.map some := by
  induction texts generalizing ids with
  | nil =>
      cases ids with
      | nil => rfl
      | cons id ids => cases held
  | cons text texts ih =>
      cases ids with
      | nil => cases held
      | cons id ids =>
          obtain ⟨known, held⟩ := List.cons_eq_cons.mp held
          rw [List.map_cons, List.map_cons, ih held, sound text id known]

theorem length_getAll {s : Store} {ids : List FilterId} {texts : List String}
    (own : ids.map s.text? = texts.map some) : (s.getAll ids).length = ids.length := by
  apply List.filterMap_length_eq_length.mpr
  intro id member
  have hasText := List.mem_map_of_mem (f := s.text?) member
  rw [own] at hasText
  obtain ⟨text, -, hasText⟩ := List.mem_map.mp hasText
  obtain ⟨f, stored, -⟩ := Option.map_eq_some_iff.mp hasText.symm
  rw [stored]
  rfl

theorem reads_of_sound (sound : n.Sound) (text : String) :
    Reads n (texts text) (read n text).1 (read n text).2 := by
  have solid : ∀ line ∈ texts text, blank line = false := by
    rw [← filterLines_eq]
    intro line member
    obtain ⟨cs, isLine, rfl⟩ := List.mem_map.mp member
    exact (isLine_of_mem_filterLines isLine).solid
  rw [read, filterLines_eq]
  have sound' : (internAll n (texts text)).2.Sound := by
    rw [internAll_eq_after]
    exact sound.after _
  have held := held_internAll (n := n) solid
  have own := own_of_held sound' held
  refine ⟨grows_internAll n (texts text), held, own, perm_keys_internAll solid, ?_⟩
  rw [ListStats.total_ofFilters, length_getAll own]

theorem read_append (n : Interning) (a b : String) : read n (a ++ "\n" ++ b) =
    ((read n a).1 ++ (read (read n a).2 b).1, (read (read n a).2 b).2) := by
  have lines : filterLines (a ++ "\n" ++ b).toList = filterLines a.toList ++ filterLines b.toList := by
    have joined : (a ++ "\n" ++ b).toList = a.toList ++ '\n' :: b.toList := by
      simp
    rw [joined, filterLines, pieces_append, List.map_append, List.filter_append]
    rfl
  simp only [read, lines, List.map_append, internAll_append]

/-- Whatever was called on a registry before, reading a list gives one filter for each of its lines
    that is not blank and not a header, in the order of the lines and each with the trimmed line as
    its text, and it is the one that is known under the text from then on. The texts that are new are
    added, and whatever was known is left as it was. Reading a list in two parts gives the same. -/
theorem each_line_gives_its_filter (policy : Policy) (calls : List Call) :
    let n := (Interning.start policy).after calls
    (∀ text, Reads n (texts text) (read n text).1 (read n text).2) ∧
    ∀ a b, read n (a ++ "\n" ++ b) =
      ((read n a).1 ++ (read (read n a).2 b).1, (read (read n a).2 b).2) := by
  intro n
  have sound : n.Sound := (Interning.sound_start policy).after calls
  exact ⟨reads_of_sound sound, read_append n⟩

end FilterList

end AdFilter
