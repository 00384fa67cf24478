import AdFilter.Proofs.Filter.Reread
import AdFilter.Proofs.FilterList.Reading
import AdFilter.Proofs.FirstOccurrences
import AdFilter.Proofs.Registry.Restoring
import Mathlib.Data.List.Forall2
import Mathlib.Data.List.Nodup

/-! # Lists that are printed and restored

The filters of a list are printed as blocks, and what is read from the blocks is restored into a new
registry. Each filter comes back as it was, but for those whose regular expression ends in a
carriage return and is a regular expression without it as well.
-/

namespace AdFilter

open Text

namespace Interning

/-- What calls return, one after the other. -/
def returned (n : Interning) : List Call → List (Option FilterId)
  | [] => []
  | call :: calls => (call.run n).1 :: returned (call.run n).2 calls

/-- A filter that acts like the given one was found. -/
def Restored (n : Interning) (f : Filter) (found : Option FilterId) : Prop :=
  ∃ id f', found = some id ∧ n.store.get? id = some f' ∧ f'.ActsLike f

theorem run_ofRecord_of_unknown {n : Interning} {version : Nat} {r : Record} {f : Filter}
    (unknown : ∀ text, r.get? "text" = some text → n.registry.get? text = none)
    (found : r.filter? n.registry.policy version = some f) :
    (Call.ofRecord version r).run n = (some (n.replace f).1, (n.replace f).2) := by
  rw [Call.run, ofRecord?_of_unknown unknown, found]
  rfl

end Interning

namespace FilterList

/-- The filters of a list, each of them once. -/
def distinct (policy : Policy) (text : String) : List FilterId :=
  (read (.start policy) text).1.eraseDups

/-- Sets the switches and the counters of filters. -/
def assign (activity : FilterId → Activity) (ids : List FilterId) : List Call :=
  ids.map fun id => .update id fun _ => activity id

/-- A list that was read into a new registry and whose filters then were switched and hit. -/
def used (policy : Policy) (text : String) (activity : FilterId → Activity) : Interning :=
  (read (.start policy) text).2.after (assign activity (distinct policy text))

/-- The filters of a list after their switches and counters were set. -/
def filters (policy : Policy) (text : String) (activity : FilterId → Activity) : List Filter :=
  (used policy text activity).store.getAll (distinct policy text)

/-- What is read from the blocks of filters. -/
def dump (fs : List Filter) : List Record :=
  Record.ofBlocks (Record.toBlocks (fs.map (·.toRecord)))

/-- Restores records of the present version. -/
def restore (rs : List Record) : List Call :=
  rs.map (.ofRecord formatVersion)

/-- The filters come back from their blocks as they were. -/
def Returns (policy : Policy) (fs : List Filter) : Prop :=
  List.Forall₂ ((Interning.start policy).after (restore (dump fs))).Restored fs
    ((Interning.start policy).returned (restore (dump fs)))

/-- The blocks of the filters of a list hold each of them, and they come back as they were. -/
structure Survives (policy : Policy) (text : String) (activity : FilterId → Activity) : Prop where
  count : (dump (filters policy text activity)).length = (distinct policy text).length
  returns : Returns policy (filters policy text activity)

section Restoring

variable {policy : Policy}

theorem run_reread {f : Filter} (listed : f.Listed policy) {n : Interning}
    (same : n.registry.policy = policy) (unknown : n.registry.get? f.text = none) :
    ∃ f', f.reread? policy = some f' ∧ f'.text = f.text ∧
      (Call.ofRecord formatVersion f.toRecord.dropReturns).run n =
        (some (n.replace f').1, (n.replace f').2) := by
  obtain ⟨f', read, text, -⟩ := listed.reread?_actsLike_iff
  refine ⟨f', read, text, Interning.run_ofRecord_of_unknown ?_ (same ▸ read)⟩
  intro t hasText
  rw [listed.text_dropReturns] at hasText
  cases hasText
  exact unknown

/-- The records of filters with different texts, none of which is known, give what is read from
    each, and the filters that were there before stay. -/
theorem restore_reread {fs : List Filter} (listed : ∀ f ∈ fs, f.Listed policy)
    (nodup : (fs.map (·.text)).Nodup) {n : Interning} (same : n.registry.policy = policy)
    (unknown : ∀ f ∈ fs, n.registry.get? f.text = none) :
    (∀ id f, n.store.get? id = some f →
      (n.after (restore (fs.map (·.toRecord.dropReturns)))).store.get? id = some f) ∧
    List.Forall₂
      (fun f id => ∃ id' f', id = some id' ∧
        (n.after (restore (fs.map (·.toRecord.dropReturns)))).store.get? id' = some f' ∧
        f.reread? policy = some f')
      fs (n.returned (restore (fs.map (·.toRecord.dropReturns)))) := by
  induction fs generalizing n with
  | nil => exact ⟨fun _ _ old => old, .nil⟩
  | cons f fs ih =>
      obtain ⟨f', read, text, run⟩ :=
        run_reread (listed f List.mem_cons_self) same (unknown f List.mem_cons_self)
      obtain ⟨new, nodup⟩ := List.nodup_cons.mp nodup
      have unknownRest : ∀ g ∈ fs, (n.replace f').2.registry.get? g.text = none := by
        intro g member
        have other : g.text ≠ f'.text := by
          rw [text]
          exact fun same => new (List.mem_map.mpr ⟨g, member, same⟩)
        rw [Interning.get?_replace, if_neg other]
        exact unknown g (List.mem_cons_of_mem f member)
      obtain ⟨keeps, restored⟩ := ih (fun g member => listed g (List.mem_cons_of_mem f member)) nodup
        (n := (n.replace f').2) same unknownRest
      simp only [restore, List.map_cons, Interning.after, List.foldl_cons, Interning.returned, run]
      refine ⟨fun id g old => keeps id g (Store.get?_add_of_some old), .cons ?_ restored⟩
      exact ⟨_, f', rfl, keeps _ _ (n.store.get?_add_self f'), read⟩

end Restoring

theorem forall₂_iff_of_forall₂ {α β : Type} {R S : α → β → Prop} {P : α → Prop} {xs : List α}
    {ys : List β} (related : List.Forall₂ R xs ys)
    (same : ∀ x ∈ xs, ∀ y, R x y → (S x y ↔ P x)) : List.Forall₂ S xs ys ↔ ∀ x ∈ xs, P x := by
  induction related with
  | nil => simp
  | cons first _ ih =>
      rw [List.forall₂_cons, List.forall_mem_cons, same _ List.mem_cons_self _ first,
        ih fun x member => same x (List.mem_cons_of_mem _ member)]

section Filters

variable (policy : Policy) (text : String) (activity : FilterId → Activity)

theorem clean_used : (used policy text activity).Clean policy ∧
    ∀ id ∈ distinct policy text, ∃ t, (used policy text activity).store.text? id = some t := by
  have lines : ∀ line ∈ (filterLines text.toList).map String.ofList, IsLine line := by
    intro line member
    obtain ⟨cs, isLine, rfl⟩ := List.mem_map.mp member
    exact isLine_of_mem_filterLines isLine
  obtain ⟨clean, hasText, -⟩ := clean_internAll lines (Interning.clean_start policy)
  have changed := clean_after_updates
    ((distinct policy text).map fun id => (id, fun _ => activity id)) clean
  rw [List.map_map] at changed
  refine ⟨changed.1, fun id member => ?_⟩
  obtain ⟨t, same⟩ := hasText id (List.mem_eraseDups.mp member)
  exact ⟨t, (changed.2 id).trans same⟩

theorem listed_of_mem_filters {f : Filter} (member : f ∈ filters policy text activity) :
    f.Listed policy := by
  obtain ⟨id, -, stored⟩ := List.mem_filterMap.mp member
  exact (clean_used policy text activity).1.listed id f stored

theorem nodup_texts : ((filters policy text activity).map (·.text)).Nodup := by
  have clean := (clean_used policy text activity).1
  rw [filters, Store.getAll, List.map_filterMap]
  refine List.Nodup.filterMap (fun i j t first second => ?_) (nodup_eraseDups _)
  exact Option.some.inj (((clean.known t i).mpr first).symm.trans ((clean.known t j).mpr second))

theorem length_filters : (filters policy text activity).length = (distinct policy text).length := by
  refine List.filterMap_length_eq_length.mpr fun id member => ?_
  obtain ⟨t, hasText⟩ := (clean_used policy text activity).2 id member
  obtain ⟨f, stored, -⟩ := Option.map_eq_some_iff.mp hasText
  rw [stored]
  rfl

theorem dump_filters : dump (filters policy text activity) =
    (filters policy text activity).map (·.toRecord.dropReturns) := by
  have printable : ∀ r ∈ (filters policy text activity).map (·.toRecord), r.Printable := by
    intro r member
    obtain ⟨f, inList, rfl⟩ := List.mem_map.mp member
    exact (listed_of_mem_filters policy text activity inList).printable
  rw [dump, Record.ofBlocks_toBlocks printable, List.map_map]
  rfl

/-- The filters of a list come back from their blocks as they were if and only if none of their rules
    changes. -/
theorem returns_iff : Returns policy (filters policy text activity) ↔
    ∀ f ∈ filters policy text activity, ∀ q, f.rule.request? = some q → q.Lasting := by
  have listed : ∀ f ∈ filters policy text activity, f.Listed policy := fun _ member =>
    listed_of_mem_filters policy text activity member
  obtain ⟨-, reread⟩ := restore_reread listed (nodup_texts policy text activity)
    (n := .start policy) rfl fun _ _ => rfl
  rw [Returns, dump_filters]
  refine forall₂_iff_of_forall₂ reread ?_
  rintro f member _ ⟨id, f', rfl, stored, read⟩
  obtain ⟨f'', read', -, acts⟩ := (listed f member).reread?_actsLike_iff
  obtain rfl : f' = f'' := Option.some.inj (read.symm.trans read')
  refine ⟨?_, fun lasting => ⟨id, f', rfl, stored, acts.mpr lasting⟩⟩
  rintro ⟨id', g, same, stored', actsLike⟩
  cases same
  obtain rfl : f' = g := Option.some.inj (stored.symm.trans stored')
  exact acts.mp actsLike

/-- A list survives being printed and restored if and only if each regular expression of its filters
    that ends in a carriage return is no regular expression without it. -/
theorem survives_iff : Survives policy text activity ↔
    ∀ f ∈ filters policy text activity, ∀ q, f.rule.request? = some q → q.Lasting := by
  rw [← returns_iff]
  refine ⟨fun survives => survives.returns, fun returns => ⟨?_, returns⟩⟩
  rw [dump_filters, List.length_map, length_filters]

end Filters

/-- The carriage return in front of the options is the end of the regular expression and is lost. -/
theorem not_survives_return : ¬ Survives .lenient "foo\r$script" fun _ => {} := by
  intro survives
  have lasting := (returns_iff _ _ _).mp survives.returns
  have changed : ((filters .lenient "foo\r$script" fun _ => {}).any fun f =>
      f.rule.request?.any fun q => q.source.toList.getLast? == some '\r' &&
        (Regex.compile q.conditions.matchCase (dropReturns q.source).toList).isOk) = true := by
    decide +kernel
  obtain ⟨f, member, changed⟩ := List.any_eq_true.mp changed
  obtain ⟨q, request, changed⟩ := (Option.any_eq_true _ _).mp changed
  obtain ⟨ends, compiles⟩ := Bool.and_eq_true_iff.mp changed
  rcases lasting f member q request with keep | fault
  · exact keep (beq_iff_eq.mp ends)
  · cases compiled : Regex.compile q.conditions.matchCase (dropReturns q.source).toList with
    | ok regex => exact fault regex compiled
    | error e =>
        rw [compiled] at compiles
        cases compiles

end FilterList

end AdFilter
