import AdFilter.FilterList
import AdFilter.Proofs.Filter.Dumped
import AdFilter.Proofs.Registry.Identity

/-! # The filters of a list

Reading a list into a new registry makes one filter for each text that stands on a line. Switching
these filters and counting their hits leaves them the filters of their lines.
-/

namespace AdFilter

open Text

theorem Filter.Listed.updateActivity {policy : Policy} {f : Filter} (listed : f.Listed policy)
    (change : Activity → Activity) : (f.updateActivity change).Listed policy := by
  cases active : f.rule.isActive with
  | false =>
      rw [updateActivity_of_idle active]
      exact listed
  | true =>
      rw [updateActivity_of_active active]
      exact ⟨listed.rule, fun idle => absurd (active.symm.trans idle) (by decide), listed.line⟩

namespace Interning

/-- The store holds filters of lines and nothing else, each of them known under its text. -/
structure Clean (policy : Policy) (n : Interning) : Prop where
  samePolicy : n.registry.policy = policy
  known : ∀ text id, n.registry.get? text = some id ↔ n.store.text? id = some text
  listed : ∀ id f, n.store.get? id = some f → f.Listed policy

section Clean

variable {policy : Policy} {n n' : Interning} {id : FilterId} {text : String}

theorem clean_start (policy : Policy) : (start policy).Clean policy where
  samePolicy := rfl
  known := fun text id => by simp [start, Registry.get?, Store.text?, Store.get?]
  listed := fun id f stored => by simp [start, Store.get?] at stored

theorem Clean.replace {f : Filter} (clean : n.Clean policy) (listed : f.Listed policy)
    (unknown : n.registry.get? f.text = none) : (n.replace f).2.Clean policy where
  samePolicy := clean.samePolicy
  known := fun text id => by
    rw [get?_replace]
    by_cases new : id = (n.store.add f).1
    · subst new
      have hasText := text?_replace n f
      have nothing : n.registry.get? text ≠ some (n.store.add f).1 := fun old =>
        absurd ((clean.known text _).mp old) (by simp [Store.text?, Store.get?, Store.add])
      split
      · rename_i same
        exact ⟨fun _ => same ▸ hasText, fun _ => rfl⟩
      · rename_i other
        refine ⟨fun old => absurd old nothing, fun old => absurd ?_ other⟩
        exact Option.some.inj (old.symm.trans hasText)
    · have kept : (n.replace f).2.store.text? id = n.store.text? id := by
        show ((n.store.add f).2.get? id).map (·.text) = _
        rw [Store.get?_add_of_ne new]
        rfl
      rw [kept, ← clean.known]
      split
      · rename_i same
        subst same
        rw [unknown]
        refine ⟨fun made => absurd (Option.some.inj made).symm new, fun old => ?_⟩
        cases old
      · exact Iff.rfl
  listed := fun id g stored => by
    by_cases new : id = (n.store.add f).1
    · subst new
      cases (n.store.get?_add_self f).symm.trans stored
      exact listed
    · exact clean.listed id g ((Store.get?_add_of_ne new).symm.trans stored)

theorem Clean.update (clean : n.Clean policy) (id : FilterId) (change : Activity → Activity) :
    Clean policy { n with store := n.store.modifyActivity id change } where
  samePolicy := clean.samePolicy
  known := fun text i => by
    rw [Store.text?_modifyActivity]
    exact clean.known text i
  listed := fun i g stored => by
    rw [Store.modifyActivity, Store.get?_modify] at stored
    split at stored
    · obtain ⟨f, old, rfl⟩ := Option.map_eq_some_iff.mp stored
      exact (clean.listed i f old).updateActivity change
    · exact clean.listed i g stored

theorem Clean.ofText? (clean : n.Clean policy) (line : IsLine text) :
    ∃ id n', n.ofText? text = some (id, n') ∧ n'.Clean policy ∧ n'.store.text? id = some text ∧
      ∀ i t, n.store.text? i = some t → n'.store.text? i = some t := by
  cases known : n.registry.get? text with
  | some id =>
      exact ⟨id, n, ofText?_of_known line.solid known, clean, (clean.known text id).mp known,
        fun _ _ old => old⟩
  | none =>
      have listed := Filter.listed_compile n.registry line
      have hasText := text?_replace n (n.registry.compile text)
      rw [clean.samePolicy] at listed
      rw [Registry.text_compile] at hasText
      exact ⟨_, _, ofText?_of_unknown line.solid known,
        clean.replace listed (by rwa [Registry.text_compile]), hasText,
        fun _ _ old => Store.text?_add old⟩

end Clean

end Interning

namespace FilterList

variable {policy : Policy} {n : Interning}

theorem isLine_of_mem_filterLines {text line : List Char} (member : line ∈ filterLines text) :
    IsLine (String.ofList line) := by
  obtain ⟨member, kept⟩ := List.mem_filter.mp member
  obtain ⟨piece, isPiece, rfl⟩ := List.mem_map.mp member
  refine ⟨?_, ?_, ?_⟩
  · rw [Bool.eq_false_iff, blank, String.toList_ofList]
    intro blanks
    have nothing := trimList_of_blank (List.all_eq_true.mp blanks)
    rw [trimList_trimList] at nothing
    rw [nothing] at kept
    cases kept
  · rw [String.toList_ofList]
    intro feed
    exact (mem_of_mem_pieces isPiece (mem_of_mem_trimList feed)).2 rfl
  · rw [String.toList_ofList, trimList_trimList]

theorem clean_internAll {lines : List String} (all : ∀ line ∈ lines, IsLine line)
    (clean : n.Clean policy) : (internAll n lines).2.Clean policy ∧
      (∀ id ∈ (internAll n lines).1, ∃ text, (internAll n lines).2.store.text? id = some text) ∧
      ∀ id text, n.store.text? id = some text →
        (internAll n lines).2.store.text? id = some text := by
  induction lines generalizing n with
  | nil => exact ⟨clean, fun _ member => (nomatch member), fun _ _ old => old⟩
  | cons line lines ih =>
      obtain ⟨id, n', found, clean', hasText, keeps⟩ := clean.ofText? (all line List.mem_cons_self)
      obtain ⟨cleanRest, textRest, keepsRest⟩ :=
        ih (fun line member => all line (List.mem_cons_of_mem _ member)) clean'
      rw [internAll, found]
      refine ⟨cleanRest, fun i member => ?_, fun i t old => keepsRest i t (keeps i t old)⟩
      rcases List.mem_cons.mp member with rfl | member
      · exact ⟨line, keepsRest _ _ hasText⟩
      · exact textRest i member

/-- Whatever is done with the switches and counters of the filters of a list, they stay the filters
    of its lines. -/
theorem clean_after_updates (changes : List (FilterId × (Activity → Activity)))
    (clean : n.Clean policy) :
    (n.after (changes.map fun change => .update change.1 change.2)).Clean policy ∧
      ∀ id, (n.after (changes.map fun change => .update change.1 change.2)).store.text? id =
        n.store.text? id := by
  induction changes generalizing n with
  | nil => exact ⟨clean, fun _ => rfl⟩
  | cons change changes ih =>
      obtain ⟨cleanRest, sameRest⟩ := ih (clean.update change.1 change.2)
      refine ⟨cleanRest, fun id => ?_⟩
      exact (sameRest id).trans (n.store.text?_modifyActivity change.1 change.2 id)

end FilterList

end AdFilter
