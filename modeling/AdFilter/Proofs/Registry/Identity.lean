import AdFilter.Proofs.Registry.Calls

/-! # One filter for each text

What a registry knows under a text is a filter of that text, and it stays the same filter until it
is forgotten or a record puts another one into its place.
-/

namespace AdFilter

open Text

/-- The record puts a filter of its own into the place of any other of the text. -/
def Record.Replaces (version : Nat) (r : Record) (text : String) : Prop :=
  r.get? "text" = some text ∧
    (r.get? "type" = some "comment" ∨
      ((r.get? "type" = some "filterlist" ∨ r.get? "type" = some "whitelist") ∧
        version = formatVersion ∧ ∃ source regex, r.get? "regexp" = some source ∧
          Regex.compile r.conditions.matchCase source.toList = .ok regex) ∨
      (r.get? "type" = some "elemhide" ∧
        ∃ selector, r.get? "selector" = some selector ∧ blank selector = false))

theorem Record.Gives.replaces {version : Nat} {r : Record} {f : Filter}
    (gives : r.Gives version f) : r.Replaces version f.text := by
  refine ⟨gives.text, ?_⟩
  cases gives with
  | comment _ hasKind => exact .inl hasKind
  | blocking _ hasKind present hasSource made =>
      obtain ⟨regex, compiled⟩ := RequestRule.compile_of_make made
      exact .inr (.inl ⟨.inl hasKind, present, _, regex, hasSource, compiled⟩)
  | exception _ hasKind present hasSource made =>
      obtain ⟨regex, compiled⟩ := RequestRule.compile_of_make made
      exact .inr (.inl ⟨.inr hasKind, present, _, regex, hasSource, compiled⟩)
  | hide _ hasKind hasSelector made =>
      exact .inr (.inr ⟨hasKind, _, hasSelector, HidingRule.not_blank_of_make made⟩)

namespace Call

/-- After the call another filter may be known under the text. -/
def Renews (text : String) : Call → Prop
  | .clear => True
  | .ofRecord version r => r.Replaces version text
  | .ofText _ | .get _ | .update _ _ => False

/-- The call returns the filter, which has the text. -/
def Returns (n : Interning) (call : Call) (id : FilterId) (text : String) : Prop :=
  (call.run n).1 = some id ∧ (call.run n).2.store.text? id = some text

end Call

namespace Store

@[simp] theorem text?_modifyActivity (s : Store) (id : FilterId) (change : Activity → Activity)
    (i : FilterId) : (s.modifyActivity id change).text? i = s.text? i := by
  simp only [text?, modifyActivity, get?_modify]
  split
  · simp [Function.comp_def]
  · rfl

theorem get?_add_of_some {s : Store} {f g : Filter} {id : FilterId} (old : s.get? id = some g) :
    (s.add f).2.get? id = some g := by
  have other : id ≠ (s.add f).1 := by
    rintro rfl
    simp [get?, add] at old
  rw [get?_add_of_ne other, old]

theorem text?_add {s : Store} {f : Filter} {id : FilterId} {text : String}
    (old : s.text? id = some text) : (s.add f).2.text? id = some text := by
  obtain ⟨g, stored, rfl⟩ := Option.map_eq_some_iff.mp old
  rw [text?, get?_add_of_some stored]
  rfl

end Store

namespace Interning

/-- Whatever is known under a text is a filter with that text. -/
def Sound (n : Interning) : Prop :=
  ∀ text id, n.registry.get? text = some id → n.store.text? id = some text

section Steps

variable {n n' : Interning} {id : FilterId} {text : String}

theorem get?_replace (n : Interning) (f : Filter) (text : String) :
    (n.replace f).2.registry.get? text =
      if text = f.text then some (n.replace f).1 else n.registry.get? text :=
  OrderedMap.get?_insert _ _ _ _

theorem text?_replace (n : Interning) (f : Filter) :
    (n.replace f).2.store.text? (n.replace f).1 = some f.text := by
  show ((n.store.add f).2.get? (n.store.add f).1).map (·.text) = some f.text
  rw [Store.get?_add_self]
  rfl

theorem known_of_replace {f : Filter} (replaced : n.replace f = (id, n')) :
    n'.store.text? id = some f.text ∧ n'.registry.get? f.text = some id := by
  have hasText := text?_replace n f
  have known := get?_replace n f f.text
  rw [if_pos rfl] at known
  rw [replaced] at hasText known
  exact ⟨hasText, known⟩

theorem get?_of_replace {f : Filter} (replaced : n.replace f = (id, n')) (other : text ≠ f.text) :
    n'.registry.get? text = n.registry.get? text := by
  have kept := get?_replace n f text
  rw [if_neg other, replaced] at kept
  exact kept

theorem Sound.replace (sound : n.Sound) (f : Filter) : (n.replace f).2.Sound := by
  intro text id known
  rw [get?_replace] at known
  split at known
  · rename_i same
    cases known
    rw [same]
    exact text?_replace n f
  · exact Store.text?_add (sound text id known)

theorem sound_start (policy : Policy) : (start policy).Sound := by
  intro text id known
  cases known

theorem Sound.after (sound : n.Sound) (calls : List Call) : (n.after calls).Sound := by
  refine after_preserves ?_ ?_ ?_ calls sound
  · exact fun n f sound _ => sound.replace f
  · intro n id change sound text i known
    exact (n.store.text?_modifyActivity id change i).trans (sound text i known)
  · intro n sound text id known
    cases known

theorem Sound.ofText? (sound : n.Sound) (found : n.ofText? text = some (id, n')) :
    n'.store.text? id = some text ∧ n'.registry.get? text = some id := by
  obtain ⟨-, ⟨known, rfl⟩ | ⟨-, replaced⟩⟩ := ofText?_cases found
  · exact ⟨sound text id known, known⟩
  · simpa using known_of_replace replaced

theorem Sound.found? (sound : n.Sound) {version : Nat} {r : Record}
    (found : n.found? version r = some (id, n')) :
    ∃ text, n'.store.text? id = some text ∧ n'.registry.get? text = some id := by
  rcases found?_cases found with ⟨f, -, replaced⟩ | ⟨text, -, -, found⟩
  · exact ⟨f.text, known_of_replace replaced⟩
  · exact ⟨text, sound.ofText? found⟩

theorem Sound.known_of_returns (sound : n.Sound) {call : Call} (returns : call.Returns n id text) :
    (call.run n).2.registry.get? text = some id := by
  obtain ⟨result, hasText⟩ := returns
  have known : ∃ text', (call.run n).2.store.text? id = some text' ∧
      (call.run n).2.registry.get? text' = some id := by
    cases call with
    | ofText text' =>
        rw [Call.run] at result ⊢
        rcases Call.settle_cases n (n.ofText? text') with ⟨-, same⟩ | ⟨id', n', found, same⟩
        · rw [same] at result
          cases result
        · rw [same] at result ⊢
          cases result
          exact ⟨text', sound.ofText? found⟩
    | ofRecord version r =>
        rw [Call.run] at result ⊢
        rcases Call.settle_cases n (n.ofRecord? version r) with ⟨-, same⟩ | ⟨id', n', outcome, same⟩
        · rw [same] at result
          cases result
        · rw [same] at result ⊢
          cases result
          obtain ⟨m, found, rfl⟩ := ofRecord?_cases outcome
          obtain ⟨text', hasText', known⟩ := sound.found? found
          exact ⟨text', (m.store.text?_modifyActivity _ _ _).trans hasText', known⟩
    | get text' => exact ⟨text', sound text' id result, result⟩
    | clear => cases result
    | update => cases result
  obtain ⟨text', hasText', known⟩ := known
  obtain rfl : text = text' := Option.some.inj (hasText.symm.trans hasText')
  exact known

theorem get?_ofText? (known : n.registry.get? text = some id) {text' : String} {id' : FilterId}
    (found : n.ofText? text' = some (id', n')) : n'.registry.get? text = some id := by
  obtain ⟨-, ⟨-, rfl⟩ | ⟨unknown, replaced⟩⟩ := ofText?_cases found
  · exact known
  · have other : text ≠ text' := by
      rintro rfl
      rw [known] at unknown
      cases unknown
    exact (get?_of_replace replaced (by simpa using other)).trans known

theorem known_of_ofText? (found : n.ofText? text = some (id, n')) :
    n'.registry.get? text = some id := by
  obtain ⟨-, ⟨known, rfl⟩ | ⟨-, replaced⟩⟩ := ofText?_cases found
  · exact known
  · simpa using (known_of_replace replaced).2

theorem get?_of_ofText? (found : n.ofText? text = some (id, n')) {text' : String}
    (other : text' ≠ text) : n'.registry.get? text' = n.registry.get? text' := by
  obtain ⟨-, ⟨-, rfl⟩ | ⟨-, replaced⟩⟩ := ofText?_cases found
  · rfl
  · exact get?_of_replace replaced (by simpa using other)

/-- A filter stays known under its text if the call does not renew what is known there. -/
theorem get?_run (known : n.registry.get? text = some id) {call : Call}
    (keeps : ¬ call.Renews text) : (call.run n).2.registry.get? text = some id := by
  cases call with
  | ofText text' =>
      rw [Call.run]
      rcases Call.settle_cases n (n.ofText? text') with ⟨-, same⟩ | ⟨id', n', found, same⟩
      · rw [same]
        exact known
      · rw [same]
        exact get?_ofText? known found
  | ofRecord version r =>
      rw [Call.run]
      rcases Call.settle_cases n (n.ofRecord? version r) with ⟨-, same⟩ | ⟨id', n', outcome, same⟩
      · rw [same]
        exact known
      · rw [same]
        obtain ⟨m, found, rfl⟩ := ofRecord?_cases outcome
        rcases found?_cases found with ⟨f, given, replaced⟩ | ⟨text', -, -, found'⟩
        · have other : text ≠ f.text := by
            rintro rfl
            exact keeps (Record.gives_of_given? given).replaces
          exact (get?_of_replace replaced other).trans known
        · have kept := get?_ofText? known found'
          exact kept
  | get text' => exact known
  | clear => exact absurd trivial keeps
  | update id' change => exact known

theorem get?_after (known : n.registry.get? text = some id) {calls : List Call}
    (keep : ∀ call ∈ calls, ¬ call.Renews text) :
    (n.after calls).registry.get? text = some id := by
  induction calls generalizing n with
  | nil => exact known
  | cons call calls ih =>
      have kept := get?_run known (keep call List.mem_cons_self)
      exact ih kept fun later member => keep later (List.mem_cons_of_mem call member)

end Steps

/-- What two calls return for the same text is the same filter, unless a call after the first one,
    or the second one itself, renews what is known under the text. -/
theorem Sound.same_of_returns {n : Interning} (sound : n.Sound) {first second : Call}
    {between : List Call} {id id' : FilterId} {text : String} (returns : first.Returns n id text)
    (returns' : second.Returns ((first.run n).2.after between) id' text)
    (keep : ∀ call ∈ between ++ [second], ¬ call.Renews text) : id = id' := by
  have sound' : ((first.run n).2.after between).Sound := sound.after (first :: between)
  have known : ((first.run n).2.after between).registry.get? text = some id :=
    get?_after (sound.known_of_returns returns) fun call member =>
      keep call (List.mem_append_left _ member)
  have kept := get?_run known (keep second (by simp))
  exact Option.some.inj (kept.symm.trans (sound'.known_of_returns returns'))

/-- After any run of calls, each text that is known has a filter of that text; a text that is not
    blank gives a filter of that text, which is known under it from then on; and the filters that
    two calls return for the same text are the same unless it was renewed after the first. -/
theorem one_filter_for_each_text (policy : Policy) (calls : List Call) :
    (∀ registry text, (Registry.compile registry text).text = text) ∧
    (∀ text id, ((start policy).after calls).registry.get? text = some id →
      ((start policy).after calls).store.text? id = some text) ∧
    (∀ text, blank text = false → ∃ id n',
      ((start policy).after calls).ofText? text = some (id, n') ∧
        n'.store.text? id = some text ∧ n'.registry.get? text = some id) ∧
    ∀ (first : Call) (between : List Call) (second : Call) (id id' : FilterId) (text : String),
      first.Returns ((start policy).after calls) id text →
      second.Returns ((first.run ((start policy).after calls)).2.after between) id' text →
      id = id' ∨ ∃ call ∈ between ++ [second], call.Renews text := by
  have sound : ((start policy).after calls).Sound := (sound_start policy).after calls
  refine ⟨Registry.text_compile, sound, fun text solid => ?_, ?_⟩
  · cases known : ((start policy).after calls).registry.get? text with
    | some id =>
        have found := ofText?_of_known solid known
        exact ⟨id, _, found, sound.ofText? found⟩
    | none =>
        have found := ofText?_of_unknown solid known
        exact ⟨_, _, found, sound.ofText? found⟩
  · intro first between second id id' text returns returns'
    by_cases renewed : ∃ call ∈ between ++ [second], call.Renews text
    · exact .inr renewed
    · have keep : ∀ call ∈ between ++ [second], ¬ call.Renews text := by
        intro call member renews
        exact renewed ⟨call, member, renews⟩
      exact .inl (sound.same_of_returns returns returns' keep)

/-- A hiding filter is asked for by its text, forgotten, and asked for again. -/
theorem one_filter_for_each_text_forgotten :
    blank "##a" = false ∧
      (∃ id n', ((start .strict).after [.clear]).ofText? "##a" = some (id, n') ∧
        n'.store.text? id = some "##a" ∧ n'.registry.get? "##a" = some id) ∧
      (Call.ofText "##a").Returns ((start .strict).after [.clear]) 0 "##a" ∧
      (Call.ofText "##a").Returns
        (((Call.ofText "##a").run ((start .strict).after [.clear])).2.after [.clear]) 1 "##a" ∧
      ∃ call ∈ [Call.clear] ++ [.ofText "##a"], call.Renews "##a" := by
  obtain ⟨-, -, found, same⟩ := one_filter_for_each_text .strict [.clear]
  have solid : blank "##a" = false := by decide
  have first : (Call.ofText "##a").Returns ((start .strict).after [.clear]) 0 "##a" :=
    ⟨by decide +kernel, by decide +kernel⟩
  have second : (Call.ofText "##a").Returns
      (((Call.ofText "##a").run ((start .strict).after [.clear])).2.after [.clear]) 1 "##a" :=
    ⟨by decide +kernel, by decide +kernel⟩
  refine ⟨solid, found "##a" solid, first, second, ?_⟩
  rcases same _ _ _ _ _ _ first second with equal | renewed
  · cases equal
  · exact renewed

end Interning

end AdFilter
