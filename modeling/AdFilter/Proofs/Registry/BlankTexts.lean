import AdFilter.Proofs.Registry.Outcome
import Mathlib.Data.List.Induction

/-! # Blank texts

A blank text that is asked for gives no filter. But a record that needs no help of its text gives
one even so, and from then on a filter is known that cannot be had by asking for its text.
-/

namespace AdFilter

open Text

theorem Record.Replaces.gives {version : Nat} {r : Record} {text : String}
    (replaces : r.Replaces version text) : ∃ f, r.given? version = some f ∧ f.text = text := by
  obtain ⟨hasText, hasKind | ⟨hasKind, present, source, regex, hasSource, compiles⟩ |
    ⟨hasKind, selector, hasSelector, solid⟩⟩ := replaces
  · exact ⟨_, given?_eq_some.mpr (.comment hasText hasKind), rfl⟩
  · have made := RequestRule.make_of_compile compiles
    rcases hasKind with hasKind | hasKind
    · exact ⟨_, given?_eq_some.mpr (.blocking hasText hasKind present hasSource made), rfl⟩
    · exact ⟨_, given?_eq_some.mpr (.exception hasText hasKind present hasSource made), rfl⟩
  · obtain ⟨rule, made⟩ := HidingRule.make_of_solid (r.get? "domain") solid
    exact ⟨_, given?_eq_some.mpr (.hide hasText hasKind hasSelector made), rfl⟩

theorem Record.Replaces.not_refused {version : Nat} {r : Record} {text : String}
    (replaces : r.Replaces version text) : ¬ r.Refused version := by
  obtain ⟨f, given, -⟩ := replaces.gives
  obtain ⟨hasText, kinds⟩ := replaces
  intro refused
  cases refused with
  | noText missing => cases missing.symm.trans hasText
  | noKind unknown =>
      have known : ∃ kind ∈ Record.kinds, r.get? "type" = some kind := by
        rcases kinds with hasKind | ⟨hasKind | hasKind, -⟩ | ⟨hasKind, -⟩
        all_goals exact ⟨_, by decide, hasKind⟩
      obtain ⟨kind, isKind, hasKind⟩ := known
      exact unknown kind isKind hasKind
  | blankText _ _ left => exact (gives_of_given? given).not_leftToText left

/-- One of the calls restored a record that put a filter of its own in the place of the text, and
nothing was forgotten since. -/
def PutByRecord (text : String) (calls : List Call) : Prop :=
  ∃ front version r back, calls = front ++ .ofRecord version r :: back ∧
    r.Replaces version text ∧ .clear ∉ back

namespace Interning

section Step

variable {n : Interning} {text : String}

theorem get?_ofText?_of_blank (isBlank : blank text = true) {text' : String} {id : FilterId}
    {n' : Interning} (found : n.ofText? text' = some (id, n')) :
    n'.registry.get? text = n.registry.get? text := by
  apply get?_of_ofText? found
  rintro rfl
  rw [ofText?_of_blank isBlank] at found
  cases found

theorem get?_run_ofRecord_of_blank (isBlank : blank text = true) {version : Nat} {r : Record}
    (keeps : ¬ r.Replaces version text) :
    ((Call.ofRecord version r).run n).2.registry.get? text = n.registry.get? text := by
  rw [Call.run]
  rcases Call.settle_cases n (n.ofRecord? version r) with ⟨-, same⟩ | ⟨id, n', outcome, same⟩
  · rw [same]
  · rw [same]
    obtain ⟨m, found, rfl⟩ := ofRecord?_cases outcome
    rcases found?_cases found with ⟨f, given, replaced⟩ | ⟨text', -, -, found'⟩
    · apply get?_of_replace replaced
      rintro rfl
      exact keeps (Record.gives_of_given? given).replaces
    · have kept := get?_ofText?_of_blank isBlank found'
      exact kept

theorem Sound.known_run_ofRecord (sound : n.Sound) {version : Nat} {r : Record}
    (replaces : r.Replaces version text) :
    ((Call.ofRecord version r).run n).2.registry.get? text ≠ none := by
  rw [Call.run]
  rcases Call.settle_cases n (n.ofRecord? version r) with ⟨nothing, -⟩ | ⟨id, n', found, same⟩
  · exact absurd (ofRecord?_eq_none_iff.mp nothing) replaces.not_refused
  · obtain ⟨text', hasText, puts⟩ := sound.puts_of_ofRecord? found
    obtain rfl : text = text' := Option.some.inj (replaces.1.symm.trans hasText)
    rw [same, puts.known]
    exact Option.some_ne_none id

/-- A blank text comes to be known by a record only, and stays known until all is forgotten. -/
theorem Sound.known_run_iff (sound : n.Sound) (isBlank : blank text = true) (call : Call) :
    (call.run n).2.registry.get? text ≠ none ↔
      (∃ version r, call = .ofRecord version r ∧ r.Replaces version text) ∨
        (call ≠ .clear ∧ n.registry.get? text ≠ none) := by
  cases call with
  | ofText text' =>
      have same : ((Call.ofText text').run n).2.registry.get? text = n.registry.get? text := by
        rw [Call.run]
        rcases Call.settle_cases n (n.ofText? text') with ⟨-, same⟩ | ⟨id, n', found, same⟩
        · rw [same]
        · rw [same]
          exact get?_ofText?_of_blank isBlank found
      simp [same]
  | ofRecord version r =>
      by_cases replaces : r.Replaces version text
      · have known := sound.known_run_ofRecord replaces
        simp [known, replaces]
      · rw [get?_run_ofRecord_of_blank isBlank replaces]
        simp [replaces]
  | get text' => simp [Call.run]
  | clear => simp [Call.run, clear, Registry.clear, Registry.get?]
  | update id change => simp [Call.run]

end Step

theorem putByRecord_append {text : String} {calls : List Call} {call : Call} :
    PutByRecord text (calls ++ [call]) ↔
      (∃ version r, call = .ofRecord version r ∧ r.Replaces version text) ∨
        (call ≠ .clear ∧ PutByRecord text calls) := by
  constructor
  · rintro ⟨front, version, r, back, split, replaces, keeps⟩
    rcases List.eq_nil_or_concat back with rfl | ⟨back, last, rfl⟩
    · obtain ⟨-, same⟩ := List.append_inj' split rfl
      exact .inl ⟨version, r, List.singleton_inj.mp same, replaces⟩
    · rw [List.concat_eq_append, ← List.cons_append, ← List.append_assoc] at split
      obtain ⟨rfl, same⟩ := List.append_inj' split rfl
      cases same
      rw [List.concat_eq_append, List.mem_append, not_or, List.mem_singleton] at keeps
      exact .inr ⟨Ne.symm keeps.2, front, version, r, back, rfl, replaces, keeps.1⟩
  · rintro (⟨version, r, rfl, replaces⟩ | ⟨keeps, front, version, r, back, rfl, replaces, keeps'⟩)
    · exact ⟨calls, version, r, [], rfl, replaces, List.not_mem_nil⟩
    · refine ⟨front, version, r, back ++ [call], by simp, replaces, ?_⟩
      rw [List.mem_append, not_or, List.mem_singleton]
      exact ⟨keeps', Ne.symm keeps⟩

theorem known_iff_putByRecord (policy : Policy) (calls : List Call) {text : String}
    (isBlank : blank text = true) :
    ((start policy).after calls).registry.get? text ≠ none ↔ PutByRecord text calls := by
  induction calls using List.reverseRecOn with
  | nil =>
      have nothing : ((start policy).after []).registry.get? text = none := rfl
      simp [nothing, PutByRecord]
  | append_singleton calls call ih =>
      have sound : ((start policy).after calls).Sound := (sound_start policy).after calls
      rw [putByRecord_append, ← ih, ← sound.known_run_iff isBlank]
      simp [after]

/-- After any calls on a new registry, the blank texts that are known are those that a record put a
    filter in the place of since all was forgotten last. What is known is had by asking for its text
    if and only if the text is not blank. So as long as no record gives a filter of a blank text by
    itself, no blank text is known and all that is known can be asked for. -/
theorem blank_text_known_iff (policy : Policy) (calls : List Call) :
    let n := (start policy).after calls
    (∀ text, blank text = true → (n.registry.get? text ≠ none ↔ PutByRecord text calls)) ∧
    (∀ text id, n.registry.get? text = some id →
      (n.ofText? text = some (id, n) ↔ blank text = false)) ∧
    ((∀ version r text, .ofRecord version r ∈ calls → r.Replaces version text →
        blank text = false) →
      ∀ text id, n.registry.get? text = some id →
        blank text = false ∧ n.ofText? text = some (id, n)) := by
  intro n
  have asked : ∀ text id, n.registry.get? text = some id →
      (n.ofText? text = some (id, n) ↔ blank text = false) := by
    intro text id known
    cases solid : blank text with
    | true => simp [ofText?_of_blank solid]
    | false => simp [ofText?_of_known solid known]
  refine ⟨fun text => known_iff_putByRecord policy calls, asked, ?_⟩
  intro given text id known
  have solid : blank text = false := by
    rw [Bool.eq_false_iff]
    intro isBlank
    have put : n.registry.get? text ≠ none := known ▸ Option.some_ne_none id
    obtain ⟨front, version, r, back, rfl, replaces, -⟩ :=
      (known_iff_putByRecord policy calls isBlank).mp put
    cases isBlank.symm.trans (given version r text (by simp) replaces)
  exact ⟨solid, (asked text id known).mpr solid⟩

/-- The record of a comment that is a blank. -/
def blankComment : Record :=
  .ofList [("text", " "), ("type", "comment")]

/-- A blank comment is known once it was restored, and other comments do no harm. -/
theorem blank_text_known_iff_comment :
    let comment : Record := .ofList [("text", "! x"), ("type", "comment")]
    let n := (start .lenient).after [.ofRecord formatVersion blankComment]
    let n' := (start .lenient).after [.ofRecord formatVersion comment]
    (blank " " = true ∧ PutByRecord " " [.ofRecord formatVersion blankComment] ∧
      n.registry.get? " " ≠ none) ∧
    (n.registry.get? " " = some 0 ∧ n.ofText? " " ≠ some (0, n)) ∧
    n'.registry.get? "! x" = some 0 ∧ n'.ofText? "! x" = some (0, n') := by
  intro comment n n'
  obtain ⟨puts, asked, -⟩ :=
    blank_text_known_iff .lenient [.ofRecord formatVersion blankComment]
  obtain ⟨-, -, harmless⟩ := blank_text_known_iff .lenient [.ofRecord formatVersion comment]
  have isBlank : blank " " = true := by
    decide
  have put : PutByRecord " " [.ofRecord formatVersion blankComment] := by
    refine ⟨[], _, _, [], rfl, ⟨?_, .inl ?_⟩, List.not_mem_nil⟩
    · decide +kernel
    · decide +kernel
  have known : n.registry.get? " " = some 0 := by
    decide +kernel
  have known' : n'.registry.get? "! x" = some 0 := by
    decide +kernel
  have solid : ∀ version r text, .ofRecord version r ∈ [Call.ofRecord formatVersion comment] →
      r.Replaces version text → blank text = false := by
    intro version r text member replaces
    cases List.mem_singleton.mp member
    have hasText : comment.get? "text" = some "! x" := by
      decide +kernel
    cases hasText.symm.trans replaces.1
    decide
  refine ⟨⟨isBlank, put, (puts " " isBlank).mpr put⟩, ⟨known, ?_⟩, known', ?_⟩
  · rw [Ne, asked " " 0 known, isBlank]
    decide
  · exact (harmless solid "! x" 0 known').2

/-- The blank comment is known and cannot be asked for. -/
theorem not_solid_of_blank_comment :
    ¬ ∀ (policy : Policy) (calls : List Call) (text : String) (id : FilterId),
      ((start policy).after calls).registry.get? text = some id →
        blank text = false ∧
          ((start policy).after calls).ofText? text = some (id, (start policy).after calls) := by
  intro solid
  have known : ((start .lenient).after [.ofRecord formatVersion blankComment]).registry.get? " " =
      some 0 := by
    decide +kernel
  have result := (solid .lenient _ " " 0 known).1
  revert result
  decide

end Interning

end AdFilter
