import AdFilter.Proofs.Registry.Identity

/-! # What restoring a record changes

A record is refused if it names no text or no kind of filter, or if it leaves the filter to a text
that is blank; then nothing changes. Any other record makes a filter known under its text, and
whatever else is known and stored stays as it was.
-/

namespace AdFilter

open Text

namespace Record

def requestKinds : List String :=
  ["filterlist", "whitelist"]

/-- The record leaves the filter to its text. -/
inductive LeftToText (version : Nat) (r : Record) : Prop where
  | invalid : r.get? "type" = some "invalid" → LeftToText version r
  | outdated {kind : String} : r.get? "type" = some kind → kind ∈ requestKinds →
      version ≠ formatVersion → LeftToText version r
  | sourceless {kind : String} : r.get? "type" = some kind → kind ∈ requestKinds →
      r.get? "regexp" = none → LeftToText version r
  | faulty {kind source : String} {e : Regex.Error} : r.get? "type" = some kind →
      kind ∈ requestKinds → r.get? "regexp" = some source →
      Regex.compile r.conditions.matchCase source.toList = .error e → LeftToText version r
  | unselective : r.get? "type" = some "elemhide" → r.get? "selector" = none →
      LeftToText version r
  | blankSelector {selector : String} : r.get? "type" = some "elemhide" →
      r.get? "selector" = some selector → blank selector = true → LeftToText version r

/-- The record gives no filter at all. -/
inductive Refused (version : Nat) (r : Record) : Prop where
  | noText : r.get? "text" = none → Refused version r
  | noKind : (∀ kind ∈ kinds, r.get? "type" ≠ some kind) → Refused version r
  | blankText {text : String} : r.get? "text" = some text → blank text = true →
      r.LeftToText version → Refused version r

section Giving

variable {version : Nat} {r : Record} {f : Filter} {text kind : String}

theorem Gives.not_leftToText (gives : r.Gives version f) : ¬ r.LeftToText version := by
  obtain ⟨-, replaces⟩ := gives.replaces
  intro left
  cases left <;> grind [requestKinds]

theorem leftToText_of_request (hasText : r.get? "text" = some text)
    (hasKind : r.get? "type" = some kind) (request : kind ∈ requestKinds)
    (unaided : r.given? version = none) : r.LeftToText version := by
  by_cases present : version = formatVersion
  · cases hasSource : r.get? "regexp" with
    | none => exact .sourceless hasKind request hasSource
    | some source =>
        cases compiles : Regex.compile r.conditions.matchCase source.toList with
        | error e => exact .faulty hasKind request hasSource compiles
        | ok regex =>
            have made := RequestRule.make_of_compile compiles
            simp only [requestKinds, List.mem_cons, List.not_mem_nil, or_false] at request
            rcases request with rfl | rfl
            · have gives : r.Gives version _ := .blocking hasText hasKind present hasSource made
              cases unaided.symm.trans (given?_eq_some.mpr gives)
            · have gives : r.Gives version _ := .exception hasText hasKind present hasSource made
              cases unaided.symm.trans (given?_eq_some.mpr gives)
  · exact .outdated hasKind request present

theorem leftToText_of_hiding (hasText : r.get? "text" = some text)
    (hasKind : r.get? "type" = some "elemhide") (unaided : r.given? version = none) :
    r.LeftToText version := by
  cases hasSelector : r.get? "selector" with
  | none => exact .unselective hasKind hasSelector
  | some selector =>
      cases solid : blank selector with
      | true => exact .blankSelector hasKind hasSelector solid
      | false =>
          obtain ⟨rule, made⟩ := HidingRule.make_of_solid (r.get? "domain") solid
          have gives : r.Gives version _ := .hide hasText hasKind hasSelector made
          cases unaided.symm.trans (given?_eq_some.mpr gives)

theorem given?_eq_none_iff (hasText : r.get? "text" = some text)
    (hasKind : r.get? "type" = some kind) (known : kind ∈ kinds) :
    r.given? version = none ↔ r.LeftToText version := by
  constructor
  · intro unaided
    simp only [kinds, List.mem_cons, List.not_mem_nil, or_false] at known
    rcases known with rfl | rfl | rfl | rfl | rfl
    · exact .invalid hasKind
    · have gives : r.Gives version _ := .comment hasText hasKind
      cases unaided.symm.trans (given?_eq_some.mpr gives)
    · exact leftToText_of_request hasText hasKind (by decide) unaided
    · exact leftToText_of_request hasText hasKind (by decide) unaided
    · exact leftToText_of_hiding hasText hasKind unaided
  · intro left
    cases given : r.given? version with
    | none => rfl
    | some f => exact absurd left (gives_of_given? given).not_leftToText

end Giving

end Record

namespace Interning

variable {n n' : Interning} {version : Nat} {r : Record} {id : FilterId} {text : String}

theorem ofText?_eq_none_iff : n.ofText? text = none ↔ blank text = true := by
  cases solid : blank text with
  | true => simp [ofText?_of_blank solid]
  | false =>
      cases known : n.registry.get? text with
      | some id => simp [ofText?_of_known solid known]
      | none => simp [ofText?_of_unknown solid known]

/-- Which records give no filter does not depend on what is known. -/
theorem ofRecord?_eq_none_iff : n.ofRecord? version r = none ↔ r.Refused version := by
  rw [ofRecord?, Option.map_eq_none_iff, found?_eq]
  cases hasText : r.get? "text" with
  | none => simp [Record.Refused.noText hasText]
  | some text =>
      simp only [Option.bind_some]
      by_cases known : ∃ kind ∈ Record.kinds, r.get? "type" = some kind
      · obtain ⟨kind, known, hasKind⟩ := known
        have left : r.given? version = none ↔ r.LeftToText version :=
          Record.given?_eq_none_iff hasText hasKind known
        rw [hasKind, Option.bind_some, if_pos known]
        cases given : r.given? version with
        | some f =>
            simp only [reduceCtorEq, false_iff]
            intro refused
            cases refused with
            | noText missing => cases missing.symm.trans hasText
            | noKind unknown => exact unknown kind known hasKind
            | blankText _ _ leaves => cases (left.mpr leaves).symm.trans given
        | none =>
            rw [ofText?_eq_none_iff]
            constructor
            · intro isBlank
              exact .blankText hasText isBlank (left.mp given)
            · intro refused
              cases refused with
              | noText missing => cases missing.symm.trans hasText
              | noKind unknown => exact absurd hasKind (unknown kind known)
              | blankText hasText' isBlank _ =>
                  cases hasText.symm.trans hasText'
                  exact isBlank
      · have refused : r.Refused version := by
          refine .noKind fun kind member hasKind => known ⟨kind, member, hasKind⟩
        simp only [refused, iff_true]
        cases hasKind : r.get? "type" with
        | none => rfl
        | some kind => exact if_neg fun member => known ⟨kind, member, hasKind⟩

/-- The filter has come to be known under the text, and nothing else has changed. -/
structure Puts (n n' : Interning) (text : String) (id : FilterId) : Prop where
  known : n'.registry.get? text = some id
  hasText : n'.store.text? id = some text
  /-- The filter was known before, or there was no such filter. -/
  source : n.registry.get? text = some id ∨ n.store.get? id = none
  texts : ∀ other, other ≠ text → n'.registry.get? other = n.registry.get? other
  filters : ∀ i, i ≠ id → n'.store.get? i = n.store.get? i
  policy : n'.registry.policy = n.registry.policy

theorem puts_of_replace {f : Filter} (replaced : n.replace f = (id, n')) :
    n.Puts n' f.text id := by
  obtain ⟨hasText, known⟩ := known_of_replace replaced
  refine ⟨known, hasText, ?_, fun other different => get?_of_replace replaced different, ?_, ?_⟩
  · cases replaced
    exact .inr (Array.getElem?_eq_none (Nat.le_refl _))
  · cases replaced
    exact fun i other => Store.get?_add_of_ne other
  · cases replaced
    rfl

theorem Sound.puts_of_ofText? (sound : n.Sound) (found : n.ofText? text = some (id, n')) :
    n.Puts n' text id := by
  obtain ⟨-, ⟨known, rfl⟩ | ⟨-, replaced⟩⟩ := ofText?_cases found
  · exact ⟨known, sound text id known, .inl known, fun _ _ => rfl, fun _ _ => rfl, rfl⟩
  · simpa using puts_of_replace replaced

theorem Sound.puts_of_found? (sound : n.Sound) (found : n.found? version r = some (id, n')) :
    ∃ text, r.get? "text" = some text ∧ n.Puts n' text id := by
  rcases found?_cases found with ⟨f, given, replaced⟩ | ⟨text, hasText, -, found⟩
  · exact ⟨f.text, (Record.gives_of_given? given).text, puts_of_replace replaced⟩
  · exact ⟨text, hasText, sound.puts_of_ofText? found⟩

theorem Puts.modifyActivity (puts : n.Puts n' text id) (change : Activity → Activity) :
    n.Puts { n' with store := n'.store.modifyActivity id change } text id where
  known := puts.known
  hasText := (n'.store.text?_modifyActivity id change id).trans puts.hasText
  source := puts.source
  texts := puts.texts
  filters := by
    intro i other
    rw [Store.modifyActivity, Store.get?_modify, if_neg other]
    exact puts.filters i other
  policy := puts.policy

theorem Sound.puts_of_ofRecord? (sound : n.Sound) (found : n.ofRecord? version r = some (id, n')) :
    ∃ text, r.get? "text" = some text ∧ n.Puts n' text id := by
  obtain ⟨m, foundFirst, rfl⟩ := ofRecord?_cases found
  obtain ⟨text, hasText, puts⟩ := sound.puts_of_found? foundFirst
  exact ⟨text, hasText, puts.modifyActivity r.setActivity⟩

/-- After any run of calls, a record gives no filter if and only if it is refused, and then nothing
    changes. Otherwise its filter has its text and is known under it, every other text keeps its
    filter, and every other filter keeps its state, also one that was known under the text. -/
theorem record_puts_one_filter (policy : Policy) (calls : List Call) (version : Nat) (r : Record) :
    let n := (start policy).after calls
    (((Call.ofRecord version r).run n).1 = none ↔ r.Refused version) ∧
    (r.Refused version → (Call.ofRecord version r).run n = (none, n)) ∧
    (¬ r.Refused version → ∃ id n' text, (Call.ofRecord version r).run n = (some id, n') ∧
      r.get? "text" = some text ∧ n.Puts n' text id) := by
  intro n
  have sound : n.Sound := (sound_start policy).after calls
  have refused : n.ofRecord? version r = none ↔ r.Refused version := ofRecord?_eq_none_iff
  rw [Call.run, ← refused]
  rcases Call.settle_cases n (n.ofRecord? version r) with ⟨nothing, same⟩ | ⟨id, n', found, same⟩
  · rw [same]
    exact ⟨by simp [nothing], fun _ => rfl, fun accepted => absurd nothing accepted⟩
  · rw [same]
    obtain ⟨text, hasText, puts⟩ := sound.puts_of_ofRecord? found
    refine ⟨by simp [found], fun nothing => ?_, fun _ => ⟨id, n', text, rfl, hasText, puts⟩⟩
    cases nothing.symm.trans found

/-- A record takes the place of a filter that was hit, and a record of a blank text is refused. -/
theorem record_puts_one_filter_replacing :
    let n := (start .lenient).after [.ofText "ads$image", .update 0 (·.hit 500), .ofText "##a"]
    let r : Record := .ofList [("text", "ads$image"), ("regexp", "ads"), ("type", "filterlist")]
    let blankOne : Record := .ofList [("text", " "), ("regexp", "("), ("type", "whitelist")]
    (¬ r.Refused formatVersion ∧ ∃ n', (Call.ofRecord formatVersion r).run n = (some 2, n') ∧
      n.Puts n' "ads$image" 2 ∧
      (n'.store.get? 0).bind (·.activity?) = some { hits := 1, lastHit := 500 }) ∧
    blankOne.Refused formatVersion ∧ (Call.ofRecord formatVersion blankOne).run n = (none, n) := by
  intro n r blankOne
  obtain ⟨refused, -, puts⟩ := record_puts_one_filter .lenient
    [.ofText "ads$image", .update 0 (·.hit 500), .ofText "##a"] formatVersion r
  obtain ⟨refused', stays, -⟩ := record_puts_one_filter .lenient
    [.ofText "ads$image", .update 0 (·.hit 500), .ofText "##a"] formatVersion blankOne
  have result : ((Call.ofRecord formatVersion r).run n).1 = some 2 := by decide +kernel
  have accepted : ¬ r.Refused formatVersion := by
    rw [← refused, result]
    exact nofun
  have notGiven : blankOne.Refused formatVersion := refused'.mp (by decide +kernel)
  obtain ⟨id, n', text, given, hasText, puts⟩ := puts accepted
  obtain rfl : id = 2 := Option.some.inj ((congrArg Prod.fst given).symm.trans result)
  obtain rfl : text = "ads$image" := Option.some.inj (hasText.symm.trans (by decide +kernel))
  have old : (n.store.get? 0).bind (·.activity?) = some { hits := 1, lastHit := 500 } := by
    decide +kernel
  refine ⟨⟨accepted, n', given, puts, ?_⟩, notGiven, stays notGiven⟩
  rw [puts.filters 0 (by decide)]
  exact old

end Interning

end AdFilter
