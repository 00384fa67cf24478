import AdFilter.Proofs.Filter.Restoring
import AdFilter.Proofs.Hiding.OneLine
import AdFilter.Proofs.Record.Block
import AdFilter.Proofs.Restriction
import AdFilter.Proofs.Rule.OneLine

/-! # Filters of lists in blocks of text

The record of the filter of a line can be printed as a block. Read back it has lost the carriage
returns at the ends of values, which only some of its fields can have.
-/

namespace AdFilter

open OrderedMap Text

/-- The text can stand as a trimmed line. -/
structure Text.IsLine (text : String) : Prop where
  solid : blank text = false
  oneLine : '\n' ∉ text.toList
  trimmed : trimList text.toList = text.toList

namespace Filter

/-- The filter is that of a trimmed line, apart from its switch and its counters. -/
structure Listed (policy : Policy) (f : Filter) : Prop where
  rule : f.rule = .ofLine policy f.text
  idle : f.rule.isActive = false → f.activity = {}
  line : IsLine f.text

theorem listed_compile (registry : Registry) {text : String} (line : IsLine text) :
    (registry.compile text).Listed registry.policy := by
  rw [Registry.compile_eq]
  exact ⟨rfl, fun _ => rfl, line⟩

/-- The keys that the record of a filter can have. -/
def recordKeys : List String :=
  ["text", "disabled", "hitCount", "lastHit", "regexp", "shortcut", "contentType", "matchCase",
    "domains", "thirdParty", "collapse", "domain", "selector", "type"]

def numberKeys : List String :=
  ["hitCount", "lastHit", "contentType"]

def truthKeys : List String :=
  ["disabled", "matchCase", "thirdParty", "collapse"]

section Fields

variable {P : String → String → Prop} {f : Filter}
  (number : ∀ key ∈ numberKeys, ∀ n : Nat, P key (toString n))
  (truth : ∀ key ∈ truthKeys, ∀ b, P key (Record.ofBool b))

include number truth

theorem all_writeActivity {r : Record} (all : r.All P) (a : Activity) :
    (writeActivity a r).All P := by
  refine ((all.insert? ?_).insert? ?_).insert? ?_
  · intro value member
    split at member
    · cases member
      exact truth "disabled" (by decide) true
    · cases member
  · intro value member
    split at member
    · cases member
    · cases member
      exact number "hitCount" (by decide) _
  · intro value member
    split at member
    · cases member
    · cases member
      exact number "lastHit" (by decide) _

theorem all_writeRequest {r : Record} (all : r.All P) {q : RequestRule}
    (source : P "regexp" q.source) (shortcut : ∀ s ∈ q.shortcut, P "shortcut" s)
    (domains : ∀ list ∈ q.conditions.domains, P "domains" list) : (writeRequest q r).All P := by
  refine (((((all.insert source).insert? shortcut).insert? ?_).insert? ?_).insert? domains).insert? ?_
  · intro value member
    obtain ⟨m, -, rfl⟩ := Option.map_eq_some_iff.mp member
    exact number "contentType" (by decide) _
  · intro value member
    split at member
    · cases member
      exact truth "matchCase" (by decide) true
    · cases member
  · intro value member
    obtain ⟨b, -, rfl⟩ := Option.map_eq_some_iff.mp member
    exact truth "thirdParty" (by decide) b

/-- What holds of all parts of a filter in the form in which they are written holds of all fields
    of its record. -/
theorem all_toRecord (text : P "text" f.text) (kind : P "type" f.rule.kind)
    (request : ∀ q, f.rule.request? = some q → P "regexp" q.source ∧
      (∀ s ∈ q.shortcut, P "shortcut" s) ∧ ∀ list ∈ q.conditions.domains, P "domains" list)
    (hides : ∀ h, f.rule = .hide h → P "selector" h.selector ∧ ∀ list ∈ h.domain, P "domain" list) :
    f.toRecord.All P := by
  have start := (all_empty P).insert text
  have active := all_writeActivity number truth start f.activity
  refine All.insert ?_ kind
  cases rule : f.rule with
  | invalid | comment => exact start
  | blocking q collapse =>
      obtain ⟨source, shortcut, domains⟩ := request q (by rw [rule]; rfl)
      refine (all_writeRequest number truth active source shortcut domains).insert? ?_
      intro value member
      obtain ⟨b, -, rfl⟩ := Option.map_eq_some_iff.mp member
      exact truth "collapse" (by decide) b
  | exception q =>
      obtain ⟨source, shortcut, domains⟩ := request q (by rw [rule]; rfl)
      exact all_writeRequest number truth active source shortcut domains
  | hide h =>
      obtain ⟨selector, domain⟩ := hides h rule
      exact (active.insert? domain).insert selector

end Fields

theorem no_feed_toString (n : Nat) : '\n' ∉ (toString n).toList := by
  have written : (toString n).toList = Nat.toDigits 10 n := Nat.toList_repr
  rw [written]
  intro feed
  have digit := Nat.isDigit_of_mem_toDigits (by decide) (by decide) feed
  cases digit

theorem dropReturns_toString (n : Nat) : dropReturns (toString n) = toString n := by
  have written : (toString n).toList = Nat.toDigits 10 n := Nat.toList_repr
  refine dropReturns_eq_self fun last => ?_
  rw [written] at last
  have digit := Nat.isDigit_of_mem_toDigits (by decide) (by decide) (List.mem_of_getLast? last)
  cases digit

section Listed

variable {policy : Policy} {f : Filter} (h : f.Listed policy)

include h

theorem Listed.restorable : f.Restorable policy where
  idle := h.idle
  invalid := fun _ _ => ⟨h.line.solid, h.rule.symm⟩
  shortcut := fun q request s member => by
    rw [h.rule] at request
    rw [shortcut_ofLine request] at member
    cases member

theorem Listed.oneLine_request {q : RequestRule} (request : f.rule.request? = some q) :
    q.OneLine := by
  rw [h.rule] at request
  exact Rule.oneLine_ofRequestLine h.line.oneLine (Rule.request?_ofLine request)

theorem Listed.oneLine_hide {rule : HidingRule} (hides : f.rule = .hide rule) : rule.OneLine := by
  rw [h.rule] at hides
  exact Hiding.oneLine_rule? h.line.oneLine (Rule.rule?_of_ofLine hides)

theorem Listed.dropReturns_text : dropReturns f.text = f.text := by
  refine dropReturns_eq_self fun last => ?_
  rw [← h.line.trimmed] at last
  have kept := getLast?_dropEndWhile last
  cases kept

theorem Listed.printable : f.toRecord.Printable := by
  have fields : f.toRecord.All fun key value => key ∈ recordKeys ∧ '\n' ∉ value.toList := by
    refine all_toRecord ?_ ?_ ⟨by decide, h.line.oneLine⟩ ⟨by decide, ?_⟩ ?_ ?_
    · intro key member n
      refine ⟨?_, no_feed_toString n⟩
      revert key
      decide
    · intro key member b
      refine ⟨?_, by cases b <;> decide⟩
      revert key
      decide
    · have kinds : ∀ kind ∈ Record.kinds, '\n' ∉ kind.toList := by decide
      exact kinds _ (kind_mem_kinds f.rule)
    · intro q request
      have oneLine := h.oneLine_request request
      refine ⟨⟨by decide, oneLine.source⟩, fun s member => ?_, fun list member =>
        ⟨by decide, oneLine.domains list member⟩⟩
      rw [oneLine.shortcut] at member
      cases member
    · intro rule hides
      have oneLine := h.oneLine_hide hides
      exact ⟨⟨by decide, oneLine.selector⟩, fun list member =>
        ⟨by decide, oneLine.domain list member⟩⟩
  have keys : ∀ key ∈ recordKeys,
      '=' ∉ key.toList ∧ '\n' ∉ key.toList ∧ trimList key.toList = key.toList := by
    decide
  constructor
  · intro e member
    exact keys e.1 (fields e.1 e.2 ((get?_eq_some_iff _).mpr member)).1
  · intro e member
    exact (fields e.1 e.2 ((get?_eq_some_iff _).mpr member)).2

omit h in
theorem bool?_dropReturns (f : Filter) {key : String}
    (ofTruth : key ∈ truthKeys) :
    f.toRecord.dropReturns.bool? key = f.toRecord.bool? key := by
  have fields : f.toRecord.All fun key value =>
      key ∈ truthKeys → dropReturns value = value := by
    refine all_toRecord ?_ ?_ ?_ ?_ ?_ ?_
    · exact fun _ _ n _ => dropReturns_toString n
    · intro _ _ b _
      cases b <;> rfl
    · exact fun member => absurd member (by decide)
    · exact fun member => absurd member (by decide)
    · intro q _
      exact ⟨fun member => absurd member (by decide),
        fun _ _ member => absurd member (by decide), fun _ _ member => absurd member (by decide)⟩
    · intro rule _
      exact ⟨fun member => absurd member (by decide), fun _ _ member => absurd member (by decide)⟩
  unfold Record.bool?
  rw [Record.get?_dropReturns]
  cases field : f.toRecord.get? key with
  | none => rfl
  | some value => rw [Option.map_some, fields key value field ofTruth]

omit h in
theorem number?_dropReturns (r : Record) (bound : Nat) (key : String) :
    r.dropReturns.number? bound key = r.number? bound key := by
  unfold Record.number?
  rw [Record.get?_dropReturns]
  cases r.get? key with
  | none => rfl
  | some value =>
      rw [Option.map_some, Option.bind_some, Option.bind_some, Decimal.parse?, Decimal.parse?,
        trimList_dropReturns]

omit h in
theorem contains_dropReturns (r : Record) (key : String) :
    r.dropReturns.contains key = r.contains key := by
  rw [contains, contains, Record.get?_dropReturns, Option.isSome_map]

omit h in
theorem setActivity_dropReturns (f : Filter) :
    f.toRecord.dropReturns.setActivity = f.toRecord.setActivity := by
  have disabled := bool?_dropReturns f (by decide : "disabled" ∈ _)
  funext a
  simp only [Record.setActivity, Record.setLastHit, Record.setHits, Record.setDisabled,
    contains_dropReturns, number?_dropReturns, disabled]

theorem Listed.text_dropReturns : f.toRecord.dropReturns.get? "text" = some f.text := by
  rw [Record.get?_dropReturns, text_toRecord, Option.map_some, h.dropReturns_text]

omit h in
theorem dropReturns_kind (rule : Rule) : dropReturns rule.kind = rule.kind := by
  have kinds : ∀ kind ∈ Record.kinds, dropReturns kind = kind := by decide
  exact kinds _ (kind_mem_kinds rule)

omit h in
theorem type_dropReturns (f : Filter) :
    f.toRecord.dropReturns.get? "type" = some f.rule.kind := by
  rw [Record.get?_dropReturns, type_toRecord, Option.map_some, dropReturns_kind]

omit h in
theorem regexp_dropReturns {q : RequestRule} (request : f.rule.request? = some q) :
    f.toRecord.dropReturns.get? "regexp" = some (dropReturns q.source) := by
  rw [Record.get?_dropReturns, regexp_toRecord request, Option.map_some]

omit h in
theorem conditions_dropReturns {q : RequestRule} (request : f.rule.request? = some q) :
    f.toRecord.dropReturns.conditions =
      { q.conditions with domains := q.conditions.domains.map dropReturns } := by
  have whole := conditions_toRecord request
  have matchCase := bool?_dropReturns f (by decide : "matchCase" ∈ _)
  have thirdParty := bool?_dropReturns f (by decide : "thirdParty" ∈ _)
  rw [← whole]
  unfold Record.conditions
  rw [number?_dropReturns, matchCase, thirdParty, Record.get?_dropReturns]

end Listed

end Filter

end AdFilter
