import AdFilter.Filter.Stored
import AdFilter.Proofs.Rule.Building

/-! # The filter in a record

A record gives a filter by itself if it is a comment, or if the regular expression or the selector
in it can still be used. Any other record of a known kind leaves the filter to its text.
-/

namespace AdFilter.Record

/-- The kinds of filters that records can be of. -/
def kinds : List String :=
  ["invalid", "comment", "filterlist", "whitelist", "elemhide"]

/-- The filter that the fields give without the help of the text. -/
def given? (version : Nat) (r : Record) : Option Filter :=
  (r.get? "text").bind fun text => (r.get? "type").bind fun kind =>
    if kind = "comment" then some { text, rule := .comment }
    else if kind = "filterlist" ∨ kind = "whitelist" then
      if version = formatVersion then (r.requestFilter? (kind = "whitelist")).bind (·.toOption)
      else none
    else if kind = "elemhide" then r.hidingFilter?.bind (·.toOption)
    else none

/-- What is in a record that gives a filter. -/
inductive Gives (version : Nat) (r : Record) : Filter → Prop where
  | comment {text : String} : r.get? "text" = some text → r.get? "type" = some "comment" →
      Gives version r { text, rule := .comment }
  | blocking {text source : String} {rule : RequestRule} : r.get? "text" = some text →
      r.get? "type" = some "filterlist" → version = formatVersion →
      r.get? "regexp" = some source → RequestRule.make source r.conditions = .ok rule →
      Gives version r
        { text, rule := .blocking { rule with shortcut := r.shortcut? } (r.bool? "collapse") }
  | exception {text source : String} {rule : RequestRule} : r.get? "text" = some text →
      r.get? "type" = some "whitelist" → version = formatVersion →
      r.get? "regexp" = some source → RequestRule.make source r.conditions = .ok rule →
      Gives version r { text, rule := .exception { rule with shortcut := r.shortcut? } }
  | hide {text selector : String} {rule : HidingRule} : r.get? "text" = some text →
      r.get? "type" = some "elemhide" → r.get? "selector" = some selector →
      HidingRule.make (r.get? "domain") selector = .ok rule →
      Gives version r { text, rule := .hide rule }

section Giving

variable {version : Nat} {r : Record} {f : Filter}

theorem bind_toOption_eq_some {built : Option (Except RuleError Filter)} :
    built.bind (·.toOption) = some f ↔ built = some (.ok f) := by
  match built with
  | none => simp
  | some (.ok g) => simp [Except.toOption]
  | some (.error e) => simp [Except.toOption]

theorem requestFilter?_eq_ok (isException : Bool) :
    r.requestFilter? isException = some (.ok f) ↔ ∃ text source rule,
      r.get? "text" = some text ∧ r.get? "regexp" = some source ∧
      RequestRule.make source r.conditions = .ok rule ∧
      f = { text, rule :=
        if isException then .exception { rule with shortcut := r.shortcut? }
        else .blocking { rule with shortcut := r.shortcut? } (r.bool? "collapse") } := by
  unfold requestFilter?
  cases r.get? "text" with
  | none => simp
  | some text =>
      cases r.get? "regexp" with
      | none => simp
      | some source =>
          cases made : RequestRule.make source r.conditions with
          | error e => simp [Except.map, made]
          | ok rule => simp [Except.map, made, eq_comm]

theorem hidingFilter?_eq_ok :
    r.hidingFilter? = some (.ok f) ↔ ∃ text selector rule,
      r.get? "text" = some text ∧ r.get? "selector" = some selector ∧
      HidingRule.make (r.get? "domain") selector = .ok rule ∧ f = { text, rule := .hide rule } := by
  unfold hidingFilter?
  cases r.get? "text" with
  | none => simp
  | some text =>
      cases r.get? "selector" with
      | none => simp
      | some selector =>
          cases made : HidingRule.make (r.get? "domain") selector with
          | error e => simp [Except.map, made]
          | ok rule => simp [Except.map, made, eq_comm]

theorem gives_of_given? (given : r.given? version = some f) : Gives version r f := by
  obtain ⟨text, hasText, given⟩ := Option.bind_eq_some_iff.mp given
  obtain ⟨kind, hasKind, given⟩ := Option.bind_eq_some_iff.mp given
  split at given
  · rename_i comment
    subst comment
    cases given
    exact .comment hasText hasKind
  · split at given
    · rename_i request
      split at given
      · rename_i present
        obtain ⟨text, source, rule, hasText, hasSource, made, rfl⟩ :=
          (requestFilter?_eq_ok _).mp (bind_toOption_eq_some.mp given)
        rcases request with rfl | rfl
        · exact .blocking hasText hasKind present hasSource made
        · exact .exception hasText hasKind present hasSource made
      · cases given
    · split at given
      · rename_i hides
        subst hides
        obtain ⟨text, selector, rule, hasText, hasSelector, made, rfl⟩ :=
          hidingFilter?_eq_ok.mp (bind_toOption_eq_some.mp given)
        exact .hide hasText hasKind hasSelector made
      · cases given

theorem given?_eq_some : r.given? version = some f ↔ Gives version r f := by
  refine ⟨gives_of_given?, fun gives => ?_⟩
  cases gives with
  | comment hasText hasKind => simp [given?, hasText, hasKind]
  | blocking hasText hasKind present hasSource made =>
      have built := bind_toOption_eq_some.mpr
        ((requestFilter?_eq_ok false).mpr ⟨_, _, _, hasText, hasSource, made, rfl⟩)
      simpa [given?, hasText, hasKind, present] using built
  | exception hasText hasKind present hasSource made =>
      have built := bind_toOption_eq_some.mpr
        ((requestFilter?_eq_ok true).mpr ⟨_, _, _, hasText, hasSource, made, rfl⟩)
      simpa [given?, hasText, hasKind, present] using built
  | hide hasText hasKind hasSelector made =>
      have built := bind_toOption_eq_some.mpr
        (hidingFilter?_eq_ok.mpr ⟨_, _, _, hasText, hasSelector, made, rfl⟩)
      simpa [given?, hasText, hasKind] using built

theorem Gives.text (gives : Gives version r f) : r.get? "text" = some f.text := by
  cases gives <;> assumption

end Giving

end AdFilter.Record
