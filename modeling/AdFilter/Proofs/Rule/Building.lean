import AdFilter.Proofs.Filter.Line

/-! # Building rules

A rule about requests is built if its regular expression compiles, and a hiding rule if its
selector is not blank. Apart from that they are made of what they are built from.
-/

namespace AdFilter

namespace RequestRule

variable {source : String} {conditions : Conditions}

theorem make_of_compile {regex : Regex}
    (compiles : Regex.compile conditions.matchCase source.toList = .ok regex) :
    make source conditions = .ok { source, conditions, regex, compiles } := by
  unfold make
  split
  · rename_i r h
    obtain rfl : regex = r := by
      rw [compiles] at h
      exact Except.ok.inj h
    rfl
  · rename_i h
    rw [compiles] at h
    cases h

theorem make_of_fault {e : Regex.Error}
    (fault : Regex.compile conditions.matchCase source.toList = .error e) :
    make source conditions = .error (.invalidRegex e) := by
  unfold make
  split
  · rename_i h
    rw [fault] at h
    cases h
  · rename_i h
    rw [fault] at h
    cases h
    rfl

theorem eq_of_make {rule : RequestRule} (made : make source conditions = .ok rule) :
    rule.source = source ∧ rule.conditions = conditions ∧ rule.shortcut = none := by
  cases h : Regex.compile conditions.matchCase source.toList with
  | ok regex =>
      rw [make_of_compile h] at made
      cases made
      exact ⟨rfl, rfl, rfl⟩
  | error e =>
      rw [make_of_fault h] at made
      cases made

theorem compile_of_make {rule : RequestRule} (made : make source conditions = .ok rule) :
    ∃ regex, Regex.compile conditions.matchCase source.toList = .ok regex := by
  cases h : Regex.compile conditions.matchCase source.toList with
  | ok regex => exact ⟨regex, rfl⟩
  | error e =>
      rw [make_of_fault h] at made
      cases made

theorem make_self (rule : RequestRule) :
    make rule.source rule.conditions = .ok { rule with shortcut := none } :=
  make_of_compile rule.compiles

theorem make_eq_error_iff {e : RuleError} :
    make source conditions = .error e ↔
      ∃ e', Regex.compile conditions.matchCase source.toList = .error e' ∧ e = .invalidRegex e' := by
  cases h : Regex.compile conditions.matchCase source.toList with
  | ok regex => simp [make_of_compile h]
  | error e' =>
      rw [make_of_fault h]
      simp [eq_comm]

/-- Of one source and one way to treat case, either rules of all conditions can be built or none. -/
theorem make_cases (source : String) {conditions conditions' : Conditions}
    (same : conditions.matchCase = conditions'.matchCase) :
    (∃ e, make source conditions = .error e ∧ make source conditions' = .error e) ∨
      ∃ rule rule', make source conditions = .ok rule ∧ make source conditions' = .ok rule' := by
  cases h : Regex.compile conditions.matchCase source.toList with
  | ok regex =>
      have h' := h
      rw [same] at h'
      exact .inr ⟨_, _, make_of_compile h, make_of_compile h'⟩
  | error e =>
      have h' := h
      rw [same] at h'
      exact .inl ⟨_, make_of_fault h, make_of_fault h'⟩

theorem ext {a b : RequestRule} (source : a.source = b.source)
    (conditions : a.conditions = b.conditions) (shortcut : a.shortcut = b.shortcut) : a = b := by
  obtain ⟨sa, ca, ra, ha, ka⟩ := a
  obtain ⟨sb, cb, rb, hb, kb⟩ := b
  cases source
  cases conditions
  cases shortcut
  obtain rfl : ra = rb := Except.ok.inj (ha.symm.trans hb)
  rfl

theorem regex_congr {a b : RequestRule} (source : a.source = b.source)
    (matchCase : a.conditions.matchCase = b.conditions.matchCase) : a.regex = b.regex := by
  have compiles := a.compiles
  rw [source, matchCase, b.compiles] at compiles
  exact (Except.ok.inj compiles).symm

end RequestRule

namespace HidingRule

variable {domain : Option String} {selector : String}

theorem make_of_solid (domain : Option String) (solid : Text.blank selector = false) :
    ∃ rule, make domain selector = .ok rule := by
  unfold make
  rw [dif_neg (by simp [solid])]
  exact ⟨_, rfl⟩

theorem eq_of_make {rule : HidingRule} (made : make domain selector = .ok rule) :
    rule.selector = selector ∧ rule.domain = domain.filter (· != "") := by
  unfold make at made
  split at made
  · cases made
  · cases made
    exact ⟨rfl, rfl⟩

theorem make_self (rule : HidingRule) : make rule.domain rule.selector = .ok rule := by
  have kept : rule.domain.filter (· != "") = rule.domain := by
    cases h : rule.domain with
    | none => rfl
    | some domain =>
        have solid : domain ≠ "" := fun empty => rule.domain_ne_empty (h.trans (congrArg some empty))
        simp [solid]
  have solid : ¬ Text.blank rule.selector = true := by simp [rule.selector_not_blank]
  unfold make
  rw [dif_neg solid]
  obtain ⟨domain, selector, _, _⟩ := rule
  simp only [Except.ok.injEq, mk.injEq, and_true]
  exact kept

theorem not_blank_of_make {rule : HidingRule} (made : make domain selector = .ok rule) :
    Text.blank selector = false :=
  (eq_of_make made).1 ▸ rule.selector_not_blank

end HidingRule

namespace Rule

variable {policy : Policy} {line : String}

theorem make_of_ofRequestLine {q : RequestRule}
    (request : (ofRequestLine policy line).request? = some q) :
    RequestRule.make
      (String.ofList (Pattern.source (RuleOptions.cut (cutException line.toList).2).1))
      (conditionsOf (cutException line.toList).1 (RuleOptions.cut (cutException line.toList).2).1
        (RuleOptions.cut (cutException line.toList).2).2) = .ok q := by
  cases marked : cutException line.toList with | mk isException body =>
  cases options : RuleOptions.cut body with | mk pattern o =>
  rw [ofRequestLine_of_cut marked options] at request
  simp only
  split at request
  · cases request
  · split at request
    · cases request
    · rename_i rule made
      split at request
      · cases request
        exact made
      · cases request
        exact made

theorem request?_ofLine {q : RequestRule} (request : (ofLine policy line).request? = some q) :
    (ofRequestLine policy line).request? = some q := by
  rw [ofLine_eq, Hiding.rule?_eq] at request
  cases h : Hiding.split? line.toList with
  | some parts =>
      rw [h, Option.map_some] at request
      simp only at request
      split at request
      · cases request
      · cases request
  | none =>
      rw [h, Option.map_none] at request
      simp only at request
      split at request
      · cases request
      · exact request

theorem rule?_of_ofLine {h : HidingRule} (hides : ofLine policy line = .hide h) :
    Hiding.rule? line = some (.hide h) := by
  rw [ofLine_eq] at hides
  split at hides
  · rename_i rule isRule
    rw [isRule, hides]
  · split at hides
    · cases hides
    · cases marked : cutException line.toList with | mk isException body =>
      cases options : RuleOptions.cut body with | mk pattern o =>
      rw [ofRequestLine_of_cut marked options] at hides
      split at hides
      · cases hides
      · split at hides
        · cases hides
        · split at hides
          · cases hides
          · cases hides

end Rule

end AdFilter
