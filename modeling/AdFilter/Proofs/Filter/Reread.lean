import AdFilter.Proofs.Filter.Dumped

/-! # Filters restored from blocks of text

For the filter of a line the loss of carriage returns matters only at the end of its regular
expression, and there only if what is left is a regular expression still.
-/

namespace AdFilter

open OrderedMap Text

/-- The rule does not change when the carriage returns at the end of its source are lost: there
    are none, or the rest is no regular expression, so that the rule is made from its line. -/
def RequestRule.Lasting (q : RequestRule) : Prop :=
  q.source.toList.getLast? ≠ some '\r' ∨
    ∀ regex, Regex.compile q.conditions.matchCase (dropReturns q.source).toList ≠ .ok regex

/-- The filter has the text, the kind, the state and the source of the other one, and does the
    same. -/
structure Filter.ActsLike (f' f : Filter) : Prop where
  text : f'.text = f.text
  kind : f'.rule.kind = f.rule.kind
  activity : f'.activity? = f.activity?
  source : f'.rule.request?.map (·.source) = f.rule.request?.map (·.source)
  applies : ∀ q, f'.rule.applies q = f.rule.applies q
  isActiveOn : ∀ host, f'.rule.isActiveOn host = f.rule.isActiveOn host

namespace RequestRule

theorem restriction_dropReturns {q q' : RequestRule}
    (domains : q'.conditions.domains = q.conditions.domains.map dropReturns) :
    q'.restriction = q.restriction := by
  rw [restriction, restriction, domains]
  cases q.conditions.domains with
  | none => rfl
  | some list =>
      simp only [Option.map_some, Option.getD_some]
      exact Restriction.ofList_dropReturns (by decide) list

theorem applies_dropReturns {q q' : RequestRule} (source : q'.source = q.source)
    (conditions : q'.conditions = { q.conditions with domains := q.conditions.domains.map dropReturns })
    (request : Request) : q'.applies request = q.applies request := by
  have domains : q'.conditions.domains = q.conditions.domains.map dropReturns := by rw [conditions]
  have restriction := restriction_dropReturns domains
  have compiles := q'.compiles
  rw [source, conditions, q.compiles] at compiles
  have regex := Except.ok.inj compiles
  rw [applies, applies, restriction, ← regex, types, types, conditions]

end RequestRule

theorem HidingRule.restriction_dropReturns {h h' : HidingRule}
    (domain : h'.domain = (h.domain.map dropReturns).filter (· != "")) :
    h'.restriction = h.restriction := by
  rw [restriction, restriction, domain]
  cases h.domain with
  | none => rfl
  | some list =>
      have same : Restriction.ofList ',' (dropReturns list) = Restriction.ofList ',' list :=
        Restriction.ofList_dropReturns (by decide) list
      by_cases nothing : dropReturns list = ""
      · rw [nothing] at same
        rw [Option.map_some, nothing, Option.map_some, Option.getD_some, ← same]
        rfl
      · rw [Option.map_some, Option.filter_some, if_pos (bne_iff_ne.mpr nothing)]
        simp only [Option.map_some, Option.getD_some, same]

namespace Filter

variable {policy : Policy} {f : Filter}

/-- The filter that is read from the block of a filter. -/
def reread? (policy : Policy) (f : Filter) : Option Filter :=
  f.toRecord.dropReturns.filter? policy formatVersion

theorem kind_of_request {g : Filter} {q : RequestRule} (request : g.rule.request? = some q) :
    g.rule.kind ∈ ["filterlist", "whitelist"] := by
  cases rule : g.rule <;> rw [rule] at request <;> cases request <;> simp [Rule.kind]

theorem isActiveOn_of_request {g : Filter} {q : RequestRule} (request : g.rule.request? = some q)
    (host : String) : g.rule.isActiveOn host = q.restriction.isActiveOn host := by
  cases rule : g.rule <;> rw [rule] at request <;> cases request <;> rfl

theorem activity?_of_active (active : f.rule.isActive = true) : f.activity? = some f.activity :=
  if_pos active

theorem copy_actsLike (f : Filter) : f.copy.ActsLike f :=
  ⟨rfl, rfl, rfl, rfl, fun _ => rfl, fun _ => rfl⟩

section Reading

variable (h : f.Listed policy)

include h

theorem Listed.reread?_eq : f.reread? policy =
    ((f.toRecord.dropReturns.given? formatVersion).or (some { text := f.text, rule := f.rule })).map
      (·.updateActivity f.toRecord.setActivity) := by
  rw [reread?, Record.filter?, h.text_dropReturns, type_dropReturns, Option.bind_some,
    Option.bind_some, if_pos (kind_mem_kinds f.rule), h.line.solid, if_neg Bool.false_ne_true,
    setActivity_dropReturns, ← h.rule]

theorem Listed.reread?_of_none (none : f.toRecord.dropReturns.given? formatVersion = none) :
    f.reread? policy = some f.copy := by
  rw [h.reread?_eq, none, Option.none_or, Option.map_some, updateActivity_toRecord h.restorable]

theorem Listed.reread?_of_gives {rule : Rule} (active : f.rule.isActive = true)
    (active' : rule.isActive = true)
    (gives : f.toRecord.dropReturns.Gives formatVersion { text := f.text, rule }) :
    f.reread? policy = some { text := f.text, rule, activity := f.activity } := by
  have changed := updateActivity_of_active (f := { text := f.text, rule }) active'
    f.toRecord.setActivity
  rw [h.reread?_eq, Record.given?_eq_some.mpr gives, Option.some_or, Option.map_some, changed,
    setActivity_toRecord active]

theorem Listed.reread?_of_idle (idle : f.rule.isActive = false) :
    f.reread? policy = some f.copy := by
  have whole : f.toRecord.dropReturns = f.toRecord := by
    refine Record.dropReturns_of_get? fun key value field => ?_
    rw [get?_toRecord_idle idle] at field
    split at field
    · cases field
      exact dropReturns_kind f.rule
    · split at field
      · cases field
        exact h.dropReturns_text
      · cases field
  rw [reread?, whole, filter?_toRecord h.restorable]

theorem Listed.reread?_of_hide {rule : HidingRule} (hides : f.rule = .hide rule) :
    ∃ f', f.reread? policy = some f' ∧ f'.ActsLike f := by
  have active : f.rule.isActive = true := by rw [hides]; rfl
  have field := get?_toRecord_hide hides
  have kind := type_dropReturns f
  rw [hides] at kind
  have domain : f.toRecord.dropReturns.get? "domain" = rule.domain.map dropReturns := by
    simp [Record.get?_dropReturns, field]
  have selector : f.toRecord.dropReturns.get? "selector" = some (dropReturns rule.selector) := by
    simp [Record.get?_dropReturns, field]
  have solid : blank (dropReturns rule.selector) = false := by
    rw [blank_dropReturns, rule.selector_not_blank]
  obtain ⟨rule', made⟩ := HidingRule.make_of_solid (f.toRecord.dropReturns.get? "domain") solid
  have read := h.reread?_of_gives active rfl (.hide h.text_dropReturns kind selector made)
  refine ⟨_, read, ⟨rfl, by rw [hides]; rfl, ?_, by rw [hides]; rfl, fun q => by rw [hides]; rfl, ?_⟩⟩
  · rw [activity?_of_active active, activity?_of_active rfl]
  · intro host
    have domain' : rule'.domain = (rule.domain.map dropReturns).filter (· != "") := by
      rw [(HidingRule.eq_of_make made).2, domain]
    have restriction := HidingRule.restriction_dropReturns domain'
    simp only [Rule.isActiveOn, hides, restriction]

theorem Listed.reread?_of_compile {q : RequestRule} (request : f.rule.request? = some q)
    {regex : Regex} (compiles :
      Regex.compile q.conditions.matchCase (dropReturns q.source).toList = .ok regex) :
    ∃ f' q', f.reread? policy = some f' ∧ f'.text = f.text ∧ f'.activity? = f.activity? ∧
      f'.rule.kind = f.rule.kind ∧ f'.rule.request? = some q' ∧
      q'.source = dropReturns q.source ∧
      q'.conditions = { q.conditions with domains := q.conditions.domains.map dropReturns } := by
  have kind := type_dropReturns f
  have source := regexp_dropReturns request
  have conditions := conditions_dropReturns request
  have made : RequestRule.make (dropReturns q.source) f.toRecord.dropReturns.conditions =
      .ok ⟨dropReturns q.source, f.toRecord.dropReturns.conditions, regex, _, none⟩ :=
    RequestRule.make_of_compile (by rw [conditions]; exact compiles)
  cases rule : f.rule with
  | invalid | comment | hide =>
      rw [rule] at request
      cases request
  | blocking q collapse =>
      have active : f.rule.isActive = true := by rw [rule]; rfl
      rw [rule] at kind
      have read := h.reread?_of_gives active rfl (.blocking h.text_dropReturns kind rfl source made)
      refine ⟨_, _, read, rfl, ?_, rfl, rfl, rfl, conditions⟩
      rw [activity?_of_active active, activity?_of_active rfl]
  | exception q =>
      have active : f.rule.isActive = true := by rw [rule]; rfl
      rw [rule] at kind
      have read := h.reread?_of_gives active rfl (.exception h.text_dropReturns kind rfl source made)
      refine ⟨_, _, read, rfl, ?_, rfl, rfl, rfl, conditions⟩
      rw [activity?_of_active active, activity?_of_active rfl]

theorem Listed.reread?_of_fault {q : RequestRule} (request : f.rule.request? = some q)
    (fault : ∀ regex,
      Regex.compile q.conditions.matchCase (dropReturns q.source).toList ≠ .ok regex) :
    f.reread? policy = some f.copy := by
  refine h.reread?_of_none ?_
  have kind := type_dropReturns f
  have source := regexp_dropReturns request
  have conditions := conditions_dropReturns request
  have unmade : ∀ s rule, f.toRecord.dropReturns.get? "regexp" = some s →
      RequestRule.make s f.toRecord.dropReturns.conditions ≠ .ok rule := by
    intro s rule field made
    obtain ⟨regex, compiles⟩ := RequestRule.compile_of_make made
    rw [source] at field
    cases field
    rw [conditions] at compiles
    exact fault regex compiles
  cases given : f.toRecord.dropReturns.given? formatVersion with
  | none => rfl
  | some g =>
      exfalso
      cases Record.gives_of_given? given with
      | comment _ hasKind =>
          rw [kind] at hasKind
          exact absurd (Option.some.inj hasKind ▸ kind_of_request request) (by decide)
      | blocking _ _ _ hasSource made => exact unmade _ _ hasSource made
      | exception _ _ _ hasSource made => exact unmade _ _ hasSource made
      | hide _ hasKind _ _ =>
          rw [kind] at hasKind
          exact absurd (Option.some.inj hasKind ▸ kind_of_request request) (by decide)

theorem Listed.reread?_of_request {q : RequestRule} (request : f.rule.request? = some q) :
    ∃ f', f.reread? policy = some f' ∧ f'.text = f.text ∧ (f'.ActsLike f ↔ q.Lasting) := by
  by_cases compiles : ∃ regex,
      Regex.compile q.conditions.matchCase (dropReturns q.source).toList = .ok regex
  · obtain ⟨regex, compiles⟩ := compiles
    obtain ⟨f', q', read, text, activity, kind, request', source, conditions⟩ :=
      h.reread?_of_compile request compiles
    refine ⟨f', read, text, fun acts => ?_, fun lasting => ?_⟩
    · refine .inl fun ends => dropReturns_ne_self ends ?_
      have same := acts.source
      rw [request, request', Option.map_some, Option.map_some, source] at same
      exact Option.some.inj same
    · have same : q'.source = q.source := by
        rcases lasting with keep | fault
        · rw [source, dropReturns_eq_self keep]
        · exact absurd compiles (fault regex)
      refine ⟨text, kind, activity, ?_, fun r => ?_, fun host => ?_⟩
      · rw [request, request', Option.map_some, Option.map_some, same]
      · rw [Rule.applies, Rule.applies, request, request']
        exact RequestRule.applies_dropReturns same conditions r
      · have domains : q'.conditions.domains = q.conditions.domains.map dropReturns := by
          rw [conditions]
        have restriction := RequestRule.restriction_dropReturns domains
        rw [isActiveOn_of_request request, isActiveOn_of_request request', restriction]
  · have fault := not_exists.mp compiles
    exact ⟨f.copy, h.reread?_of_fault request fault, rfl, fun _ => .inr fault,
      fun _ => copy_actsLike f⟩

theorem Listed.reread?_actsLike_iff : ∃ f', f.reread? policy = some f' ∧ f'.text = f.text ∧
    (f'.ActsLike f ↔ ∀ q, f.rule.request? = some q → q.Lasting) := by
  cases rule : f.rule with
  | invalid | comment =>
      refine ⟨f.copy, h.reread?_of_idle (by rw [rule]; rfl), rfl, ?_⟩
      simp [copy_actsLike, Rule.request?]
  | hide rule' =>
      obtain ⟨f', read, acts⟩ := h.reread?_of_hide rule
      refine ⟨f', read, acts.text, ?_⟩
      simp [acts, Rule.request?]
  | blocking q | exception q =>
      have request : f.rule.request? = some q := by rw [rule]; rfl
      obtain ⟨f', read, text, iff⟩ := h.reread?_of_request request
      refine ⟨f', read, text, ?_⟩
      simp [iff, Rule.request?]

end Reading

end Filter

end AdFilter
