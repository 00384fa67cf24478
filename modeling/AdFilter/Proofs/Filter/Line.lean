import AdFilter.Filter.Line

/-! # Filters made from lines

Whatever kind of line it is, its filter has the line as its text and the state of a new filter.
-/

namespace AdFilter

variable {policy : Policy} {line : String}

theorem Hiding.eq_of_filter? {f : Filter} (found : Hiding.filter? line = some f) :
    f = { text := line, rule := f.rule } := by
  obtain ⟨⟨domains, target⟩, -, rfl⟩ := Option.map_eq_some_iff.mp found
  cases made : Hiding.ruleOf domains target <;> simp only [made]

theorem Hiding.rule?_eq (line : String) :
    Hiding.rule? line = (Hiding.split? line.toList).map fun (domains, target) =>
      match Hiding.ruleOf domains target with
      | .ok rule => .hide rule
      | .error e => .invalid (.unbuildable e) := by
  rw [Hiding.rule?, Hiding.filter?, Option.map_map]
  congr 1
  funext ⟨domains, target⟩
  cases made : Hiding.ruleOf domains target <;> simp only [Function.comp_apply, made]

theorem Filter.ofRequestLine_eq (policy : Policy) (line : String) :
    Filter.ofRequestLine policy line = { text := line, rule := .ofRequestLine policy line } := by
  unfold Rule.ofRequestLine Filter.ofRequestLine
  simp only
  split
  · rfl
  · split
    · rfl
    · split <;> rfl

theorem Filter.ofLine_eq (policy : Policy) (line : String) :
    Filter.ofLine policy line = { text := line, rule := .ofLine policy line } := by
  unfold Rule.ofLine Filter.ofLine
  split
  · rename_i f found
    exact Hiding.eq_of_filter? found
  · split
    · rfl
    · exact Filter.ofRequestLine_eq policy line

namespace Rule

theorem ofRequestLine_of_cut {isException : Bool} {body pattern : List Char} {o : RuleOptions}
    (cut : cutException line.toList = (isException, body))
    (options : RuleOptions.cut body = (pattern, o)) :
    ofRequestLine policy line =
      if policy = .strict ∧ o.unknown ≠ [] then .invalid (.unknownOptions o.unknown)
      else
        match RequestRule.make (String.ofList (Pattern.source pattern))
            (conditionsOf isException pattern o) with
        | .error e => .invalid (.unbuildable e)
        | .ok rule => if isException then .exception rule else .blocking rule o.collapse := by
  unfold ofRequestLine Filter.ofRequestLine
  rw [cut]
  simp only [options]
  split
  · rfl
  · cases RequestRule.make (String.ofList (Pattern.source pattern))
        (conditionsOf isException pattern o) with
    | error e => rfl
    | ok rule => cases isException <;> rfl

theorem ofLine_eq (policy : Policy) (line : String) :
    ofLine policy line =
      match Hiding.rule? line with
      | some rule => rule
      | none => if line.toList.head? = some '!' then .comment else ofRequestLine policy line := by
  unfold ofLine Filter.ofLine Hiding.rule?
  cases Hiding.filter? line with
  | some f => rfl
  | none =>
      simp only [Option.map_none]
      split <;> rfl

end Rule

end AdFilter
