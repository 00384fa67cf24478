import AdFilter.Hiding.Line
import AdFilter.Rule.Line

/-! # From lines to filters

A line hides elements if it has the form for that; otherwise an exclamation mark makes it a
comment, and any other line is about requests.
-/

namespace AdFilter

namespace Filter

def ofRequestLine (policy : Policy) (line : String) : Filter :=
  let (isException, body) := Rule.cutException line.toList
  let (pattern, options) := RuleOptions.cut body
  if policy = .strict ∧ options.unknown ≠ [] then
    { text := line, rule := .invalid (.unknownOptions options.unknown) }
  else
    match RequestRule.make (String.ofList (Pattern.source pattern))
        (Rule.conditionsOf isException pattern options) with
    | .error e => { text := line, rule := .invalid (.unbuildable e) }
    | .ok rule =>
      if isException then { text := line, rule := .exception rule }
      else { text := line, rule := .blocking rule options.collapse }

def ofLine (policy : Policy) (line : String) : Filter :=
  match Hiding.filter? line with
  | some f => f
  | none =>
    if line.toList.head? = some '!' then { text := line, rule := .comment }
    else ofRequestLine policy line

end Filter

namespace Rule

def ofRequestLine (policy : Policy) (line : String) : Rule :=
  (Filter.ofRequestLine policy line).rule

def ofLine (policy : Policy) (line : String) : Rule :=
  (Filter.ofLine policy line).rule

end Rule

end AdFilter
