import AdFilter.Filter.Basic
import AdFilter.Hiding.Selector

/-! # Lines that hide elements

Such a line lists domains in front of a number sign. Behind a second number sign stands a
selector; otherwise a tag with groups follows. The first number sign that leads to one of the two
counts.
-/

namespace AdFilter.Hiding

open Text

/-- What stands behind the number sign. -/
inductive Target where
  | tagged (tag : List Char) (groups : List Group)
  | selector (text : List Char)
  deriving Repr, DecidableEq

def cutTag? : List Char → Option (List Char × List Char)
  | '*' :: rest => some (['*'], rest)
  | cs =>
    if (cs.takeWhile isNameChar).isEmpty then none
    else some (cs.takeWhile isNameChar, cs.dropWhile isNameChar)

def Target.read? : List Char → Option Target
  | '#' :: text =>
    if !text.isEmpty ∧ text.all (fun c => c != '\x7B' && c != '\x7D') then some (.selector text)
    else none
  | cs => (cutTag? cs).bind fun (tag, rest) => (Group.readAll? rest).map (.tagged tag)

/-- Characters that do not occur in the list of domains. -/
def endsDomains (c : Char) : Bool :=
  c == '/' || c == '*' || c == '|' || c == '@' || c == '"'

/-- The list of domains and what is hidden on them. -/
def split? : List Char → Option (List Char × Target)
  | [] => none
  | c :: cs =>
    match if c = '#' then Target.read? cs else none with
    | some target => some ([], target)
    | none =>
      if endsDomains c then none
      else (split? cs).map fun (domains, target) => (c :: domains, target)

def isHidingLine (line : String) : Bool :=
  (split? line.toList).isSome

/-- The list without empty items. -/
def normalDomains (list : List Char) : List Char :=
  join ',' ((pieces ',' list).filter (!·.isEmpty))

/-- The selector for what is hidden. -/
def Target.selectorText : Target → Except RuleError (List Char)
  | .selector text => .ok text
  | .tagged tag groups => selectorOf tag groups

def ruleOf (domains : List Char) (target : Target) : Except RuleError HidingRule :=
  target.selectorText >>= fun selector =>
    HidingRule.make (some (String.ofList (normalDomains domains))) (String.ofList selector)

/-- The filter of a line that hides elements; `none` if it is another kind of line. -/
def filter? (line : String) : Option Filter :=
  (split? line.toList).map fun (domains, target) =>
    match ruleOf domains target with
    | .ok rule => { text := line, rule := .hide rule }
    | .error e => { text := line, rule := .invalid (.unbuildable e) }

def rule? (line : String) : Option Rule :=
  (filter? line).map Filter.rule

end AdFilter.Hiding
