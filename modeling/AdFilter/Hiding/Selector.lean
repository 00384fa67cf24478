import AdFilter.Rule.Error
import AdFilter.Text.Ascii

/-! # Selectors from tags and attributes

In the older form of hiding rules a tag is followed by groups in parentheses. A group with an
equals sign is an attribute with its value; a group without one is the id of the element, which
may also be its class.
-/

namespace AdFilter.Hiding

open Text

/-- A group in parentheses. -/
inductive Group where
  | id (name : List Char)
  /-- An attribute, the operator in front of the equals sign, and the value. -/
  | attribute (name : List Char) (operator : Option Char) (value : List Char)
  deriving Repr, DecidableEq

namespace Group

def write : Group → List Char
  | .id name => '(' :: name ++ [')']
  | .attribute name operator value => '(' :: name ++ operator.toList ++ '=' :: value ++ [')']

/-- Operators that may stand in front of an equals sign. -/
def isOperator (c : Char) : Bool :=
  c == '$' || c == '^' || c == '*'

def isValueChar (c : Char) : Bool :=
  c != '(' && c != ')' && c != '"'

def readValue? (name : List Char) (operator : Option Char) (cs : List Char) :
    Option (Group × List Char) :=
  match cs.dropWhile isValueChar with
  | ')' :: rest => some (.attribute name operator (cs.takeWhile isValueChar), rest)
  | _ => none

/-- Reads what follows the name in a group. -/
def readRest? (name : List Char) : List Char → Option (Group × List Char)
  | [] => none
  | c :: cs =>
    if c = ')' then some (.id name, cs)
    else if c = '=' then readValue? name none cs
    else if isOperator c ∧ cs.head? = some '=' then readValue? name (some c) (cs.drop 1)
    else none

def read? (cs : List Char) : Option (Group × List Char) :=
  if (cs.takeWhile isNameChar).isEmpty then none
  else readRest? (cs.takeWhile isNameChar) (cs.dropWhile isNameChar)

@[grind →]
theorem length_of_readValue? {name : List Char} {operator : Option Char} {cs rest : List Char}
    {g : Group} (h : readValue? name operator cs = some (g, rest)) :
    rest.length < cs.length := by
  have := (List.dropWhile_sublist isValueChar (l := cs)).length_le
  unfold readValue? at h
  grind

@[grind →]
theorem length_of_read? {cs rest : List Char} {g : Group} (h : read? cs = some (g, rest)) :
    rest.length < cs.length := by
  have := (List.dropWhile_sublist isNameChar (l := cs)).length_le
  unfold read? readRest? at h
  grind

/-- The groups that follow one another up to the end of the characters. -/
def readAll? : List Char → Option (List Group)
  | [] => some []
  | c :: cs =>
    if c = '(' then
      match _h : read? cs with
      | some (g, rest) => (readAll? rest).map (g :: ·)
      | none => none
    else none
termination_by cs => cs.length
decreasing_by
  have := length_of_read? _h
  simp only [List.length_cons]
  omega

/-- The groups in a text; what is none is passed over. -/
def findAll : List Char → List Group
  | [] => []
  | c :: cs =>
    if c = '(' then
      match _h : read? cs with
      | some (g, rest) => g :: findAll rest
      | none => findAll cs
    else findAll cs
termination_by cs => cs.length
decreasing_by
  · have := length_of_read? _h
    simp only [List.length_cons]
    omega
  all_goals simp

/-- The name of a group that is an id. -/
def id? : Group → Option (List Char)
  | .id name => some name
  | .attribute _ _ _ => none

/-- The condition that an attribute puts on an element. -/
def condition : Group → List Char
  | .id _ => []
  | .attribute name operator value =>
    '[' :: name ++ operator.toList ++ ['=', '"'] ++ value ++ ['"', ']']

end Group

/-- The selector of a tag and groups. An id gives two selectors, one for a class and one for an
id. -/
def selectorOf (tag : List Char) (groups : List Group) : Except RuleError (List Char) :=
  let tag := if tag = ['*'] then [] else tag
  let conditions := groups.flatMap Group.condition
  match groups.filterMap Group.id? with
  | [] => if tag.isEmpty ∧ conditions.isEmpty then .error .noCriteria else .ok (tag ++ conditions)
  | [id] => .ok (tag ++ '.' :: id ++ conditions ++ ',' :: tag ++ '#' :: id ++ conditions)
  | _ => .error .duplicateId

end AdFilter.Hiding
