import AdFilter.HideSet
import AdFilter.Proofs.Css
import AdFilter.Proofs.Hiding.Grammar
import AdFilter.Proofs.Hiding.Selector

/-! # Values in selectors

The values of a line are put between quotes in its selector as they are. They have no quotes of
their own, so they stay between those, unless one ends in a backslash that is not escaped itself:
it escapes the quote that is meant to end the string.
-/

namespace AdFilter.Hiding

open Text

namespace Group

def value? : Group → Option (List Char)
  | .id _ => none
  | .attribute _ _ value => some value

def conditionParts : Group → List Css.Part
  | .id _ => []
  | .attribute name operator value =>
    [.plain ('[' :: name ++ operator.toList ++ ['=']), .quoted value, .plain [']']]

end Group

open Hiding.Group

def valuesOf (groups : List Group) : List (List Char) :=
  groups.filterMap value?

/-- The values in a selector: those of all groups, and once more if it is one for a class and one
    for an id. -/
def shownValues (groups : List Group) : List (List Char) :=
  if groups.countP isBare = 0 then valuesOf groups else valuesOf groups ++ valuesOf groups

def selectorParts (tag : List Char) (groups : List Group) : List Css.Part :=
  match groups.filterMap id? with
  | [] => .plain (shownTag tag) :: groups.flatMap conditionParts
  | name :: _ =>
    .plain (shownTag tag ++ '.' :: name) :: groups.flatMap conditionParts ++
      .plain (',' :: shownTag tag ++ '#' :: name) :: groups.flatMap conditionParts

/-- A selector keeps the values of groups in its strings. -/
structure KeepsStrings (tag : List Char) (groups : List Group) (selector : List Char) : Prop where
  /-- A brace or a comma that comes from a value stands in a string. -/
  marks : ∀ before front c back rest,
    selectorParts tag groups = before ++ .quoted (front ++ c :: back) :: rest →
      c ∈ ['\x7B', '\x7D', ','] →
        Css.Place.outside.after (Css.write before ++ '"' :: front) ≠ .outside
  /-- What follows the selector stands outside of strings. -/
  closed : Css.Place.outside.after selector = .outside
  /-- The contents of the strings are the values. -/
  contents : Css.strings selector = shownValues groups

section Parts

variable {tag selector : List Char} {groups : List Group}

theorem write_conditionParts (groups : List Group) :
    Css.write (groups.flatMap conditionParts) = groups.flatMap condition := by
  induction groups with
  | nil => rfl
  | cons g groups ih =>
      rw [List.flatMap_cons, List.flatMap_cons, Css.write_append, ih]
      match g with
      | .id _ => rfl
      | .attribute _ _ _ => simp [conditionParts, condition, Css.write, Css.Part.write]

theorem values_conditionParts (groups : List Group) :
    Css.values (groups.flatMap conditionParts) = valuesOf groups := by
  induction groups with
  | nil => rfl
  | cons g groups ih =>
      rw [List.flatMap_cons, Css.values_append, ih]
      match g with
      | .id _ => rfl
      | .attribute _ _ _ => rfl

theorem write_selectorParts (made : selectorOf tag groups = .ok selector) :
    Css.write (selectorParts tag groups) = selector := by
  match ids : groups.filterMap id? with
  | [] =>
      rw [selectorOf_of_valued (ids_eq_nil.mp ids)] at made
      split at made
      · cases made
      · cases made
        rw [selectorParts, ids, Css.write_plain, write_conditionParts]
  | [name] =>
      rw [selectorOf_of_one ids] at made
      cases made
      simp [selectorParts, ids, write_conditionParts]
  | _ :: _ :: _ =>
      have more : 2 ≤ groups.countP isBare := by
        rw [← length_ids, ids]
        simp
      rw [selectorOf_of_more more] at made
      cases made

theorem values_selectorParts (tag : List Char) (groups : List Group) :
    Css.values (selectorParts tag groups) = shownValues groups := by
  match ids : groups.filterMap id? with
  | [] =>
      rw [selectorParts, ids, Css.values_plain, values_conditionParts, shownValues,
        if_pos (ids_eq_nil.mp ids)]
  | name :: rest =>
      have named : groups.countP isBare ≠ 0 := by
        rw [← length_ids, ids]
        simp
      simp [selectorParts, ids, values_conditionParts, shownValues, named]

theorem mem_shownValues {value : List Char} :
    value ∈ shownValues groups ↔ value ∈ valuesOf groups := by
  unfold shownValues
  split <;> simp

theorem mem_values_selectorParts {value : List Char} :
    value ∈ Css.values (selectorParts tag groups) ↔ value ∈ valuesOf groups := by
  rw [values_selectorParts, mem_shownValues]

/-- Characters that a selector has outside of strings. -/
def isFrameChar (c : Char) : Bool :=
  isNameChar c || isOperator c || ['[', '=', ']', '.', ',', '#'].contains c

theorem mem_name {name : List Char} (isName : IsName name) {c : Char} (member : c ∈ name) :
    isFrameChar c = true := by
  simp [isFrameChar, isName.2 c member]

theorem frame_shownTag (isTag : tag = ['*'] ∨ IsName tag) :
    ∀ c ∈ shownTag tag, isFrameChar c = true := by
  intro c member
  unfold shownTag at member
  split at member
  · cases member
  · rename_i other
    exact mem_name (isTag.resolve_left other) member

theorem frame_conditionParts (wellFormed : ∀ g ∈ groups, g.WellFormed) :
    ∀ part ∈ groups.flatMap conditionParts, ∀ c ∈ part.text, isFrameChar c = true := by
  intro part member c inText
  obtain ⟨g, inGroups, member⟩ := List.mem_flatMap.mp member
  cases wellFormed g inGroups with
  | bare => cases member
  | @valued name operator value isName isOp _ =>
      have name := @mem_name name isName c
      have operator : c ∈ operator → isFrameChar c = true := fun op => by
        simp [isFrameChar, isOp c op]
      simp only [conditionParts, List.mem_cons, List.not_mem_nil, or_false] at member
      rcases member with rfl | rfl | rfl
      · simp only [Css.Part.text, List.cons_append, List.append_assoc, List.mem_cons,
          List.mem_append, Option.mem_toList, List.not_mem_nil, or_false] at inText
        rcases inText with rfl | inName | inOperator | rfl
        · decide
        · exact name inName
        · exact operator inOperator
        · decide
      · cases inText
      · obtain rfl := List.mem_singleton.mp inText
        decide

theorem frame_selectorParts (isTag : tag = ['*'] ∨ IsName tag)
    (wellFormed : ∀ g ∈ groups, g.WellFormed) :
    ∀ part ∈ selectorParts tag groups, ∀ c ∈ part.text, isFrameChar c = true := by
  have conditions := frame_conditionParts wellFormed
  have shown := frame_shownTag isTag
  unfold selectorParts
  match ids : groups.filterMap id? with
  | [] => exact List.forall_mem_cons.mpr ⟨shown, conditions⟩
  | name :: rest =>
      have isName : IsName name := by
        obtain ⟨g, member, isId⟩ := List.mem_filterMap.mp (ids ▸ List.mem_cons_self)
        cases wellFormed g member with
        | bare isName =>
            cases isId
            exact isName
        | valued => cases isId
      have named : ∀ c ∈ name, isFrameChar c = true := fun c member => mem_name isName member
      have dot : isFrameChar '.' = true := by decide
      have comma : isFrameChar ',' = true := by decide
      have sign : isFrameChar '#' = true := by decide
      simp only [List.cons_append, List.forall_mem_cons, List.forall_mem_append, Css.Part.text]
      exact ⟨⟨shown, dot, named⟩, conditions, ⟨comma, shown, sign, named⟩, conditions⟩

theorem no_quote_values (wellFormed : ∀ g ∈ groups, g.WellFormed) :
    ∀ value ∈ valuesOf groups, '"' ∉ value := by
  intro value member quote
  obtain ⟨g, inGroups, isValue⟩ := List.mem_filterMap.mp member
  cases wellFormed g inGroups with
  | bare => cases isValue
  | valued _ _ allowed =>
      cases isValue
      cases allowed '"' quote

theorem unquoted_selectorParts (isTag : tag = ['*'] ∨ IsName tag)
    (wellFormed : ∀ g ∈ groups, g.WellFormed) : Css.Unquoted (selectorParts tag groups) := by
  apply Css.unquoted_of_forall
  · intro part member quote
    cases frame_selectorParts isTag wellFormed part member '"' quote
  · intro value member
    exact no_quote_values wellFormed value (mem_values_selectorParts.mp member)

end Parts

section Keeping

variable {tag selector : List Char} {groups : List Group}

/-- The values stay in their strings exactly if none of them escapes a quote. -/
theorem keepsStrings_iff (isTag : tag = ['*'] ∨ IsName tag)
    (wellFormed : ∀ g ∈ groups, g.WellFormed) (made : selectorOf tag groups = .ok selector) :
    KeepsStrings tag groups selector ↔ ∀ value ∈ valuesOf groups, ¬ Css.EndsEscaping value := by
  have unquoted := unquoted_selectorParts isTag wellFormed
  have written := write_selectorParts made
  constructor
  · intro keeps value member
    refine Css.solid_of_strings unquoted ?_ value (mem_values_selectorParts.mpr member)
    rw [written, keeps.contents]
    intro content member
    exact no_quote_values wellFormed content (mem_shownValues.mp member)
  · intro solid
    have solid : ∀ value ∈ Css.values (selectorParts tag groups), ¬ Css.EndsEscaping value :=
      fun value member => solid value (mem_values_selectorParts.mp member)
    refine ⟨fun before front c back rest split _ => ?_, ?_, ?_⟩
    · rw [split] at unquoted solid
      exact Css.after_write_value unquoted solid
    · rw [← written]
      exact Css.after_write unquoted solid
    · rw [← written, ← values_selectorParts tag]
      exact Css.strings_write unquoted solid

theorem meanings_eq_iff (isTag : tag = ['*'] ∨ IsName tag)
    (wellFormed : ∀ g ∈ groups, g.WellFormed) (made : selectorOf tag groups = .ok selector) :
    (Css.strings selector).map Css.meaning = shownValues groups ↔
      ∀ value ∈ valuesOf groups, '\\' ∉ value := by
  have unquoted := unquoted_selectorParts isTag wellFormed
  have written := write_selectorParts made
  have contents (solid : ∀ value ∈ valuesOf groups, ¬ Css.EndsEscaping value) :=
    ((keepsStrings_iff isTag wellFormed made).mpr solid).contents
  constructor
  · intro same
    have solid : ∀ value ∈ valuesOf groups, ¬ Css.EndsEscaping value := by
      intro value member
      refine Css.solid_of_strings unquoted ?_ value (mem_values_selectorParts.mpr member)
      rw [written]
      intro content inStrings quote
      have shown : Css.meaning content ∈ shownValues groups :=
        same ▸ List.mem_map_of_mem inStrings
      exact no_quote_values wellFormed _ (mem_shownValues.mp shown)
        (Css.mem_meaning (by decide) quote)
    rw [contents solid] at same
    intro value member
    have fixed : ∀ value ∈ shownValues groups, Css.meaning value = value := by
      simpa using List.map_inj_left.mp (same.trans (List.map_id _).symm)
    exact Css.meaning_eq_self_iff.mp (fixed value (mem_shownValues.mpr member))
  · intro plain
    have solid : ∀ value ∈ valuesOf groups, ¬ Css.EndsEscaping value :=
      fun value member => Css.solid_of_plain (plain value member)
    rw [contents solid]
    refine (List.map_congr_left fun value member => ?_).trans (List.map_id _)
    exact Css.meaning_eq_self_iff.mpr (plain value (mem_shownValues.mp member))

/-- If no value escapes a quote, the braces behind the selector are the only ones that are read
    outside of strings. -/
theorem plain_declaration (isTag : tag = ['*'] ∨ IsName tag)
    (wellFormed : ∀ g ∈ groups, g.WellFormed) (made : selectorOf tag groups = .ok selector)
    (solid : ∀ value ∈ valuesOf groups, ¬ Css.EndsEscaping value) :
    ∃ own, '\x7B' ∉ own ∧ '\x7D' ∉ own ∧
      Css.plain (selector ++ HideSet.declaration.toList) =
        own ++ HideSet.declaration.toList := by
  have frame : ∀ c ∈ (selectorParts tag groups).flatMap Css.Part.text, isFrameChar c = true := by
    intro c member
    obtain ⟨part, inParts, inText⟩ := List.mem_flatMap.mp member
    exact frame_selectorParts isTag wellFormed part inParts c inText
  have shown : ∀ value ∈ Css.values (selectorParts tag groups), ¬ Css.EndsEscaping value :=
    fun value member => solid value (mem_values_selectorParts.mp member)
  have read := Css.plain_write_append (unquoted_selectorParts isTag wellFormed) shown
    HideSet.declaration.toList
  rw [write_selectorParts made] at read
  refine ⟨_, ?_, ?_, read⟩
  · intro brace
    cases frame _ brace
  · intro brace
    cases frame _ brace

end Keeping

/-- The selector that a line with a tag and groups gives keeps the values in its strings exactly if
    none of them ends in a backslash that is not escaped itself. Then a declaration behind the
    selector is read as it is written, and nothing before it opens another one. The strings stand
    for the values as they are written on the line exactly if there is no backslash in them. -/
theorem values_stay_in_strings_iff {line : String} {domains tag : List Char} {groups : List Group}
    {r : HidingRule} (found : split? line.toList = some (domains, .tagged tag groups))
    (isRule : rule? line = some (.hide r)) :
    Css.write (selectorParts tag groups) = r.selector.toList ∧
    (KeepsStrings tag groups r.selector.toList ↔
      ∀ value ∈ valuesOf groups, ¬ Css.EndsEscaping value) ∧
    ((∀ value ∈ valuesOf groups, ¬ Css.EndsEscaping value) →
      ∃ own, '\x7B' ∉ own ∧ '\x7D' ∉ own ∧
        Css.plain (r.selector.toList ++ HideSet.declaration.toList) =
          own ++ HideSet.declaration.toList) ∧
    ((Css.strings r.selector.toList).map Css.meaning = shownValues groups ↔
      ∀ value ∈ valuesOf groups, '\\' ∉ value) := by
  have made : selectorOf tag groups = .ok r.selector.toList := by
    rcases rule?_cases found with ⟨e, invalid, -⟩ | ⟨r', isRule', -, made⟩
    · cases isRule.symm.trans invalid
    · cases isRule.symm.trans isRule'
      exact made
  cases (splitsAt_of_split? found).target with
  | tagged isTag wellFormed =>
      exact ⟨write_selectorParts made, keepsStrings_iff isTag wellFormed made,
        plain_declaration isTag wellFormed made, meanings_eq_iff isTag wellFormed made⟩

/-- A value with braces and commas in front of an id. -/
theorem values_stay_in_strings_iff_braces :
    ∃ r, split? "#a(b=\x7B,\x7D)(c)".toList =
        some ([], .tagged ['a'] [.attribute ['b'] none "\x7B,\x7D".toList, .id ['c']]) ∧
      rule? "#a(b=\x7B,\x7D)(c)" = some (.hide r) ∧
      r.selector = "a.c[b=\"\x7B,\x7D\"],a#c[b=\"\x7B,\x7D\"]" ∧
      KeepsStrings ['a'] [.attribute ['b'] none "\x7B,\x7D".toList, .id ['c']] r.selector.toList := by
  have found : split? "#a(b=\x7B,\x7D)(c)".toList =
      some ([], .tagged ['a'] [.attribute ['b'] none "\x7B,\x7D".toList, .id ['c']]) := by
    decide +kernel
  obtain ⟨r, isRule, selector⟩ := rule?_of_solid found rfl (by decide +kernel)
  have written : r.selector = "a.c[b=\"\x7B,\x7D\"],a#c[b=\"\x7B,\x7D\"]" := by
    rw [selector]
    decide +kernel
  exact ⟨r, found, isRule, written, (values_stay_in_strings_iff found isRule).2.1.mpr (by decide)⟩

/-- A backslash at the end of a value escapes the quote behind it. The string goes on up to the
    value of the next attribute, whose braces then stand outside of strings, and the selector ends
    in a string that has no end. -/
theorem not_keepsStrings_backslash :
    ∃ r groups, split? "#a(b=\\)(c=\x7B\x7D)".toList = some ([], .tagged ['a'] groups) ∧
      valuesOf groups = [['\\'], ['\x7B', '\x7D']] ∧
      rule? "#a(b=\\)(c=\x7B\x7D)" = some (.hide r) ∧
      r.selector = "a[b=\"\\\"][c=\"\x7B\x7D\"]" ∧
      Css.strings r.selector.toList = ["\\\"][c=".toList, [']']] ∧
      Css.plain r.selector.toList = "a[b=\x7B\x7D".toList ∧
      ¬ KeepsStrings ['a'] groups r.selector.toList := by
  have found : split? "#a(b=\\)(c=\x7B\x7D)".toList =
      some ([], .tagged ['a'] [.attribute ['b'] none ['\\'],
        .attribute ['c'] none ['\x7B', '\x7D']]) := by
    decide +kernel
  obtain ⟨r, isRule, selector⟩ := rule?_of_solid found rfl (by decide +kernel)
  have written : r.selector = "a[b=\"\\\"][c=\"\x7B\x7D\"]" := by
    rw [selector]
    decide +kernel
  refine ⟨r, _, found, rfl, isRule, written, ?_, ?_, fun keeps => ?_⟩
  · rw [written]
    decide +kernel
  · rw [written]
    decide +kernel
  · have closed := keeps.closed
    rw [written] at closed
    revert closed
    decide +kernel

end AdFilter.Hiding
