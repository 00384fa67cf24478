import AdFilter.Proofs.Filter.Line
import AdFilter.Proofs.Rule.Building
import AdFilter.Proofs.Text.Pieces

/-! # Hiding rules of one line

A line that hides elements is its domains, a number sign and what is hidden, so no text that is
taken from it has a line feed in it.
-/

namespace AdFilter

open Text

namespace Hiding

namespace Group

variable {cs rest : List Char} {g : Group}

theorem readValue?_eq_some {name : List Char} {operator : Option Char}
    (h : readValue? name operator cs = some (g, rest)) :
    '(' :: (name ++ operator.toList ++ '=' :: cs) = g.write ++ rest := by
  unfold readValue? at h
  split at h
  · rename_i closed
    cases h
    have whole := List.takeWhile_append_dropWhile (p := isValueChar) (l := cs)
    rw [closed] at whole
    simp only [write, List.append_assoc, List.cons_append, List.nil_append]
    rw [whole]
  · cases h

theorem readRest?_eq_some {name : List Char} (h : readRest? name cs = some (g, rest)) :
    '(' :: (name ++ cs) = g.write ++ rest := by
  cases cs with
  | nil => cases h
  | cons c cs =>
      rw [readRest?] at h
      split at h
      · rename_i close
        cases h
        simp [write, close]
      · split at h
        · rename_i equals
          have value := readValue?_eq_some h
          simpa [equals] using value
        · split at h
          · rename_i operator
            obtain ⟨cs', rfl⟩ := List.head?_eq_some_iff.mp operator.2
            have value := readValue?_eq_some h
            simpa using value
          · cases h

theorem read?_eq_some (h : read? cs = some (g, rest)) : '(' :: cs = g.write ++ rest := by
  unfold read? at h
  split at h
  · cases h
  · have whole := List.takeWhile_append_dropWhile (p := isNameChar) (l := cs)
    have rest := readRest?_eq_some h
    rw [whole] at rest
    exact rest

theorem readAll?_eq_some {groups : List Group} (h : readAll? cs = some groups) :
    cs = groups.flatMap write := by
  fun_induction readAll? cs generalizing groups with
  | case1 =>
      cases h
      rfl
  | case2 cs g rest read ih =>
      obtain ⟨groups', readRest, rfl⟩ := Option.map_eq_some_iff.mp h
      rw [List.flatMap_cons, ← ih readRest]
      exact read?_eq_some read
  | case3 => cases h
  | case4 => cases h

theorem mem_of_mem_condition {c : Char} (member : c ∈ g.condition) :
    c ∈ g.write ∨ c ∈ ['[', '"', ']'] := by
  match g with
  | .id name => cases member
  | .attribute name operator value =>
      simp only [condition, write, List.cons_append, List.append_assoc, List.mem_cons,
        List.mem_append, List.not_mem_nil, or_false] at member ⊢
      grind

end Group

theorem cutTag?_eq_some {cs tag rest : List Char} (h : cutTag? cs = some (tag, rest)) :
    cs = tag ++ rest := by
  unfold cutTag? at h
  split at h
  · cases h
    rfl
  · split at h
    · cases h
    · cases h
      exact List.takeWhile_append_dropWhile.symm

namespace Target

def write : Target → List Char
  | .selector text => '#' :: text
  | .tagged tag groups => tag ++ groups.flatMap Group.write

theorem read?_eq_some {cs : List Char} {t : Target} (h : read? cs = some t) : cs = t.write := by
  unfold read? at h
  split at h
  · split at h
    · cases h
      rfl
    · cases h
  · obtain ⟨⟨tag, rest⟩, cut, h⟩ := Option.bind_eq_some_iff.mp h
    obtain ⟨groups, read, rfl⟩ := Option.map_eq_some_iff.mp h
    rw [cutTag?_eq_some cut, Group.readAll?_eq_some read]
    rfl

/-- The characters that a selector made from a tag can have beside those on the line. -/
def selectorMarks : List Char :=
  ['[', '"', ']', '.', ',', '#']

theorem mem_of_mem_conditions {groups : List Group} {c : Char}
    (member : c ∈ groups.flatMap Group.condition) :
    c ∈ groups.flatMap Group.write ∨ c ∈ selectorMarks := by
  obtain ⟨g, inGroups, inCondition⟩ := List.mem_flatMap.mp member
  rcases Group.mem_of_mem_condition inCondition with written | mark
  · exact .inl (List.mem_flatMap.mpr ⟨g, inGroups, written⟩)
  · refine .inr ?_
    simp only [List.mem_cons, List.not_mem_nil, or_false] at mark
    simp only [selectorMarks, List.mem_cons]
    grind

theorem mem_of_mem_id {groups : List Group} {id : List Char}
    (only : groups.filterMap Group.id? = [id]) {c : Char} (member : c ∈ id) :
    c ∈ groups.flatMap Group.write := by
  obtain ⟨g, inGroups, isId⟩ := List.mem_filterMap.mp (only ▸ List.mem_singleton_self id)
  refine List.mem_flatMap.mpr ⟨g, inGroups, ?_⟩
  match g with
  | .id name =>
      cases isId
      simp [Group.write, member]
  | .attribute _ _ _ => cases isId

theorem mem_of_mem_selectorOf {tag selector : List Char} {groups : List Group}
    (made : selectorOf tag groups = .ok selector) {c : Char} (member : c ∈ selector) :
    c ∈ tag ++ groups.flatMap Group.write ∨ c ∈ selectorMarks := by
  have fromTag : c ∈ (if tag = ['*'] then [] else tag) → c ∈ tag := by
    intro member
    split at member
    · cases member
    · exact member
  have conditions := @mem_of_mem_conditions groups c
  unfold selectorOf at made
  simp only at made
  generalize (if tag = ['*'] then [] else tag) = shown at made fromTag
  rw [List.mem_append]
  split at made
  · split at made
    · cases made
    · cases made
      rcases List.mem_append.mp member with inTag | inConditions
      · exact .inl (.inl (fromTag inTag))
      · rcases conditions inConditions with written | mark
        · exact .inl (.inr written)
        · exact .inr mark
  · rename_i id only
    cases made
    have fromId := @mem_of_mem_id groups id only c
    simp only [List.cons_append, List.append_assoc, List.mem_cons, List.mem_append] at member
    simp only [selectorMarks, List.mem_cons] at conditions ⊢
    grind
  · cases made

theorem no_feed_selectorText {t : Target} {selector : List Char}
    (made : t.selectorText = .ok selector) (oneLine : '\n' ∉ t.write) : '\n' ∉ selector := by
  intro feed
  cases t with
  | selector text =>
      cases made
      exact oneLine (List.mem_cons_of_mem '#' feed)
  | tagged tag groups =>
      rcases mem_of_mem_selectorOf made feed with written | mark
      · exact oneLine written
      · revert mark
        decide

end Target

theorem split?_eq_some {line domains : List Char} {t : Target}
    (h : split? line = some (domains, t)) : line = domains ++ '#' :: t.write := by
  induction line generalizing domains with
  | nil => cases h
  | cons c line ih =>
      rw [split?] at h
      split at h
      · rename_i found
        cases h
        split at found
        · rename_i sign
          rw [sign, Target.read?_eq_some found]
          rfl
        · cases found
      · split at h
        · cases h
        · obtain ⟨⟨domains', t'⟩, found, same⟩ := Option.map_eq_some_iff.mp h
          cases same
          rw [ih found]
          rfl

theorem no_feed_normalDomains {list : List Char} (oneLine : '\n' ∉ list) :
    '\n' ∉ normalDomains list := by
  intro feed
  rcases mem_of_mem_join feed with same | ⟨item, member, inItem⟩
  · cases same
  · exact oneLine (mem_of_mem_pieces (List.mem_filter.mp member).1 inItem).1

end Hiding

/-- What a hiding rule keeps as text has no line feed in it. -/
structure HidingRule.OneLine (h : HidingRule) : Prop where
  domain : ∀ list ∈ h.domain, '\n' ∉ list.toList
  selector : '\n' ∉ h.selector.toList

theorem Hiding.oneLine_rule? {line : String} (oneLine : '\n' ∉ line.toList) {h : HidingRule}
    (isRule : Hiding.rule? line = some (.hide h)) : h.OneLine := by
  rw [Hiding.rule?_eq] at isRule
  obtain ⟨⟨domains, t⟩, found, built⟩ := Option.map_eq_some_iff.mp isRule
  have whole := split?_eq_some found
  have noFeed : '\n' ∉ domains ∧ '\n' ∉ t.write := by
    rw [whole] at oneLine
    exact ⟨fun feed => oneLine (List.mem_append_left _ feed),
      fun feed => oneLine (List.mem_append_right _ (List.mem_cons_of_mem _ feed))⟩
  simp only at built
  split at built
  · rename_i rule made
    cases built
    rw [ruleOf] at made
    cases text : t.selectorText with
    | error e =>
        rw [text] at made
        cases made
    | ok selector =>
        rw [text] at made
        obtain ⟨sameSelector, sameDomain⟩ := HidingRule.eq_of_make made
        refine ⟨fun list member => ?_, ?_⟩
        · rw [sameDomain] at member
          cases Option.eq_some_of_filter_eq_some member
          rw [String.toList_ofList]
          exact no_feed_normalDomains noFeed.1
        · rw [sameSelector, String.toList_ofList]
          exact Target.no_feed_selectorText text noFeed.2
  · cases built

end AdFilter
