import AdFilter.Proofs.Hiding.Groups

/-! # The selector of a tag with groups

Of the groups behind a tag at most one may be bare. It names an element, and then the selector is
one for the class and one for the id of that name, with the conditions of all other groups in both.
-/

namespace AdFilter.Hiding

open Text

/-- The selector of a tag and the text that the groups are looked for in. -/
def selectorOfText (tag text : List Char) : Except RuleError (List Char) :=
  selectorOf tag (Group.findAll text)

/-- The tag in a selector, where a star is left out. -/
def shownTag (tag : List Char) : List Char :=
  if tag = ['*'] then [] else tag

namespace Group

/-- A group without a value. -/
def isBare (g : Group) : Bool :=
  g.id?.isSome

variable {groups front back : List Group} {tag name : List Char}

theorem shownTag_eq_nil : shownTag tag = [] ↔ tag = ['*'] ∨ tag = [] := by
  unfold shownTag
  split
  · rename_i star
    simp [star]
  · rename_i other
    simp [other]

theorem length_ids (groups : List Group) :
    (groups.filterMap id?).length = groups.countP isBare :=
  List.length_filterMap_eq_countP

theorem ids_eq_nil : groups.filterMap id? = [] ↔ groups.countP isBare = 0 := by
  rw [← length_ids, List.length_eq_zero_iff]

theorem condition_ne_nil {g : Group} (valued : g.isBare = false) : g.condition ≠ [] := by
  match g with
  | .id _ => cases valued
  | .attribute _ _ _ => simp [condition]

theorem conditions_eq_nil (valued : groups.countP isBare = 0) :
    groups.flatMap condition = [] ↔ groups = [] := by
  rw [List.flatMap_eq_nil_iff]
  constructor
  · intro silent
    cases groups with
    | nil => rfl
    | cons g groups =>
        have notBare : g.isBare = false := by
          simpa using List.countP_eq_zero.mp valued g List.mem_cons_self
        exact absurd (silent g List.mem_cons_self) (condition_ne_nil notBare)
  · rintro rfl
    simp

theorem selectorOf_of_valued (valued : groups.countP isBare = 0) :
    selectorOf tag groups =
      if shownTag tag = [] ∧ groups = [] then .error .noCriteria
      else .ok (shownTag tag ++ groups.flatMap condition) := by
  unfold selectorOf
  simp only [ids_eq_nil.mpr valued, List.isEmpty_iff, conditions_eq_nil valued]
  rfl

theorem selectorOf_of_one (only : groups.filterMap id? = [name]) :
    selectorOf tag groups =
      .ok (shownTag tag ++ '.' :: name ++ groups.flatMap condition ++
        ',' :: shownTag tag ++ '#' :: name ++ groups.flatMap condition) := by
  unfold selectorOf
  simp only [only]
  rfl

theorem selectorOf_of_more (more : 2 ≤ groups.countP isBare) :
    selectorOf tag groups = .error .duplicateId := by
  rw [← length_ids] at more
  unfold selectorOf
  match ids : groups.filterMap id? with
  | [] => simp [ids] at more
  | [_] => simp [ids] at more
  | _ :: _ :: _ => rfl

theorem selectorOf_cases (tag : List Char) (groups : List Group) :
    (2 ≤ groups.countP isBare ∧ selectorOf tag groups = .error .duplicateId) ∨
    (groups.countP isBare = 0 ∧ shownTag tag = [] ∧ groups = [] ∧
      selectorOf tag groups = .error .noCriteria) ∨
    (groups.countP isBare < 2 ∧ ¬ (shownTag tag = [] ∧ groups = []) ∧
      ∃ selector, selectorOf tag groups = .ok selector) := by
  rcases Nat.lt_or_ge (groups.countP isBare) 2 with few | more
  · match ids : groups.filterMap id? with
    | [] =>
        have valued := ids_eq_nil.mp ids
        rw [selectorOf_of_valued valued]
        by_cases nothing : shownTag tag = [] ∧ groups = []
        · exact .inr (.inl ⟨valued, nothing.1, nothing.2, if_pos nothing⟩)
        · exact .inr (.inr ⟨few, nothing, _, if_neg nothing⟩)
    | [name] =>
        refine .inr (.inr ⟨few, ?_, _, selectorOf_of_one ids⟩)
        rintro ⟨-, rfl⟩
        cases ids
    | _ :: _ :: _ =>
        have length := length_ids groups
        simp only [ids, List.length_cons] at length
        omega
  · exact .inl ⟨more, selectorOf_of_more more⟩

theorem ids_insert (valued : ∀ g ∈ front ++ back, g.isBare = false) :
    (front ++ .id name :: back).filterMap id? = [name] := by
  have none (groups : List Group) (valued : ∀ g ∈ groups, g.isBare = false) :
      groups.filterMap id? = [] := by
    rw [ids_eq_nil, List.countP_eq_zero]
    simpa using valued
  simp only [List.mem_append] at valued
  rw [List.filterMap_append, List.filterMap_cons, none front fun g member => valued g (.inl member),
    none back fun g member => valued g (.inr member)]
  rfl

/-- The place of the bare group makes no difference. -/
theorem selectorOf_insert (valued : ∀ g ∈ front ++ back, g.isBare = false) :
    selectorOf tag (front ++ .id name :: back) =
      .ok (shownTag tag ++ '.' :: name ++ (front ++ back).flatMap condition ++
        ',' :: shownTag tag ++ '#' :: name ++ (front ++ back).flatMap condition) := by
  have conditions : (front ++ .id name :: back).flatMap condition =
      (front ++ back).flatMap condition := by
    rw [List.flatMap_append, List.flatMap_append, List.flatMap_cons]
    rfl
  rw [selectorOf_of_one (ids_insert valued), conditions]

end Group

open Hiding.Group

/-- Groups of the grammar are found in their text as they are, and the text of them gives
    - the error of two ids exactly if two groups or more are bare;
    - the error of no criteria exactly if the tag says nothing and there is no group;
    - otherwise the tag with the conditions, and if one group is bare, that with its name as the
      class and that with its name as the id.
    It makes no difference where the bare group stands among the others. -/
theorem selector_of_groups (tag : List Char) (groups : List Group)
    (wellFormed : ∀ g ∈ groups, g.WellFormed) :
    findAll (groups.flatMap write) = groups ∧ readAll? (groups.flatMap write) = some groups ∧
    (selectorOfText tag (groups.flatMap write) = .error .duplicateId ↔
      2 ≤ groups.countP isBare) ∧
    (selectorOfText tag (groups.flatMap write) = .error .noCriteria ↔
      (tag = ['*'] ∨ tag = []) ∧ groups = []) ∧
    (groups.countP isBare = 0 → ¬ ((tag = ['*'] ∨ tag = []) ∧ groups = []) →
      selectorOfText tag (groups.flatMap write) =
        .ok (shownTag tag ++ groups.flatMap condition)) ∧
    ∀ front name back, groups = front ++ .id name :: back →
      (∀ g ∈ front ++ back, g.isBare = false) →
      ∀ front' back', front ++ back = front' ++ back' →
        selectorOfText tag ((front' ++ .id name :: back').flatMap write) =
          .ok (shownTag tag ++ '.' :: name ++ (front ++ back).flatMap condition ++
            ',' :: shownTag tag ++ '#' :: name ++ (front ++ back).flatMap condition) := by
  have found {groups : List Group} (wellFormed : ∀ g ∈ groups, g.WellFormed) :
      selectorOfText tag (groups.flatMap write) = selectorOf tag groups := by
    rw [selectorOfText, findAll_flatMap_write wellFormed]
  refine ⟨findAll_flatMap_write wellFormed, readAll?_flatMap_write wellFormed, ?_, ?_, ?_, ?_⟩
  · rw [found wellFormed]
    rcases selectorOf_cases tag groups with ⟨more, e⟩ | ⟨none, -, -, e⟩ | ⟨few, -, selector, e⟩
    · simp [e, more]
    · simp [e, none]
    · simp only [e, reduceCtorEq, false_iff]
      omega
  · rw [found wellFormed, ← shownTag_eq_nil]
    rcases selectorOf_cases tag groups with
      ⟨more, e⟩ | ⟨-, silent, none, e⟩ | ⟨-, some, selector, e⟩
    · simp only [e, Except.error.injEq, reduceCtorEq, false_iff, not_and]
      rintro - rfl
      cases more
    · rw [e]
      exact iff_of_true rfl ⟨silent, none⟩
    · simp only [e, reduceCtorEq, false_iff]
      exact some
  · intro valued something
    rw [← shownTag_eq_nil] at something
    rw [found wellFormed, selectorOf_of_valued valued, if_neg something]
  · rintro front name back rfl valued front' back' same
    have wellFormed' : ∀ g ∈ front' ++ .id name :: back', g.WellFormed := by
      intro g member
      refine wellFormed g ?_
      have moved : (front' ++ .id name :: back').Perm (front ++ .id name :: back) := by
        refine List.perm_middle.trans (.trans ?_ List.perm_middle.symm)
        rw [same]
      exact moved.subset member
    rw [found wellFormed', selectorOf_insert (same ▸ valued), same]

/-- A value may have equals signs, operators and commas in it, and the bare group stands last. -/
theorem selector_of_groups_mixed :
    ∃ groups : List Group, groups.flatMap write = "(title=a=b,$=)(ad)".toList ∧
      (∀ g ∈ groups, g.WellFormed) ∧
      selectorOfText ['*'] "(title=a=b,$=)(ad)".toList =
        .ok ".ad[title=\"a=b,$=\"],#ad[title=\"a=b,$=\"]".toList := by
  let valued : Group := .attribute "title".toList none "a=b,$=".toList
  have wellFormed : ∀ g ∈ [valued, .id "ad".toList], g.WellFormed := by
    have title : IsName "title".toList := ⟨by decide, List.all_eq_true.mp (by decide)⟩
    have ad : IsName "ad".toList := ⟨by decide, List.all_eq_true.mp (by decide)⟩
    have value := List.all_eq_true.mp (show "a=b,$=".toList.all isValueChar from by decide)
    exact List.forall_mem_cons.mpr
      ⟨.valued title nofun value, List.forall_mem_singleton.mpr (.bare ad)⟩
  obtain ⟨-, -, -, -, -, one⟩ := selector_of_groups ['*'] _ wellFormed
  have selector := one [valued] "ad".toList [] rfl (by decide) [valued] [] rfl
  exact ⟨_, by decide, wellFormed, selector⟩

end AdFilter.Hiding
