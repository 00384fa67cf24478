import AdFilter.Proofs.Hiding.OneLine
import Mathlib.Data.List.TakeWhile

/-! # Reading groups

Groups are read from what is written for them, whatever characters their values have, and from
nothing else. Looking for groups in a text finds the same ones as reading the whole text as groups.
-/

namespace AdFilter.Hiding

open Text

/-- The characters can be a name of a tag, an attribute or an element. -/
def IsName (cs : List Char) : Prop :=
  cs ≠ [] ∧ ∀ c ∈ cs, isNameChar c = true

namespace Group

/-- The parts of a group are made of the characters that are allowed in them. -/
inductive WellFormed : Group → Prop where
  | bare {name} : IsName name → WellFormed (.id name)
  | valued {name operator value} : IsName name → (∀ c ∈ operator, isOperator c = true) →
      (∀ c ∈ value, isValueChar c = true) → WellFormed (.attribute name operator value)

section Reading

variable {cs rest name value : List Char} {operator : Option Char} {g : Group}
variable {groups : List Group}

theorem not_isNameChar_of_isOperator {c : Char} (h : isOperator c = true) :
    isNameChar c = false := by
  simp only [isOperator, Bool.or_eq_true, beq_iff_eq] at h
  obtain (rfl | rfl) | rfl := h <;> decide

theorem isName_takeWhile (h : (cs.takeWhile isNameChar).isEmpty = false) :
    IsName (cs.takeWhile isNameChar) :=
  ⟨List.isEmpty_eq_false_iff.mp h, fun _ member => List.mem_takeWhile_imp member⟩

theorem wellFormed_of_readValue? (isName : IsName name) (op : ∀ c ∈ operator, isOperator c = true)
    (h : readValue? name operator cs = some (g, rest)) : g.WellFormed := by
  unfold readValue? at h
  split at h
  · cases h
    exact .valued isName op fun _ member => List.mem_takeWhile_imp member
  · cases h

theorem wellFormed_of_read? (h : read? cs = some (g, rest)) : g.WellFormed := by
  unfold read? at h
  split at h
  · cases h
  · rename_i nonempty
    have isName := isName_takeWhile (Bool.eq_false_iff.mpr nonempty)
    unfold readRest? at h
    split at h
    · cases h
    · split at h
      · cases h
        exact .bare isName
      · split at h
        · exact wellFormed_of_readValue? isName (by simp) h
        · split at h
          · rename_i operator
            exact wellFormed_of_readValue? isName (by simp [operator.1]) h
          · cases h

theorem wellFormed_of_readAll? (h : readAll? cs = some groups) :
    ∀ g ∈ groups, g.WellFormed := by
  fun_induction readAll? cs generalizing groups with
  | case1 =>
      cases h
      simp
  | case2 cs g rest read ih =>
      obtain ⟨groups', readRest, rfl⟩ := Option.map_eq_some_iff.mp h
      intro g' member
      rcases List.mem_cons.mp member with rfl | later
      · exact wellFormed_of_read? read
      · exact ih readRest g' later
  | case3 => cases h
  | case4 => cases h

theorem read?_name {c : Char} (isName : IsName name) (other : isNameChar c = false) :
    read? (name ++ c :: rest) = readRest? name (c :: rest) := by
  have taken : (name ++ c :: rest).takeWhile isNameChar = name := by
    simp [List.takeWhile_append_of_pos isName.2, other]
  have left : (name ++ c :: rest).dropWhile isNameChar = c :: rest := by
    simp [List.dropWhile_append_of_pos isName.2, other]
  unfold read?
  rw [taken, left, if_neg]
  simpa using isName.1

theorem readValue?_value (allowed : ∀ c ∈ value, isValueChar c = true) :
    readValue? name operator (value ++ ')' :: rest) =
      some (.attribute name operator value, rest) := by
  have taken : (value ++ ')' :: rest).takeWhile isValueChar = value := by
    simp [List.takeWhile_append_of_pos allowed, isValueChar]
  have left : (value ++ ')' :: rest).dropWhile isValueChar = ')' :: rest := by
    simp [List.dropWhile_append_of_pos allowed, isValueChar]
  unfold readValue?
  simp only [taken, left]

theorem read?_of_wellFormed (wellFormed : g.WellFormed) (rest : List Char) :
    ∃ cs, g.write ++ rest = '(' :: cs ∧ read? cs = some (g, rest) := by
  cases wellFormed with
  | @bare name isName =>
      refine ⟨name ++ ')' :: rest, by simp [write], ?_⟩
      rw [read?_name isName (by decide)]
      simp [readRest?]
  | @valued name operator value isName op allowed =>
      refine ⟨name ++ (operator.toList ++ '=' :: (value ++ ')' :: rest)), by simp [write], ?_⟩
      cases operator with
      | none =>
          rw [Option.toList_none, List.nil_append, read?_name isName (by decide)]
          simp [readRest?, readValue?_value allowed]
      | some c =>
          have isOperator : isOperator c = true := op c rfl
          have notClose : c ≠ ')' := by
            rintro rfl
            cases isOperator
          have notEquals : c ≠ '=' := by
            rintro rfl
            cases isOperator
          rw [Option.toList_some, List.singleton_append,
            read?_name isName (not_isNameChar_of_isOperator isOperator)]
          simp [readRest?, notClose, notEquals, isOperator, readValue?_value allowed]

theorem readAll?_group (read : read? cs = some (g, rest)) :
    readAll? ('(' :: cs) = (readAll? rest).map (g :: ·) := by
  rw [readAll?, if_pos rfl]
  split
  · rename_i g' rest' again
    rw [read] at again
    cases again
    rfl
  · rename_i again
    rw [read] at again
    cases again

theorem findAll_group (read : read? cs = some (g, rest)) :
    findAll ('(' :: cs) = g :: findAll rest := by
  rw [findAll, if_pos rfl]
  split
  · rename_i g' rest' again
    rw [read] at again
    cases again
    rfl
  · rename_i again
    rw [read] at again
    cases again

theorem readAll?_flatMap_write (wellFormed : ∀ g ∈ groups, g.WellFormed) :
    readAll? (groups.flatMap write) = some groups := by
  induction groups with
  | nil => simp [readAll?]
  | cons g groups ih =>
      obtain ⟨first, others⟩ := List.forall_mem_cons.mp wellFormed
      obtain ⟨cs, written, read⟩ := read?_of_wellFormed first (groups.flatMap write)
      simp [written, readAll?_group read, ih others]

/-- Looking for groups in what is written for groups finds them all, and no other. -/
theorem findAll_flatMap_write (wellFormed : ∀ g ∈ groups, g.WellFormed) :
    findAll (groups.flatMap write) = groups := by
  induction groups with
  | nil => simp [findAll]
  | cons g groups ih =>
      obtain ⟨first, others⟩ := List.forall_mem_cons.mp wellFormed
      obtain ⟨cs, written, read⟩ := read?_of_wellFormed first (groups.flatMap write)
      simp [written, findAll_group read, ih others]

end Reading

end Group

end AdFilter.Hiding
