import AdFilter.Text.Pieces

/-! # Pieces of a text

The pieces between separators hold no separator, and text that was joined from such pieces is cut
into them again.
-/

namespace AdFilter.Text

variable {sep : Char}

/-- If a search finds only places where a text can be cut, and finds one there or before, then it
    finds the first of them. -/
theorem eq_some_iff_first {α : Type} {found : Option (List Char × α)} {At : List Char → α → Prop}
    (sound : ∀ front back, found = some (front, back) → At front back)
    (complete : ∀ front back, At front back →
      ∃ front' back', found = some (front', back') ∧ front'.length ≤ front.length)
    (unique : ∀ front back front' back', At front back → At front' back' →
      front.length = front'.length → front = front' ∧ back = back') {front : List Char} {back : α} :
    found = some (front, back) ↔
      At front back ∧ ∀ front' back', At front' back' → front.length ≤ front'.length := by
  constructor
  · intro isFound
    refine ⟨sound front back isFound, fun front' back' h => ?_⟩
    obtain ⟨front'', back'', isFound', le⟩ := complete front' back' h
    rw [isFound] at isFound'
    cases isFound'
    exact le
  · rintro ⟨h, first⟩
    obtain ⟨front', back', isFound, le⟩ := complete front back h
    have before := sound front' back' isFound
    have same := Nat.le_antisymm (first front' back' before) le
    obtain ⟨rfl, rfl⟩ := unique front back front' back' h before same
    exact isFound

theorem pieces_of_not_mem {cs : List Char} (none : sep ∉ cs) : pieces sep cs = [cs] := by
  induction cs with
  | nil => rfl
  | cons c cs ih =>
      have other : c ≠ sep := fun same => none (same ▸ List.mem_cons_self)
      rw [pieces, if_neg other, ih fun member => none (List.mem_cons_of_mem c member)]

theorem head?_pieces (sep : Char) (cs : List Char) :
    (pieces sep cs).head? = some (cs.takeWhile (· != sep)) := by
  induction cs with
  | nil => rfl
  | cons c cs ih =>
      rw [pieces]
      split
      · rename_i isSep
        simp [isSep]
      · rename_i other
        cases cut : pieces sep cs with
        | nil => exact absurd cut (pieces_ne_nil sep cs)
        | cons first rest =>
            rw [cut, List.head?_cons, Option.some.injEq] at ih
            simp [other, ih]

theorem pieces_eq_cons (sep : Char) (cs : List Char) :
    pieces sep cs = cs.takeWhile (· != sep) ::
      (cs.dropWhile (· != sep)).tail?.elim [] (pieces sep) := by
  induction cs with
  | nil => rfl
  | cons c cs ih =>
      rw [pieces]
      by_cases isSep : c = sep
      · simp [isSep]
      · rw [if_neg isSep, ih]
        simp [isSep]

theorem getElem?_one_pieces (sep : Char) (cs : List Char) :
    (pieces sep cs)[1]? = (cs.dropWhile (· != sep)).tail?.map (·.takeWhile (· != sep)) := by
  rw [pieces_eq_cons, List.getElem?_cons_succ]
  cases (cs.dropWhile (· != sep)).tail? with
  | none => rfl
  | some rest => rw [Option.elim_some, ← List.head?_eq_getElem?, head?_pieces, Option.map_some]

theorem pieces_append_of_not_mem {back : List Char} (none : sep ∉ back) (front : List Char) :
    ∃ init last, pieces sep front = init ++ [last] ∧
      pieces sep (front ++ back) = init ++ [last ++ back] := by
  induction front with
  | nil => exact ⟨[], [], rfl, pieces_of_not_mem none⟩
  | cons c front ih =>
      obtain ⟨init, last, cut, cut'⟩ := ih
      rw [List.cons_append, pieces, pieces, cut, cut']
      by_cases isSep : c = sep
      · rw [if_pos isSep, if_pos isSep]
        exact ⟨[] :: init, last, rfl, rfl⟩
      · rw [if_neg isSep, if_neg isSep]
        cases init with
        | nil => exact ⟨[], c :: last, rfl, rfl⟩
        | cons first init => exact ⟨(c :: first) :: init, last, rfl, rfl⟩

theorem pieces_join {parts : List (List Char)} (some : parts ≠ []) :
    pieces sep (join sep parts) = parts.flatMap (pieces sep) := by
  match parts with
  | [] => exact absurd rfl some
  | [part] => simp [join]
  | part :: next :: rest =>
      rw [join, pieces_append, pieces_join (List.cons_ne_nil next rest)]
      exact List.flatMap_cons.symm

theorem join_cons (part : List Char) (parts : List (List Char)) :
    join sep (part :: parts) = part ++ parts.flatMap (sep :: ·) := by
  induction parts generalizing part with
  | nil => simp [join]
  | cons next rest ih => rw [join, ih, List.flatMap_cons, List.cons_append]

theorem join_append {front back : List (List Char)} (some : front ≠ []) (some' : back ≠ []) :
    join sep (front ++ back) = join sep front ++ sep :: join sep back := by
  match front, back with
  | part :: front, next :: back =>
      simp only [List.cons_append, join_cons, List.flatMap_append, List.flatMap_cons,
        List.append_assoc]

theorem join_concat (parts : List (List Char)) (last : List Char) :
    join sep (parts ++ [last]) = parts.flatMap (· ++ [sep]) ++ last := by
  induction parts with
  | nil => rfl
  | cons part parts ih =>
      cases parts with
      | nil => simp [join]
      | cons next rest =>
          rw [List.cons_append, List.cons_append, join, ← List.cons_append, ih]
          simp

theorem pieces_join_of_not_mem {parts : List (List Char)} (some : parts ≠ [])
    (none : ∀ part ∈ parts, sep ∉ part) : pieces sep (join sep parts) = parts := by
  have alone : parts.map (pieces sep) = parts.map ([·]) :=
    List.map_congr_left fun part member => pieces_of_not_mem (none part member)
  rw [pieces_join some, List.flatMap_def, alone, ← List.flatMap_def, List.flatMap_singleton']

theorem mem_of_mem_join {parts : List (List Char)} {c : Char} (member : c ∈ join sep parts) :
    c = sep ∨ ∃ part ∈ parts, c ∈ part := by
  match parts with
  | [] => cases member
  | [part] => exact .inr ⟨part, List.mem_singleton_self part, member⟩
  | part :: next :: rest =>
      rcases List.mem_append.mp member with inPart | later
      · exact .inr ⟨part, List.mem_cons_self, inPart⟩
      · rcases List.mem_cons.mp later with same | later
        · exact .inl same
        · rcases mem_of_mem_join later with same | ⟨part', member', inPart⟩
          · exact .inl same
          · exact .inr ⟨part', List.mem_cons_of_mem part member', inPart⟩

theorem mem_of_mem_pieces {cs piece : List Char} (isPiece : piece ∈ pieces sep cs) {c : Char}
    (member : c ∈ piece) : c ∈ cs ∧ c ≠ sep := by
  induction cs generalizing piece with
  | nil =>
      rw [pieces, List.mem_singleton] at isPiece
      subst isPiece
      cases member
  | cons d cs ih =>
      rw [pieces] at isPiece
      split at isPiece
      · rcases List.mem_cons.mp isPiece with rfl | isPiece
        · cases member
        · exact ⟨List.mem_cons_of_mem d (ih isPiece member).1, (ih isPiece member).2⟩
      · rename_i other
        split at isPiece
        · rename_i none
          exact absurd none (pieces_ne_nil sep cs)
        · rename_i first rest split
          rw [split] at ih
          rcases List.mem_cons.mp isPiece with rfl | isPiece
          · rcases List.mem_cons.mp member with rfl | member
            · exact ⟨List.mem_cons_self, other⟩
            · have inside := ih List.mem_cons_self member
              exact ⟨List.mem_cons_of_mem d inside.1, inside.2⟩
          · have inside := ih (List.mem_cons_of_mem first isPiece) member
            exact ⟨List.mem_cons_of_mem d inside.1, inside.2⟩

end AdFilter.Text
