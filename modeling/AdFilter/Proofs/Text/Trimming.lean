import AdFilter.Text.Blank
import Mathlib.Data.List.TakeWhile

/-! # Trimming

What is cut off at the ends of a text, and what is left as it is.
-/

namespace AdFilter.Text

section DropEndWhile

variable {p : Char → Bool} {cs : List Char}

theorem dropEndWhile_eq_self (keep : ∀ c, cs.getLast? = some c → p c = false) :
    dropEndWhile p cs = cs := by
  have front : cs.reverse.dropWhile p = cs.reverse := by
    cases h : cs.reverse with
    | nil => rfl
    | cons c rest =>
        have last : cs.getLast? = some c := by rw [List.getLast?_eq_head?_reverse, h, List.head?_cons]
        rw [List.dropWhile_cons, keep c last, if_neg Bool.false_ne_true]
  rw [dropEndWhile, front, List.reverse_reverse]

theorem dropEndWhile_append_cons {c : Char} (keep : p c = false) (front back : List Char) :
    dropEndWhile p (front ++ c :: back) = front ++ c :: dropEndWhile p back := by
  have split : (front ++ c :: back).reverse.dropWhile p =
      back.reverse.dropWhile p ++ c :: front.reverse := by
    rw [List.reverse_append, List.reverse_cons, List.append_assoc, List.singleton_append,
      List.dropWhile_append]
    split
    · rename_i nothing
      rw [List.isEmpty_iff.mp nothing, List.dropWhile_cons, keep, if_neg Bool.false_ne_true]
      rfl
    · rfl
  rw [dropEndWhile, split, List.reverse_append, List.reverse_cons, List.reverse_reverse,
    List.append_assoc, List.singleton_append]
  rfl

theorem dropEndWhile_append_of_ne_nil {back : List Char} (some : dropEndWhile p back ≠ [])
    (front : List Char) : dropEndWhile p (front ++ back) = front ++ dropEndWhile p back := by
  have kept : (back.reverse.dropWhile p).isEmpty = false := by
    rw [dropEndWhile, Ne, List.reverse_eq_nil_iff] at some
    rw [List.isEmpty_eq_false_iff]
    exact some
  rw [dropEndWhile, List.reverse_append, List.dropWhile_append, kept, if_neg Bool.false_ne_true,
    List.reverse_append, List.reverse_reverse]
  rfl

theorem dropEndWhile_append_of_all {back : List Char} (all : ∀ c ∈ back, p c = true)
    (front : List Char) : dropEndWhile p (front ++ back) = dropEndWhile p front := by
  have dropped : (front ++ back).reverse.dropWhile p = front.reverse.dropWhile p := by
    rw [List.reverse_append]
    exact List.dropWhile_append_of_pos fun c member => all c (List.mem_reverse.mp member)
  rw [dropEndWhile, dropped]
  rfl

theorem dropEndWhile_append_dropped (p : Char → Bool) (cs : List Char) :
    ∃ dropped, cs = dropEndWhile p cs ++ dropped ∧ ∀ c ∈ dropped, p c = true := by
  refine ⟨(cs.reverse.takeWhile p).reverse, ?_, ?_⟩
  · rw [dropEndWhile, ← List.reverse_append, List.takeWhile_append_dropWhile, List.reverse_reverse]
  · intro c member
    exact List.mem_takeWhile_imp (List.mem_reverse.mp member)

theorem mem_of_mem_dropEndWhile {c : Char} (member : c ∈ dropEndWhile p cs) : c ∈ cs := by
  obtain ⟨dropped, split, -⟩ := dropEndWhile_append_dropped p cs
  rw [split]
  exact List.mem_append_left _ member

theorem getLast?_dropEndWhile {c : Char} (last : (dropEndWhile p cs).getLast? = some c) :
    p c = false := by
  rw [dropEndWhile, List.getLast?_reverse] at last
  have kept := List.head?_dropWhile_not p cs.reverse
  rw [last] at kept
  simpa using kept

end DropEndWhile

section Trimming

variable {cs : List Char}

theorem trimList_eq_self (solid : ∀ c ∈ cs, isBlank c = false) : trimList cs = cs := by
  have front : cs.dropWhile isBlank = cs := by
    cases cs with
    | nil => rfl
    | cons c rest =>
        rw [List.dropWhile_cons, solid c List.mem_cons_self, if_neg Bool.false_ne_true]
  rw [trimList, front]
  exact dropEndWhile_eq_self fun c last => solid c (List.mem_of_getLast? last)

theorem mem_of_mem_trimList {c : Char} (member : c ∈ trimList cs) : c ∈ cs :=
  (List.dropWhile_sublist isBlank).subset (mem_of_mem_dropEndWhile member)

theorem mem_trimList_of_solid {c : Char} (member : c ∈ cs) (solid : isBlank c = false) :
    c ∈ trimList cs := by
  have inDropped : c ∈ cs.dropWhile isBlank := by
    have whole : c ∈ cs.takeWhile isBlank ++ cs.dropWhile isBlank := by
      rw [List.takeWhile_append_dropWhile]
      exact member
    rcases List.mem_append.mp whole with blank | kept
    · rw [List.mem_takeWhile_imp blank] at solid
      cases solid
    · exact kept
  obtain ⟨dropped, split, blanks⟩ := dropEndWhile_append_dropped isBlank (cs.dropWhile isBlank)
  rw [split] at inDropped
  rcases List.mem_append.mp inDropped with kept | blank
  · exact kept
  · rw [blanks c blank] at solid
    cases solid

theorem trimList_append_of_blank {back : List Char} (blanks : ∀ c ∈ back, isBlank c = true)
    (front : List Char) : trimList (front ++ back) = trimList front := by
  rw [trimList, trimList, List.dropWhile_append]
  split
  · rename_i nothing
    have gone : back.dropWhile isBlank = [] := List.dropWhile_eq_nil_iff.mpr blanks
    rw [List.isEmpty_iff.mp nothing, gone]
  · rw [dropEndWhile_append_of_all blanks]

theorem trimList_trimList (cs : List Char) : trimList (trimList cs) = trimList cs := by
  have front : (trimList cs).dropWhile isBlank = trimList cs := by
    cases first : trimList cs with
    | nil => rfl
    | cons c rest =>
        obtain ⟨dropped, split, -⟩ := dropEndWhile_append_dropped isBlank (cs.dropWhile isBlank)
        have solid : isBlank c = false := by
          have kept := List.head?_dropWhile_not isBlank cs
          rw [split, show dropEndWhile isBlank _ = c :: rest from first] at kept
          simpa using kept
        rw [List.dropWhile_cons, solid, if_neg Bool.false_ne_true]
  rw [trimList, front]
  exact dropEndWhile_eq_self fun c last => getLast?_dropEndWhile last

theorem trimList_of_blank (blanks : ∀ c ∈ cs, isBlank c = true) : trimList cs = [] := by
  rw [trimList, List.dropWhile_eq_nil_iff.mpr blanks]
  rfl

theorem trimList_dropEndWhile {p : Char → Bool} (blank : ∀ c, p c = true → isBlank c = true)
    (cs : List Char) : trimList (dropEndWhile p cs) = trimList cs := by
  obtain ⟨dropped, split, all⟩ := dropEndWhile_append_dropped p cs
  have same := trimList_append_of_blank (fun c member => blank c (all c member)) (dropEndWhile p cs)
  rw [← split] at same
  exact same.symm

end Trimming

def dropReturns (s : String) : String :=
  String.ofList (dropEndWhile (· == '\r') s.toList)

theorem isBlank_of_isReturn (c : Char) (h : (c == '\r') = true) : isBlank c = true := by
  rw [beq_iff_eq.mp h]
  decide

theorem trimList_dropReturns (s : String) : trimList (dropReturns s).toList = trimList s.toList := by
  rw [dropReturns, String.toList_ofList]
  exact trimList_dropEndWhile isBlank_of_isReturn s.toList

theorem blank_dropReturns (s : String) : blank (dropReturns s) = blank s := by
  obtain ⟨dropped, split, returns⟩ := dropEndWhile_append_dropped (· == '\r') s.toList
  have blanks : dropped.all isBlank = true :=
    List.all_eq_true.mpr fun c member => isBlank_of_isReturn c (returns c member)
  have whole : s.toList.all isBlank = (dropEndWhile (· == '\r') s.toList).all isBlank := by
    rw [← Bool.and_true ((dropEndWhile _ _).all isBlank), ← blanks, ← List.all_append, ← split]
  rw [blank, blank, dropReturns, String.toList_ofList, whole]

theorem dropReturns_eq_self {s : String} (keep : s.toList.getLast? ≠ some '\r') :
    dropReturns s = s := by
  have same : dropEndWhile (· == '\r') s.toList = s.toList := by
    refine dropEndWhile_eq_self fun c last => ?_
    rw [beq_eq_false_iff_ne]
    rintro rfl
    exact keep last
  rw [dropReturns, same, String.ofList_toList]

theorem dropReturns_ne_self {s : String} (ends : s.toList.getLast? = some '\r') :
    dropReturns s ≠ s := by
  intro same
  rw [← same, dropReturns, String.toList_ofList] at ends
  have kept := getLast?_dropEndWhile ends
  cases kept

end AdFilter.Text
