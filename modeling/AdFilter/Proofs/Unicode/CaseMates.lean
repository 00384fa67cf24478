import AdFilter.Unicode.CaseMates

/-! # Which characters have case mates

An ASCII character that is no letter differs from every other character by more than its case,
and beyond ASCII only two characters differ from an ASCII letter in nothing else. For this the
tables are gone through row by row. A row is compared with the list of its characters first, since
to the kernel a text is a sequence of bytes that have to be decoded.
-/

namespace AdFilter.Unicode

open AdFilter.Text

/-- A code point of a character that is no ASCII character. -/
def IsBeyondAscii (n : Nat) : Prop :=
  0x80 ≤ n ∧ n.isValidChar

/-- All code points of a range belong to characters beyond ASCII. -/
def beyondAscii (lo hi : Nat) : Bool :=
  (0x80 ≤ lo && hi < 0xD800) || (0xE000 ≤ lo && hi < 0x110000)

theorem isBeyondAscii_of_range {lo hi n : Nat} (range : beyondAscii lo hi = true) (above : lo ≤ n)
    (below : n ≤ hi) : IsBeyondAscii n := by
  simp only [beyondAscii, Bool.or_eq_true, Bool.and_eq_true, decide_eq_true_eq] at range
  rcases range with ⟨low, high⟩ | ⟨low, high⟩
  · exact ⟨by omega, .inl (by omega)⟩
  · exact ⟨by omega, .inr ⟨by omega, by omega⟩⟩

theorem IsBeyondAscii.isAscii {n : Nat} (h : IsBeyondAscii n) : isAscii (Char.ofNat n) = false := by
  have value : (Char.ofNat n).toNat = n := by
    rw [Char.ofNat, dif_pos h.2]
    rfl
  simpa [Text.isAscii, value] using h.1

theorem forall_rows_cons (check : List Char → Bool) {row : String} {cs : List Char}
    {rows : List String} (same : row = String.ofList cs) (first : check cs = true)
    (rest : ∀ row ∈ rows, check row.toList = true) :
    ∀ row' ∈ row :: rows, check row'.toList = true := by
  intro row' member
  rcases List.mem_cons.mp member with rfl | member
  · rw [same, String.toList_ofList]
    exact first
  · exact rest row' member

namespace CaseRun

/-- Both ends of all pairs of the run lie beyond ASCII. -/
def isBeyondAscii (r : CaseRun) : Bool :=
  beyondAscii r.span.first r.span.last &&
    beyondAscii r.target (r.target + (r.span.last - r.span.first))

theorem isBeyondAscii_of_mate? {r : CaseRun} (h : r.isBeyondAscii = true) {n k : Nat}
    (mate : r.mate? n = some k) : IsBeyondAscii k := by
  simp only [isBeyondAscii, Bool.and_eq_true] at h
  simp only [mate?, Span.contains, Bool.and_eq_true, decide_eq_true_eq, beq_iff_eq] at mate
  split at mate
  · rename_i inside
    obtain rfl := Option.some.inj mate
    exact isBeyondAscii_of_range h.2 (by omega) (by omega)
  · split at mate
    · rename_i inside
      obtain rfl := Option.some.inj mate
      exact isBeyondAscii_of_range h.1 inside.2.1.1 inside.2.1.2
    · cases mate

end CaseRun

theorem forall_caseRunsOfText {check : CaseRun → Bool} {rows : List String}
    (each : ∀ row ∈ rows, ((pieces ' ' row.toList).all fun cs => check (.ofChars cs)) = true) :
    ∀ r ∈ caseRunsOfText rows, check r = true := by
  intro r member
  obtain ⟨row, rowMember, member⟩ := List.mem_flatMap.mp member
  obtain ⟨cs, csMember, rfl⟩ := List.mem_map.mp member
  exact List.all_eq_true.mp (each row rowMember) cs csMember

theorem casePairs_beyondAscii : ∀ r ∈ casePairs, r.isBeyondAscii = true := by
  refine forall_caseRunsOfText ?_
  repeat refine forall_rows_cons (fun cs => (pieces ' ' cs).all fun cs =>
    (CaseRun.ofChars cs).isBeyondAscii) rfl (by decide +kernel) ?_
  exact fun _ member => nomatch member

/-- A code point that an ASCII character other than a letter does not have. -/
def isLetterOrBeyond (n : Nat) : Bool :=
  (Char.ofNat n).isAlpha || (0x80 ≤ n && decide n.isValidChar)

theorem forall_caseGroupsOfText (check : List Nat → Bool) {rows : List String}
    (each : ∀ row ∈ rows,
      ((pieces ' ' row.toList).all fun cs => check ((pieces '~' cs).map Hex.value)) = true) :
    ∀ group ∈ caseGroupsOfText rows, check group = true := by
  intro group member
  obtain ⟨row, rowMember, member⟩ := List.mem_flatMap.mp member
  obtain ⟨cs, csMember, rfl⟩ := List.mem_map.mp member
  exact List.all_eq_true.mp (each row rowMember) cs csMember

theorem caseGroups_lettersOrBeyond : ∀ group ∈ caseGroups, group.all isLetterOrBeyond = true := by
  refine forall_caseGroupsOfText (·.all isLetterOrBeyond) ?_
  repeat refine forall_rows_cons (fun cs => (pieces ' ' cs).all fun cs =>
    ((pieces '~' cs).map Hex.value).all isLetterOrBeyond) rfl (by decide +kernel) ?_
  exact fun _ member => nomatch member

theorem asciiCaseMates_letters {n : Nat} (small : n < 0x80) {d : Char}
    (member : d ∈ asciiCaseMates (Char.ofNat n)) (ascii : isAscii d = true) : d.isAlpha = true := by
  have all : ((List.range 0x80).all fun n => (asciiCaseMates (Char.ofNat n)).all fun d =>
      !isAscii d || d.isAlpha) = true := by
    decide +kernel
  have each := List.all_eq_true.mp (List.all_eq_true.mp all n (List.mem_range.mpr small)) d member
  simpa [ascii] using each

theorem not_mem_caseMates {d : Char} (ascii : isAscii d = true) (noLetter : d.isAlpha = false)
    (c : Char) : d ∉ caseMates c := by
  intro member
  unfold caseMates at member
  split at member
  · rename_i cAscii
    have small : c.toNat < 0x80 := by simpa [isAscii] using cAscii
    have letter := asciiCaseMates_letters small (by simpa using member) ascii
    rw [noLetter] at letter
    cases letter
  · simp only at member
    split at member
    · rename_i group found
      obtain ⟨n, nMember, rfl⟩ := List.mem_map.mp member
      have each := List.all_eq_true.mp
        (caseGroups_lettersOrBeyond group (List.mem_of_find?_eq_some found)) n
        (List.mem_filter.mp nMember).1
      simp only [isLetterOrBeyond, noLetter, Bool.false_or, Bool.and_eq_true,
        decide_eq_true_eq] at each
      rw [IsBeyondAscii.isAscii each] at ascii
      cases ascii
    · obtain ⟨n, found, rfl⟩ := Option.map_eq_some_iff.mp (Option.mem_toList.mp member)
      obtain ⟨r, rMember, mate⟩ := List.exists_of_findSome?_eq_some found
      have beyond := CaseRun.isBeyondAscii_of_mate? (casePairs_beyondAscii r rMember) mate
      rw [beyond.isAscii] at ascii
      cases ascii

/-- The groups that ASCII letters are in: those of `k` and `s`. -/
def asciiGroups : List (List Nat) :=
  [[0x4B, 0x6B, 0x212A], [0x53, 0x73, 0x17F]]

/-- Whether a group with ASCII letters is one of the two that there are. -/
def isKnownGroup (group : List Nat) : Bool :=
  group.all (fun n => 0x80 ≤ n && decide n.isValidChar) || asciiGroups.contains group

theorem caseGroups_known : ∀ group ∈ caseGroups, isKnownGroup group = true := by
  refine forall_caseGroupsOfText isKnownGroup ?_
  repeat refine forall_rows_cons (fun cs => (pieces ' ' cs).all fun cs =>
    isKnownGroup ((pieces '~' cs).map Hex.value)) rfl (by decide +kernel) ?_
  exact fun _ member => nomatch member

/-- Of the characters beyond ASCII, only the Kelvin sign and the long s differ from an ASCII
    character in nothing but case. -/
theorem eq_of_ascii_mem_caseMates {c d : Char} (beyond : isAscii c = false)
    (ascii : isAscii d = true) (member : d ∈ caseMates c) : c = '\u212A' ∨ c = '\u017F' := by
  have large : 0x80 ≤ c.toNat := by simpa [isAscii] using beyond
  unfold caseMates at member
  rw [if_neg (by simp [beyond])] at member
  simp only at member
  split at member
  · rename_i group found
    obtain ⟨n, nMember, rfl⟩ := List.mem_map.mp member
    have inGroup : c.toNat ∈ group := by simpa using List.find?_some found
    have known := caseGroups_known group (List.mem_of_find?_eq_some found)
    rcases Bool.or_eq_true_iff.mp known with allBeyond | isKnown
    · have each := List.all_eq_true.mp allBeyond n (List.mem_filter.mp nMember).1
      have beyond : IsBeyondAscii n := by
        simpa only [Bool.and_eq_true, decide_eq_true_eq, IsBeyondAscii] using each
      rw [beyond.isAscii] at ascii
      cases ascii
    · have value : c.toNat = 0x212A ∨ c.toNat = 0x17F := by
        simp only [asciiGroups, List.contains_iff_mem, List.mem_cons, List.not_mem_nil,
          or_false] at isKnown
        rcases isKnown with rfl | rfl <;>
          simp only [List.mem_cons, List.not_mem_nil, or_false] at inGroup <;> omega
      rw [← Char.ofNat_toNat c]
      rcases value with same | same
      · exact .inl (congrArg Char.ofNat same)
      · exact .inr (congrArg Char.ofNat same)
  · obtain ⟨n, found, rfl⟩ := Option.map_eq_some_iff.mp (Option.mem_toList.mp member)
    obtain ⟨r, rMember, mate⟩ := List.exists_of_findSome?_eq_some found
    have beyond := CaseRun.isBeyondAscii_of_mate? (casePairs_beyondAscii r rMember) mate
    rw [beyond.isAscii] at ascii
    cases ascii

end AdFilter.Unicode
