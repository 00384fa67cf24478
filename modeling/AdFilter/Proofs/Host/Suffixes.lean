import AdFilter.Host.Domain
import Mathlib.Data.List.TakeWhile

/-! # The domains that a host lies in

Beside the host itself these are what follows its dots, if anything does. The walk through the
parents meets each of them, the longest first.
-/

namespace AdFilter.Host

/-- The domain is the host, or what follows one of its dots. -/
def LiesIn (host domain : List Char) : Prop :=
  domain = host ∨ domain ≠ [] ∧ ∃ front, host = front ++ '.' :: domain

variable {host label rest domain : List Char}

theorem ne_dot_of_mem {c : Char} (undotted : '.' ∉ label) (member : c ∈ label) :
    (c != '.') = true := by
  rw [bne_iff_ne]
  rintro rfl
  exact undotted member

theorem parent?_of_undotted (undotted : '.' ∉ host) : parent? host = none := by
  have nothing : host.dropWhile (· != '.') = [] :=
    List.dropWhile_eq_nil_iff.mpr fun c member => ne_dot_of_mem undotted member
  rw [parent?, nothing]

theorem parent?_append (undotted : '.' ∉ label) :
    parent? (label ++ '.' :: rest) = if rest = [] then none else some rest := by
  have first : (label ++ '.' :: rest).dropWhile (· != '.') = '.' :: rest := by
    rw [List.dropWhile_append_of_pos fun c member => ne_dot_of_mem undotted member]
    rfl
  rw [parent?, first]
  cases rest <;> rfl

theorem suffixes_of_none (top : parent? host = none) : suffixes host = [host] := by
  rw [suffixes]
  split
  · rename_i parent found
    rw [top] at found
    cases found
  · rfl

theorem suffixes_of_some {parent : List Char} (above : parent? host = some parent) :
    suffixes host = host :: suffixes parent := by
  rw [suffixes]
  split
  · rename_i found
    rw [above] at found
    cases found
    rfl
  · rename_i found
    rw [above] at found
    cases found

theorem liesIn_append (undotted : '.' ∉ label) :
    LiesIn (label ++ '.' :: rest) domain ↔
      domain = label ++ '.' :: rest ∨ (rest ≠ [] ∧ LiesIn rest domain) := by
  unfold LiesIn
  refine or_congr_right ?_
  constructor
  · rintro ⟨nonempty, front, split⟩
    rcases List.append_eq_append_iff.mp split with ⟨more, rfl, after⟩ | ⟨more, rfl, after⟩
    · cases more with
      | nil =>
          cases after
          exact ⟨nonempty, .inl rfl⟩
      | cons c more =>
          cases after
          exact ⟨by simp, .inr ⟨nonempty, more, rfl⟩⟩
    · cases more with
      | nil =>
          cases after
          exact ⟨nonempty, .inl rfl⟩
      | cons c more =>
          cases after
          exact absurd (by simp) undotted
  · rintro ⟨nonempty, rfl | ⟨nonempty', front, rfl⟩⟩
    · exact ⟨nonempty, label, rfl⟩
    · exact ⟨nonempty', label ++ '.' :: front, by simp⟩

/-- The walk meets the domains that the host lies in, and nothing else. -/
theorem mem_suffixes_iff : domain ∈ suffixes host ↔ LiesIn host domain := by
  induction host using suffixes.induct with
  | case1 host parent above ih =>
      by_cases dotted : '.' ∈ host
      · obtain ⟨label, rest, rfl, first⟩ := List.eq_append_cons_of_mem dotted
        rw [parent?_append first] at above
        split at above
        · cases above
        · rename_i nonempty
          cases above
          rw [suffixes_of_some (by rw [parent?_append first, if_neg nonempty]), List.mem_cons, ih,
            liesIn_append first, and_iff_right nonempty]
      · rw [parent?_of_undotted dotted] at above
        cases above
  | case2 host top =>
      rw [suffixes_of_none top, List.mem_singleton]
      by_cases dotted : '.' ∈ host
      · obtain ⟨label, rest, rfl, first⟩ := List.eq_append_cons_of_mem dotted
        rw [parent?_append first] at top
        split at top
        · rename_i empty
          simp [liesIn_append first, empty]
        · cases top
      · constructor
        · exact .inl
        · rintro (same | ⟨-, front, rfl⟩)
          · exact same
          · exact absurd (by simp) dotted

theorem length_le_of_liesIn (within : LiesIn host domain) : domain.length ≤ host.length := by
  rcases within with rfl | ⟨-, front, rfl⟩
  · exact Nat.le_refl _
  · simp only [List.length_append, List.length_cons]
    omega

theorem pairwise_suffixes (host : List Char) :
    (suffixes host).Pairwise fun a b => b.length < a.length := by
  induction host using suffixes.induct with
  | case1 host parent above ih =>
      rw [suffixes_of_some above]
      refine List.pairwise_cons.mpr ⟨fun domain member => ?_, ih⟩
      exact Nat.lt_of_le_of_lt (length_le_of_liesIn (mem_suffixes_iff.mp member))
        (length_of_parent? above)
  | case2 host top =>
      rw [suffixes_of_none top]
      exact List.pairwise_singleton _ _

theorem LiesIn.eq_of_length {domain' : List Char} (within : LiesIn host domain)
    (within' : LiesIn host domain') (same : domain.length = domain'.length) : domain = domain' := by
  have suffix {d : List Char} (within : LiesIn host d) : d <:+ host := by
    rcases within with rfl | ⟨-, front, rfl⟩
    · exact List.suffix_rfl
    · exact ⟨front ++ ['.'], by simp⟩
  have shared : domain <:+ domain' :=
    List.suffix_of_suffix_length_le (suffix within) (suffix within') (Nat.le_of_eq same)
  exact shared.eq_of_length same

end AdFilter.Host
