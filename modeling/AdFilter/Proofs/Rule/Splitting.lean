import AdFilter.Proofs.Rule.OneLine
import AdFilter.Proofs.Rule.OptionList

/-! # Where the options of a line begin

A line is split at the first dollar sign behind which nothing but a list of options follows. A later
dollar sign may qualify too, and one in a value does not matter.
-/

namespace AdFilter.RuleOptions

open Text Regex

/-- The line is split at a dollar sign that a list of options follows. -/
structure SplitsAt (line pattern list : List Char) : Prop where
  whole : line = pattern ++ '$' :: list
  isList : IsOptionList list

/-- The line is split there, and at no dollar sign before. -/
structure SplitsFirstAt (line pattern list : List Char) : Prop extends
    SplitsAt line pattern list where
  first : ∀ pattern' list', SplitsAt line pattern' list' → pattern.length ≤ pattern'.length

variable {line pattern pattern' list list' : List Char}

theorem SplitsAt.eq_of_length (h : SplitsAt line pattern list) (h' : SplitsAt line pattern' list')
    (same : pattern.length = pattern'.length) : pattern = pattern' ∧ list = list' := by
  obtain ⟨samePattern, rest⟩ := List.append_inj (h.whole.symm.trans h'.whole) same
  exact ⟨samePattern, (List.cons.inj rest).2⟩

theorem splitsAt_of_split? (found : split? line = some (pattern, list)) :
    SplitsAt line pattern list := by
  refine ⟨split?_eq_some found, ?_⟩
  induction line generalizing pattern with
  | nil => cases found
  | cons c line ih =>
      rw [split?] at found
      split at found
      · rename_i dollar
        cases found
        exact isOptionList_eq_true_iff.mp dollar.2
      · obtain ⟨⟨pattern', list'⟩, found, same⟩ := Option.map_eq_some_iff.mp found
        cases same
        exact ih found

theorem SplitsAt.split?_eq_some (h : SplitsAt line pattern list) :
    ∃ pattern' list', split? line = some (pattern', list') ∧ pattern'.length ≤ pattern.length := by
  obtain ⟨rfl, isList⟩ := h
  induction pattern with
  | nil =>
      refine ⟨[], list, ?_, Nat.le_refl _⟩
      rw [List.nil_append, split?, if_pos ⟨rfl, isOptionList_eq_true_iff.mpr isList⟩]
  | cons c pattern ih =>
      obtain ⟨pattern', list', found, le⟩ := ih
      rw [List.cons_append, split?]
      split
      · exact ⟨[], _, rfl, Nat.zero_le _⟩
      · rw [found]
        exact ⟨c :: pattern', list', rfl, Nat.succ_le_succ le⟩

/-- A line is split at the first dollar sign where it can be. -/
theorem split?_eq_some_iff : split? line = some (pattern, list) ↔ SplitsFirstAt line pattern list := by
  rw [eq_some_iff_first (fun _ _ => splitsAt_of_split?) (fun _ _ => SplitsAt.split?_eq_some)
    fun _ _ _ _ => SplitsAt.eq_of_length]
  exact ⟨fun ⟨h, first⟩ => ⟨h, first⟩, fun h => ⟨h.toSplitsAt, h.first⟩⟩

theorem split?_eq_none_iff : split? line = none ↔ ∀ pattern list, ¬ SplitsAt line pattern list := by
  constructor
  · intro nothing pattern list h
    obtain ⟨pattern', list', found, -⟩ := h.split?_eq_some
    cases nothing.symm.trans found
  · intro nowhere
    refine Option.eq_none_iff_forall_ne_some.mpr fun ⟨pattern, list⟩ found => ?_
    exact nowhere pattern list (splitsAt_of_split? found)

theorem SplitsFirstAt.cut_eq (h : SplitsFirstAt line pattern list) :
    cut line = (pattern, ofChars list) := by
  rw [cut, split?_eq_some_iff.mpr h]

theorem cut_of_unsplit (nowhere : ∀ pattern list, ¬ SplitsAt line pattern list) :
    cut line = (line, {}) := by
  rw [cut, split?_eq_none_iff.mpr nowhere]

/-- The options of a line begin behind the first dollar sign that is followed by a list of options up
    to the end of the line, and each of them is well-formed; a line without such a sign is all
    pattern. The regular expression for lists of options finds just these signs. -/
theorem options_behind_first_dollar (line : List Char) :
    (∀ pattern list, SplitsAt line pattern list →
      ∃ pattern' list', SplitsFirstAt line pattern' list' ∧ pattern'.length ≤ pattern.length) ∧
    (∀ pattern list, SplitsFirstAt line pattern list →
      split? line = some (pattern, list) ∧ pattern ++ '$' :: list = line ∧
        cut line = (pattern, ofChars list) ∧ ∀ token ∈ pieces ',' list, IsOptionToken token) ∧
    ((∀ pattern list, ¬ SplitsAt line pattern list) → split? line = none ∧ cut line = (line, {})) ∧
    ∃ r, Regex.ofChars true listSource.toList = .ok r ∧
      ∀ before part after, line = before ++ part ++ after →
        (r.Matches before part after ↔
          ∃ list, part = '$' :: list ∧ after = [] ∧ SplitsAt line before list) := by
  refine ⟨?_, ?_, ?_, listExpr, ofChars_listSource, ?_⟩
  · intro pattern list h
    obtain ⟨pattern', list', found, le⟩ := h.split?_eq_some
    exact ⟨pattern', list', split?_eq_some_iff.mp found, le⟩
  · intro pattern list h
    exact ⟨split?_eq_some_iff.mpr h, h.whole.symm, h.cut_eq, isOptionList_iff.mp h.isList⟩
  · intro nowhere
    exact ⟨split?_eq_none_iff.mpr nowhere, cut_of_unsplit nowhere⟩
  · rintro before part after rfl
    rw [matches_listExpr]
    constructor
    · rintro ⟨list, rfl, rfl, isList⟩
      exact ⟨list, rfl, rfl, by simp, isList⟩
    · rintro ⟨list, rfl, rfl, h⟩
      exact ⟨list, rfl, rfl, h.isList⟩

/-- Two dollar signs qualify, and the first one counts: the second one is part of a value. -/
example : split? "a$domain=x$y,~z".toList = some (['a'], "domain=x$y,~z".toList) := by
  decide +kernel

/-- Behind the first dollar sign a slash follows, which is in no option. -/
example : split? "/a$/$script".toList = some ("/a$/".toList, "script".toList) := by
  decide +kernel

end AdFilter.RuleOptions
