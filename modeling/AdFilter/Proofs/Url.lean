import AdFilter.Url
import Mathlib.Data.List.TakeWhile

/-! # URLs that have a host

A URL with a host is a scheme, a colon, two slashes and a rest that begins with no further slash.
-/

namespace AdFilter.Url

variable {url before rest : List Char}

theorem cutScheme?_eq_some (h : cutScheme? url = some (before, rest)) :
    ∃ scheme, before = scheme ++ "://".toList ∧ url = before ++ rest ∧
      ∀ c ∈ scheme, isSchemeChar c = true := by
  rw [cutScheme?] at h
  split at h
  · cases h
  · rename_i isScheme
    split at h
    · rename_i rest' behind
      cases h
      simp only [Bool.or_eq_true, not_or, Bool.not_eq_true', Bool.not_eq_false] at isScheme
      refine ⟨url.takeWhile (· != ':'), rfl, ?_, List.all_eq_true.mp isScheme.2⟩
      have whole := List.takeWhile_append_dropWhile (p := (· != ':')) (l := url)
      rw [behind] at whole
      simpa using whole.symm
    · cases h

theorem host_ne_empty {url host : String} (h : host? url = some host) : host ≠ "" := by
  obtain ⟨⟨before, cs, after⟩, -, given⟩ := Option.bind_eq_some_iff.mp h
  simp only [Option.ite_none_left_eq_some, Option.some.injEq] at given
  obtain ⟨nonempty, rfl⟩ := given
  simpa using nonempty

theorem exists_of_host? {url host : String} (h : host? url = some host) :
    ∃ scheme rest, url.toList = scheme ++ "://".toList ++ rest ∧
      (∀ c ∈ scheme, isSchemeChar c = true) ∧ rest.head? ≠ some '/' := by
  obtain ⟨⟨before, host', after⟩, cut, some⟩ := Option.bind_eq_some_iff.mp h
  obtain ⟨⟨before', rest⟩, cutScheme, same⟩ := Option.map_eq_some_iff.mp cut
  obtain ⟨scheme, rfl, whole, isScheme⟩ := cutScheme?_eq_some cutScheme
  refine ⟨scheme, rest, whole, isScheme, fun slash => ?_⟩
  obtain ⟨path, rfl⟩ := List.head?_eq_some_iff.mp slash
  have nothing : ('/' :: path).takeWhile (!endsAuthority ·) = [] := rfl
  simp only [nothing, Prod.mk.injEq] at same
  obtain ⟨-, rfl, -⟩ := same
  cases some

section Cutting

variable {user tail : List Char}

theorem takeWhile_bne_append_cons {c : Char} {front : List Char} (absent : c ∉ front)
    (rest : List Char) : (front ++ c :: rest).takeWhile (· != c) = front := by
  have other : ∀ d ∈ front, (d != c) = true := fun d member =>
    bne_iff_ne.mpr fun same => absent (same ▸ member)
  rw [List.takeWhile_append_of_pos other, List.takeWhile_cons_of_neg (by simp), List.append_nil]

theorem dropWhile_bne_append_cons {c : Char} {front : List Char} (absent : c ∉ front)
    (rest : List Char) : (front ++ c :: rest).dropWhile (· != c) = c :: rest := by
  have other : ∀ d ∈ front, (d != c) = true := fun d member =>
    bne_iff_ne.mpr fun same => absent (same ▸ member)
  rw [List.dropWhile_append_of_pos other, List.dropWhile_cons_of_neg (by simp)]

theorem takeWhile_bne_of_not_mem {c : Char} {cs : List Char} (absent : c ∉ cs) :
    cs.takeWhile (· != c) = cs :=
  List.takeWhile_eq_self_iff.mpr fun _ member => bne_iff_ne.mpr fun same => absent (same ▸ member)

theorem dropWhile_bne_of_not_mem {c : Char} {cs : List Char} (absent : c ∉ cs) :
    cs.dropWhile (· != c) = [] :=
  List.dropWhile_eq_nil_iff.mpr fun _ member => bne_iff_ne.mpr fun same => absent (same ▸ member)

theorem cutScheme?_of_colon {scheme : List Char} (noColon : ':' ∉ scheme) (rest : List Char) :
    cutScheme? (scheme ++ ':' :: rest) =
      if scheme.isEmpty || !scheme.all isSchemeChar then none
      else if "//".toList.isPrefixOf rest then some (scheme ++ "://".toList, rest.drop 2)
      else none := by
  rw [cutScheme?, takeWhile_bne_append_cons noColon, dropWhile_bne_append_cons noColon]
  congr 1
  by_cases slashes : "//".toList.isPrefixOf rest = true
  · obtain ⟨path, rfl⟩ := List.isPrefixOf_iff_prefix.mp slashes
    rw [if_pos slashes]
    rfl
  · rw [if_neg slashes]
    split
    · rename_i path begins
      exact absurd (List.isPrefixOf_iff_prefix.mpr ⟨path, (List.tail_eq_of_cons_eq begins).symm⟩)
        slashes
    · rfl

theorem cutScheme?_of_not_mem {cs : List Char} (noColon : ':' ∉ cs) : cutScheme? cs = none := by
  rw [cutScheme?, takeWhile_bne_of_not_mem noColon, dropWhile_bne_of_not_mem noColon]
  split <;> rfl

theorem cutScheme?_append {scheme : List Char} (nonempty : scheme ≠ [])
    (isScheme : ∀ c ∈ scheme, isSchemeChar c = true) (rest : List Char) :
    cutScheme? (scheme ++ "://".toList ++ rest) = some (scheme ++ "://".toList, rest) := by
  have noColon : ':' ∉ scheme := by
    intro member
    cases isScheme ':' member
  have good : ¬ (scheme.isEmpty || !scheme.all isSchemeChar) = true := by
    simp [nonempty, List.all_eq_true.mpr isScheme]
  rw [List.append_assoc]
  refine (cutScheme?_of_colon noColon ("//".toList ++ rest)).trans ?_
  rw [if_neg good, if_pos (List.isPrefixOf_iff_prefix.mpr ⟨rest, rfl⟩)]
  rfl

theorem cutUser_append (noSign : '@' ∉ tail) (ends : ∀ c ∈ user.getLast?, c = '@') :
    cutUser (user ++ tail) = (user, tail) := by
  have inTail : ∀ c ∈ tail.reverse, (c != '@') = true := by
    intro c member
    rw [bne_iff_ne]
    rintro rfl
    exact noSign (List.mem_reverse.mp member)
  have inUser : user.reverse.takeWhile (· != '@') = [] := by
    cases turned : user.reverse with
    | nil => rfl
    | cons c rest =>
        have last : user.getLast? = some c := by
          rw [List.getLast?_eq_head?_reverse, turned, List.head?_cons]
        rw [ends c last]
        rfl
  have host : ((user ++ tail).reverse.takeWhile (· != '@')).reverse = tail := by
    rw [List.reverse_append, List.takeWhile_append_of_pos inTail, inUser, List.append_nil,
      List.reverse_reverse]
  simp only [cutUser, host, List.length_append, Nat.add_sub_cancel, List.take_left]

theorem cutUser_cases (authority : List Char) :
    ∃ user tail, authority = user ++ tail ∧ cutUser authority = (user, tail) ∧ '@' ∉ tail ∧
      ∀ c ∈ user.getLast?, c = '@' := by
  have noSign : '@' ∉ (authority.reverse.takeWhile (· != '@')).reverse := fun sign =>
    absurd (List.mem_takeWhile_imp (List.mem_reverse.mp sign)) (by decide)
  have ends : ∀ c ∈ (authority.reverse.dropWhile (· != '@')).reverse.getLast?, c = '@' := by
    intro c last
    have stops := List.head?_dropWhile_not (· != '@') authority.reverse
    rw [List.getLast?_reverse, Option.mem_def] at last
    rw [last] at stops
    simpa using stops
  have split : (authority.reverse.dropWhile (· != '@')).reverse ++
      (authority.reverse.takeWhile (· != '@')).reverse = authority := by
    rw [← List.reverse_append, List.takeWhile_append_dropWhile, List.reverse_reverse]
  have cut := cutUser_append noSign ends
  rw [split] at cut
  exact ⟨_, _, split.symm, cut, noSign, ends⟩

theorem hostOf_of_head? (open' : tail.head? ≠ some '[') :
    hostOf tail = tail.takeWhile (· != ':') := by
  unfold hostOf
  split
  · exact absurd rfl open'
  · rfl

theorem hostOf_bracket {inside : List Char} (noBracket : ']' ∉ inside) (after : List Char) :
    hostOf ('[' :: inside ++ ']' :: after) = '[' :: inside ++ [']'] := by
  rw [List.cons_append, hostOf, takeWhile_bne_append_cons noBracket,
    dropWhile_bne_append_cons noBracket]
  rfl

theorem hostOf_unclosed {inside : List Char} (noBracket : ']' ∉ inside) :
    hostOf ('[' :: inside) = '[' :: inside := by
  rw [hostOf, takeWhile_bne_of_not_mem noBracket, dropWhile_bne_of_not_mem noBracket]
  exact List.append_nil _

end Cutting

end AdFilter.Url
