import AdFilter.Proofs.Host.Address
import AdFilter.Proofs.Host.Suffixes

/-! # Subdomains of one owner

A registrable domain is made of the last labels of a host. So whatever stands in front of a host
that has an owner makes no difference, unless both together are an address.
-/

namespace AdFilter.Host

open Text

section Labels

variable {front labels : List (List Char)} {a b c : List Char}

theorem registrableLabels_of_length_le (short : labels.length ≤ 2) :
    registrableLabels labels = labels :=
  if_pos short

theorem registrableLabels_of_not_shared (notShared : isShared [a, b] = false) :
    registrableLabels (front ++ [a, b]) = [a, b] := by
  cases front with
  | nil => rfl
  | cons first front =>
      have last : (first :: front ++ [a, b]).length - 2 = (first :: front).length := by simp
      simp only [registrableLabels, last, List.drop_left, notShared, Bool.false_eq_true, if_false]
      exact if_neg (by simp)

theorem registrableLabels_of_shared (shared : isShared [a, b] = true) :
    registrableLabels (front ++ [c, a, b]) = [c, a, b] := by
  have last : (front ++ [c, a, b]).length - 2 = (front ++ [c]).length := by simp
  have split : front ++ [c, a, b] = (front ++ [c]) ++ [a, b] := by simp
  have last' : (front ++ [c, a, b]).length - 3 = front.length := by simp
  rw [registrableLabels, last, last', if_neg (by simp), List.drop_left, split, List.drop_left,
    if_pos shared]

theorem exists_last_three (labels : List (List Char)) :
    labels.length ≤ 2 ∨ ∃ front c a b, labels = front ++ [c, a, b] := by
  by_cases short : labels.length ≤ 2
  · exact .inl short
  · have three : (labels.drop (labels.length - 3)).length = 3 := by
      rw [List.length_drop]
      omega
    obtain ⟨c, a, b, last⟩ := List.length_eq_three.mp three
    refine .inr ⟨labels.take (labels.length - 3), c, a, b, ?_⟩
    rw [← last, List.take_append_drop]

theorem registrableLabels_cases (labels : List (List Char)) :
    (labels.length ≤ 2 ∧ registrableLabels labels = labels) ∨
    (∃ front a b, labels = front ++ [a, b] ∧ front ≠ [] ∧ isShared [a, b] = false ∧
      registrableLabels labels = [a, b]) ∨
    ∃ front c a b, labels = front ++ [c, a, b] ∧ isShared [a, b] = true ∧
      registrableLabels labels = [c, a, b] := by
  rcases exists_last_three labels with short | ⟨front, c, a, b, rfl⟩
  · exact .inl ⟨short, registrableLabels_of_length_le short⟩
  · right
    cases shared : isShared [a, b] with
    | true => exact .inr ⟨front, c, a, b, rfl, shared, registrableLabels_of_shared shared⟩
    | false =>
        have split : front ++ [c, a, b] = (front ++ [c]) ++ [a, b] := by simp
        refine .inl ⟨front ++ [c], a, b, split, by simp, shared, ?_⟩
        rw [split, registrableLabels_of_not_shared shared]

theorem registrableLabels_append (front : List (List Char)) (two : 2 ≤ labels.length)
    (own : isShared labels = false) :
    registrableLabels (front ++ labels) = registrableLabels labels := by
  rcases registrableLabels_cases labels with ⟨short, same⟩ | ⟨front', a, b, rfl, -, shared, same⟩ |
    ⟨front', c, a, b, rfl, shared, same⟩
  · obtain ⟨a, b, rfl⟩ := List.length_eq_two.mp (Nat.le_antisymm short two)
    rw [same, registrableLabels_of_not_shared own]
  · rw [same, ← List.append_assoc, registrableLabels_of_not_shared shared]
  · rw [same, ← List.append_assoc, registrableLabels_of_shared shared]

theorem registrableLabels_idem (labels : List (List Char)) :
    registrableLabels (registrableLabels labels) = registrableLabels labels := by
  rcases registrableLabels_cases labels with ⟨-, same⟩ | ⟨-, a, b, -, -, -, same⟩ |
    ⟨-, c, a, b, -, shared, same⟩
  · rw [same, same]
  · rw [same]
    rfl
  · have own : registrableLabels ([] ++ [c, a, b]) = [c, a, b] := registrableLabels_of_shared shared
    rw [same]
    exact own

theorem registrableLabels_suffix (labels : List (List Char)) :
    registrableLabels labels <:+ labels := by
  simp only [registrableLabels]
  split
  · exact List.suffix_rfl
  · split
    · exact List.drop_suffix _ _
    · exact List.drop_suffix _ _

theorem registrableLabels_ne_nil (some : labels ≠ []) : registrableLabels labels ≠ [] := by
  rcases registrableLabels_cases labels with ⟨-, same⟩ | ⟨-, a, b, -, -, -, same⟩ |
    ⟨-, c, a, b, -, -, same⟩
  · rwa [same]
  · simp [same]
  · simp [same]

/-- What is joined from the registrable labels is the whole, or what follows one of its dots. -/
theorem liesIn_registrableLabels (labels : List (List Char)) :
    LiesIn (join '.' labels) (join '.' (registrableLabels labels)) := by
  have within {front back : List (List Char)} (some : front ≠ []) (more : 2 ≤ back.length) :
      LiesIn (join '.' (front ++ back)) (join '.' back) := by
    match back with
    | a :: b :: rest =>
        exact .inr ⟨by simp [join], join '.' front, join_append some (List.cons_ne_nil _ _)⟩
  rcases registrableLabels_cases labels with ⟨-, same⟩ | ⟨front, a, b, rfl, some, -, same⟩ |
    ⟨front, c, a, b, rfl, -, same⟩
  · exact .inl (by rw [same])
  · rw [same]
    exact within some (Nat.le_refl 2)
  · rw [same]
    cases front with
    | nil => exact .inl rfl
    | cons first front => exact within (List.cons_ne_nil _ _) (Nat.le_succ 2)

end Labels

section Normal

variable {host host' front cs : List Char}

theorem normal_eq (host : List Char) :
    normal host = dropEndWhile (· == '.') (host.map Char.toLower) := by
  have sameDot : (· == '.') ∘ Char.toLower = (· == '.') := by
    funext c
    exact Bool.eq_iff_iff.mpr (by simpa using toLower_eq_iff (by decide))
  rw [normal, dropEndWhile, dropEndWhile, ← List.map_reverse, List.dropWhile_map, sameDot,
    List.map_reverse]

theorem normal_append_dots (same : host'.map Char.toLower = host.map Char.toLower) (dots : Nat) :
    normal (host' ++ List.replicate dots '.') = normal host := by
  rw [normal, dropEndWhile_append_of_all, ← normal, normal_eq, normal_eq, same]
  intro c member
  rw [List.eq_of_mem_replicate member, beq_self_eq_true]

theorem getLast?_normal (host : List Char) : (normal host).getLast? ≠ some '.' := by
  rw [normal_eq]
  intro dot
  cases getLast?_dropEndWhile dot

theorem map_toLower_normal (host : List Char) : (normal host).map Char.toLower = normal host := by
  rw [normal, List.map_map]
  exact List.map_congr_left fun c _ => toLower_toLower c

theorem normal_of_liesIn (within : LiesIn (normal host) cs) : normal cs = cs := by
  rcases within with rfl | ⟨nonempty, front, split⟩
  · rw [normal_of_getLast? (getLast?_normal host), map_toLower_normal]
  · have last := getLast?_normal host
    have lower := map_toLower_normal host
    rw [split, List.append_cons, List.getLast?_append_of_ne_nil _ nonempty] at last
    rw [split, List.append_cons, List.map_append] at lower
    rw [normal_of_getLast? last]
    exact (List.append_inj' lower (List.length_map _)).2

theorem normal_append_of_ne_nil (nonempty : normal host ≠ []) (front : List Char) :
    normal (front ++ host) = front.map Char.toLower ++ normal host := by
  rw [normal_eq] at nonempty ⊢
  rw [normal_eq, List.map_append, dropEndWhile_append_of_ne_nil nonempty]

end Normal

section Domains

variable {host cs : List Char}

theorem length_pieces_of_isAddress (accepted : isAddress cs = true) :
    (pieces '.' cs).length = 1 ∨ (pieces '.' cs).length = 4 := by
  have undotted {cs : List Char} (groups : ∀ c ∈ cs, isGroupsChar c = true) : '.' ∉ cs :=
    fun dot => absurd (groups '.' dot) (by decide)
  rcases Bool.or_eq_true_iff.mp accepted with isQuad | accepted
  · obtain ⟨a, b, c, d, isQuad⟩ := isIPv4_iff.mp isQuad
    right
    rw [isQuad.pieces_eq]
    rfl
  · rcases endsGroups_of_isIPv6 accepted with groups | ⟨-, front, four, rfl, groups, isQuad⟩
    · left
      rw [pieces_of_not_mem (undotted groups)]
      rfl
    · obtain ⟨a, b, c, d, isQuad⟩ := isIPv4_iff.mp isQuad
      have whole : front ++ four = (front ++ a) ++ '.' :: join '.' [b, c, d] := by
        rw [isQuad.whole]
        simp [join]
      have first : '.' ∉ front ++ a :=
        List.not_mem_append (undotted groups) (undotted_of_isOctet (isQuad.octets a (by simp)))
      have rest : pieces '.' (join '.' [b, c, d]) = [b, c, d] := by
        refine pieces_join_of_not_mem (List.cons_ne_nil _ _) fun octet member => ?_
        exact undotted_of_isOctet (isQuad.octets octet (List.mem_cons_of_mem a member))
      right
      rw [whole, pieces_append, pieces_of_not_mem first, rest]
      rfl

theorem registrable_of_isAddress (address : isAddress (normal host) = true) :
    registrable host = normal host :=
  if_pos address

theorem registrable_of_not_isAddress (name : isAddress (normal host) = false) :
    registrable host = join '.' (registrableLabels (pieces '.' (normal host))) :=
  if_neg (Bool.eq_false_iff.mp name)

theorem liesIn_registrable (host : List Char) : LiesIn (normal host) (registrable host) := by
  cases address : isAddress (normal host) with
  | true => exact .inl (registrable_of_isAddress address)
  | false =>
      have within := liesIn_registrableLabels (pieces '.' (normal host))
      rwa [join_pieces, ← registrable_of_not_isAddress address] at within

theorem pieces_registrable (name : isAddress (normal host) = false) :
    pieces '.' (registrable host) = registrableLabels (pieces '.' (normal host)) := by
  rw [registrable_of_not_isAddress name]
  refine pieces_join_of_not_mem (registrableLabels_ne_nil (pieces_ne_nil _ _)) ?_
  intro label member dot
  have isLabel := (registrableLabels_suffix _).subset member
  exact (mem_of_mem_pieces isLabel dot).2 rfl

theorem normal_registrable (host : List Char) : normal (registrable host) = registrable host :=
  normal_of_liesIn (liesIn_registrable host)

theorem isAddress_registrable (host : List Char) :
    isAddress (registrable host) = isAddress (normal host) := by
  cases address : isAddress (normal host) with
  | true => rw [registrable_of_isAddress address, address]
  | false =>
      have labels := pieces_registrable address
      rw [← Bool.not_eq_true]
      intro address'
      have number := length_pieces_of_isAddress address'
      rcases registrableLabels_cases (pieces '.' (normal host)) with ⟨-, same⟩ |
        ⟨-, a, b, -, -, -, same⟩ | ⟨-, c, a, b, -, -, same⟩
      · rw [registrable_of_not_isAddress address, same, join_pieces, address] at address'
        cases address'
      · simp [labels, same] at number
      · simp [labels, same] at number

theorem registrable_registrable (host : List Char) :
    registrable (registrable host) = registrable host := by
  cases address : isAddress (normal host) with
  | true =>
      rw [← isAddress_registrable, ← normal_registrable] at address
      rw [registrable_of_isAddress address, normal_registrable]
  | false =>
      have address' := address
      rw [← isAddress_registrable, ← normal_registrable] at address'
      rw [registrable_of_not_isAddress address', normal_registrable, pieces_registrable address,
        registrableLabels_idem, ← registrable_of_not_isAddress address]

end Domains

/-- The host is a name of at least two labels under which nobody else registers names. -/
structure IsOwned (host : List Char) : Prop where
  labels : 2 ≤ (pieces '.' (normal host)).length
  name : isAddress (normal host) = false
  notShared : String.ofList (normal host) ∉ sharedDomains

section Subdomains

variable {host front : List Char}

theorem IsOwned.normal_ne_nil (owned : IsOwned host) : normal host ≠ [] := by
  intro empty
  have labels := owned.labels
  rw [empty] at labels
  exact absurd labels (by decide)

theorem IsOwned.normal_append (owned : IsOwned host) (front : List Char) :
    normal (front ++ '.' :: host) = front.map Char.toLower ++ '.' :: normal host := by
  have dot : Char.toLower '.' = '.' := rfl
  rw [List.append_cons, normal_append_of_ne_nil owned.normal_ne_nil, List.map_append, List.map_cons,
    dot, List.map_nil, ← List.append_cons]

theorem IsOwned.not_isShared (owned : IsOwned host) :
    isShared (pieces '.' (normal host)) = false := by
  rw [isShared, join_pieces]
  simpa using owned.notShared

/-- What stands in front of an owned host makes no difference, unless both are an address. -/
theorem IsOwned.registrable_append_iff (owned : IsOwned host) (front : List Char) :
    registrable (front ++ '.' :: host) = registrable host ↔
      isAddress (normal (front ++ '.' :: host)) = false := by
  have whole := owned.normal_append front
  cases address : isAddress (normal (front ++ '.' :: host)) with
  | true =>
      refine iff_of_false (fun same => ?_) (by simp)
      have short := length_le_of_liesIn (liesIn_registrable host)
      rw [← same, registrable_of_isAddress address, whole] at short
      simp only [List.length_append, List.length_cons] at short
      omega
  | false =>
      refine iff_of_true ?_ rfl
      rw [registrable_of_not_isAddress address, registrable_of_not_isAddress owned.name, whole,
        pieces_append, registrableLabels_append _ owned.labels owned.not_isShared]

end Subdomains

/-- A host and all its subdomains are one party, if the host is a name of at least two labels that is
    no shared domain: they have the same registrable domain unless the subdomain is an address. The
    registrable domain of a registrable domain is the domain itself. Case and dots at the end make
    no difference to it, and it is the host in normal form or what follows one of its dots. -/
theorem subdomains_are_one_party (h : String) :
    (IsOwned h.toList → ∀ p : String,
      (registrable (p ++ "." ++ h).toList = registrable h.toList ↔
        isAddress (normal (p ++ "." ++ h).toList) = false) ∧
      ∀ q : String, isAddress (normal (p ++ "." ++ h).toList) = false →
        isAddress (normal (q ++ "." ++ h).toList) = false →
        isThirdParty (p ++ "." ++ h) h = false ∧ isThirdParty h (p ++ "." ++ h) = false ∧
          isThirdParty (p ++ "." ++ h) (q ++ "." ++ h) = false) ∧
    registrable (registrable h.toList) = registrable h.toList ∧
    (∀ (h' : String) (dots : Nat), lower h' = lower h →
      registrable (h'.toList ++ List.replicate dots '.') = registrable h.toList) ∧
    LiesIn (normal h.toList) (registrable h.toList) := by
  have split (p : String) : (p ++ "." ++ h).toList = p.toList ++ '.' :: h.toList := by
    simp [String.toList_append]
  refine ⟨?_, registrable_registrable _, ?_, liesIn_registrable _⟩
  · intro owned p
    have same (p : String) := owned.registrable_append_iff p.toList
    simp only [← split] at same
    refine ⟨same p, fun q name name' => ?_⟩
    simp only [isThirdParty, (same p).mpr name, (same q).mpr name', bne_self_eq_false, and_self]
  · intro h' dots sameLower
    have sameCase : h'.toList.map Char.toLower = h.toList.map Char.toLower :=
      String.ofList_inj.mp sameLower
    unfold registrable
    rw [normal_append_dots sameCase]

/-- Three labels under a shared domain, with other case and a dot at the end. -/
theorem subdomains_are_one_party_shared :
    let h := "Example.co.UK."
    IsOwned h.toList ∧ registrable ("1.2.." ++ "." ++ h).toList = registrable h.toList ∧
      isThirdParty ("1.2.." ++ "." ++ h) ("" ++ "." ++ h) = false ∧
      registrable ("eXAMPLE.CO.uk.".toList ++ List.replicate 2 '.') = registrable h.toList := by
  intro h
  have owned : IsOwned h.toList := ⟨by decide +kernel, by decide +kernel, by decide +kernel⟩
  have name : isAddress (normal ("1.2.." ++ "." ++ h).toList) = false := by decide +kernel
  have name' : isAddress (normal ("" ++ "." ++ h).toList) = false := by decide +kernel
  obtain ⟨parties, -, same, -⟩ := subdomains_are_one_party h
  obtain ⟨domain, party⟩ := parties owned "1.2.."
  exact ⟨owned, domain.mpr name, (party "" name name').2.2,
    same "eXAMPLE.CO.uk." 2 (by decide +kernel)⟩

end AdFilter.Host
