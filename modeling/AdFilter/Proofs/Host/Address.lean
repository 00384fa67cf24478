import AdFilter.Proofs.Text.Ascii
import AdFilter.Proofs.Text.Pieces
import AdFilter.Proofs.Text.Trimming
import AdFilter.Proofs.Url
import AdFilter.Request
import Mathlib.Data.List.Basic

/-! # Addresses as domains

The host of a URL keeps the brackets of an address, but addresses are recognized without brackets. So
an address in brackets is taken apart at its dots like a name. It has dots if it ends in four decimal
numbers, and then the last two of them are taken for its domain.
-/

namespace AdFilter.Host

open Text

/-- The characters of groups and what stands between them. -/
def isGroupsChar (c : Char) : Bool :=
  c == ':' || (Hex.digit? c).isSome

/-- The text is four decimal numbers with dots between them. -/
structure IsQuad (cs a b c d : List Char) : Prop where
  whole : cs = join '.' [a, b, c, d]
  octets : ∀ octet ∈ [a, b, c, d], isOctet octet = true

section Parts

variable {cs a b c d : List Char} {parts : List (List Char)} {quad : Bool} {n : Nat}

theorem isDigit_of_isOctet (octet : isOctet cs = true) : ∀ c ∈ cs, c.isDigit = true := by
  simp only [isOctet, Bool.and_eq_true, List.all_eq_true] at octet
  exact octet.1.1.1.1

theorem ne_nil_of_isOctet (octet : isOctet cs = true) : cs ≠ [] := by
  rintro rfl
  cases octet

theorem not_mem_of_isOctet (octet : isOctet cs = true) {x : Char} (noDigit : x.isDigit = false) :
    x ∉ cs := by
  intro member
  cases (isDigit_of_isOctet octet x member).symm.trans noDigit

theorem undotted_of_isOctet (octet : isOctet cs = true) : '.' ∉ cs :=
  not_mem_of_isOctet octet (by decide)

theorem IsQuad.pieces_eq (isQuad : IsQuad cs a b c d) : pieces '.' cs = [a, b, c, d] := by
  rw [isQuad.whole]
  refine pieces_join_of_not_mem (List.cons_ne_nil _ _) fun octet member => ?_
  exact undotted_of_isOctet (isQuad.octets octet member)

theorem isIPv4_iff : isIPv4 cs = true ↔ ∃ a b c d, IsQuad cs a b c d := by
  constructor
  · intro accepted
    simp only [isIPv4, Bool.and_eq_true, beq_iff_eq, List.all_eq_true] at accepted
    obtain ⟨a, b, c, d, four⟩ := List.length_eq_four.mp accepted.1
    have whole := join_pieces '.' cs
    rw [four] at accepted whole
    exact ⟨a, b, c, d, whole.symm, accepted.2⟩
  · rintro ⟨a, b, c, d, isQuad⟩
    simp only [isIPv4, isQuad.pieces_eq, Bool.and_eq_true, List.all_eq_true]
    exact ⟨rfl, isQuad.octets⟩

theorem IsQuad.mem (isQuad : IsQuad cs a b c d) {x : Char} (member : x ∈ cs) :
    x = '.' ∨ x.isDigit = true := by
  rw [isQuad.whole] at member
  rcases mem_of_mem_join member with same | ⟨octet, isOctet, inOctet⟩
  · exact .inl same
  · exact .inr (isDigit_of_isOctet (isQuad.octets octet isOctet) x inOctet)

theorem isGroupsChar_of_isGroup (group : isGroup cs = true) : ∀ c ∈ cs, isGroupsChar c = true := by
  intro c member
  simp only [isGroup, Bool.and_eq_true, List.all_eq_true] at group
  simp [isGroupsChar, group.1.1 c member]

theorem parts_of_groupCount? (counted : groupCount? quad parts = some n) :
    (∀ part ∈ parts, isGroup part = true) ∨ quad = true ∧ ∃ front last,
      parts = front ++ [last] ∧ (∀ part ∈ front, isGroup part = true) ∧ isIPv4 last = true := by
  fun_induction groupCount? quad parts generalizing n with
  | case1 => exact .inl (by simp)
  | case2 last group => exact .inl (by simpa using group)
  | case3 last _ isQuad =>
      obtain ⟨allowed, isQuad⟩ := Bool.and_eq_true_iff.mp isQuad
      exact .inr ⟨allowed, [], last, rfl, by simp, isQuad⟩
  | case4 => cases counted
  | case5 group rest _ isGroup ih =>
      obtain ⟨m, counted, -⟩ := Option.map_eq_some_iff.mp counted
      rcases ih counted with groups | ⟨allowed, front, last, rfl, groups, isQuad⟩
      · exact .inl (List.forall_mem_cons.mpr ⟨isGroup, groups⟩)
      · exact .inr ⟨allowed, group :: front, last, rfl,
          List.forall_mem_cons.mpr ⟨isGroup, groups⟩, isQuad⟩
  | case6 => cases counted

/-- The text has only characters of groups, but perhaps four decimal numbers at its end. -/
def EndsGroups (quad : Bool) (cs : List Char) : Prop :=
  (∀ c ∈ cs, isGroupsChar c = true) ∨ quad = true ∧ ∃ front four,
    cs = front ++ four ∧ (∀ c ∈ front, isGroupsChar c = true) ∧ isIPv4 four = true

theorem endsGroups_of_partCount? (counted : partCount? quad cs = some n) : EndsGroups quad cs := by
  rw [partCount?] at counted
  split at counted
  · rename_i empty
    exact .inl (by simp [List.isEmpty_iff.mp empty])
  · have whole := join_pieces ':' cs
    rcases parts_of_groupCount? counted with groups | ⟨allowed, front, last, split, groups, isQuad⟩
    · refine .inl fun c member => ?_
      rw [← whole] at member
      rcases mem_of_mem_join member with rfl | ⟨part, isPart, inPart⟩
      · rfl
      · exact isGroupsChar_of_isGroup (groups part isPart) c inPart
    · rw [split, join_concat] at whole
      refine .inr ⟨allowed, _, last, whole.symm, fun c member => ?_, isQuad⟩
      obtain ⟨part, isPart, inPart⟩ := List.mem_flatMap.mp member
      rcases List.mem_append.mp inPart with inPart | colon
      · exact isGroupsChar_of_isGroup (groups part isPart) c inPart
      · obtain rfl := List.mem_singleton.mp colon
        rfl

theorem cutAtGap?_eq_some {front back : List Char} (cut : cutAtGap? cs = some (front, back)) :
    cs = front ++ ':' :: ':' :: back := by
  fun_induction cutAtGap? cs generalizing front with
  | case1 rest =>
      cases cut
      rfl
  | case2 c cs _ ih =>
      obtain ⟨⟨front', back'⟩, cut, same⟩ := Option.map_eq_some_iff.mp cut
      cases same
      rw [ih cut]
      rfl
  | case3 => cases cut

theorem endsGroups_of_isIPv6 (accepted : isIPv6 cs = true) : EndsGroups true cs := by
  unfold isIPv6 at accepted
  split at accepted
  · exact endsGroups_of_partCount? (beq_iff_eq.mp accepted)
  · rename_i front back cut
    split at accepted
    · rename_i m n counted counted'
      rw [cutAtGap?_eq_some cut]
      have frontGroups : ∀ c ∈ front ++ [':', ':'], isGroupsChar c = true := by
        rcases endsGroups_of_partCount? counted with groups | ⟨forbidden, -⟩
        · exact List.forall_mem_append.mpr ⟨groups, by simp [isGroupsChar]⟩
        · cases forbidden
      rcases endsGroups_of_partCount? counted' with groups | ⟨-, front', four, rfl, groups, isQuad⟩
      · refine .inl ?_
        have all := List.forall_mem_append.mpr ⟨frontGroups, groups⟩
        simpa using all
      · refine .inr ⟨rfl, front ++ [':', ':'] ++ front', four, by simp, ?_, isQuad⟩
        exact List.forall_mem_append.mpr ⟨frontGroups, groups⟩
    · cases accepted

end Parts

/-- The host of a URL is an address: four decimal numbers, or hexadecimal groups in brackets. -/
inductive IsAddressHost : List Char → Prop where
  | quad {cs} : isIPv4 cs = true → IsAddressHost cs
  | groups {cs} : isIPv6 cs = true → IsAddressHost ('[' :: cs ++ [']'])

/-- The host is an address in brackets that ends in four decimal numbers, and these are the last
two of them. -/
def EndsInQuad (host c d : List Char) : Prop :=
  ∃ front four a b, host = '[' :: (front ++ four) ++ [']'] ∧ '.' ∉ front ∧ IsQuad four a b c d

section Domains

variable {host cs a b c d : List Char}

theorem dot_mem_map_toLower : '.' ∈ cs.map Char.toLower ↔ '.' ∈ cs := by
  rw [List.mem_map]
  constructor
  · rintro ⟨x, member, same⟩
    rwa [← (toLower_eq_iff (by decide)).mp same]
  · exact fun member => ⟨'.', member, by decide⟩

theorem IsQuad.map_toLower (isQuad : IsQuad cs a b c d) : cs.map Char.toLower = cs := by
  refine (List.map_congr_left fun x member => ?_).trans (List.map_id cs)
  rcases isQuad.mem member with rfl | digit
  · decide
  · exact toLower_of_isDigit digit

theorem IsQuad.getLast? (isQuad : IsQuad cs a b c d) : cs.getLast? ≠ some '.' := by
  have octet : isOctet d = true := isQuad.octets d (by simp)
  have whole : cs = [a, b, c].flatMap (· ++ ['.']) ++ d := isQuad.whole.trans (join_concat [a, b, c] d)
  rw [whole, List.getLast?_append_of_ne_nil _ (ne_nil_of_isOctet octet)]
  intro dot
  exact undotted_of_isOctet octet (List.mem_of_getLast? dot)

theorem normal_of_getLast? (solid : host.getLast? ≠ some '.') :
    normal host = host.map Char.toLower := by
  rw [normal, dropEndWhile_eq_self]
  intro x last
  rw [beq_eq_false_iff_ne]
  rintro rfl
  exact solid last

theorem not_bracket_of_isAddress (accepted : isAddress cs = true) : '[' ∉ cs := by
  have quads {cs : List Char} (isQuad : isIPv4 cs = true) : '[' ∉ cs := by
    obtain ⟨a, b, c, d, isQuad⟩ := isIPv4_iff.mp isQuad
    intro bracket
    rcases isQuad.mem bracket with dot | digit
    · cases dot
    · cases digit
  have groups {cs : List Char} (groups : ∀ c ∈ cs, isGroupsChar c = true) : '[' ∉ cs :=
    fun bracket => absurd (groups '[' bracket) (by decide)
  rcases Bool.or_eq_true_iff.mp accepted with isQuad | accepted
  · exact quads isQuad
  · rcases endsGroups_of_isIPv6 accepted with all | ⟨-, front, four, rfl, all, isQuad⟩
    · exact groups all
    · exact List.not_mem_append (groups all) (quads isQuad)

theorem registrable_of_isIPv4 (isQuad : isIPv4 host = true) :
    registrable host = host.map Char.toLower := by
  obtain ⟨a, b, c, d, parts⟩ := isIPv4_iff.mp isQuad
  have isAddress : isAddress (normal host) = true := by
    rw [normal_of_getLast? parts.getLast?, parts.map_toLower, isAddress, isQuad, Bool.true_or]
  rw [registrable, if_pos isAddress, normal_of_getLast? parts.getLast?]

theorem registrable_bracketed (cs : List Char) :
    registrable ('[' :: cs ++ [']']) = join '.'
      (registrableLabels (pieces '.' (('[' :: cs ++ [']']).map Char.toLower))) := by
  have solid : ('[' :: cs ++ [']']).getLast? ≠ some '.' := by
    rw [List.getLast?_concat]
    decide
  have noAddress : ¬ isAddress (('[' :: cs ++ [']']).map Char.toLower) = true := by
    intro accepted
    exact not_bracket_of_isAddress accepted (by simp [show Char.toLower '[' = '[' from rfl])
  rw [registrable, normal_of_getLast? solid, if_neg noAddress]

theorem registrable_of_undotted (undotted : '.' ∉ cs) :
    registrable ('[' :: cs ++ [']']) = ('[' :: cs ++ [']']).map Char.toLower := by
  have noDot : '.' ∉ ('[' :: cs ++ [']']).map Char.toLower := by
    rw [dot_mem_map_toLower]
    simp [undotted]
  rw [registrable_bracketed, pieces_of_not_mem noDot]
  rfl

theorem not_isShared_of_bracket {labels : List (List Char)} (bracket : ']' ∈ join '.' labels) :
    isShared labels = false := by
  have none : ∀ name ∈ sharedDomains, ']' ∉ name.toList := by decide
  rw [isShared, List.contains_eq_mem, decide_eq_false_iff_not]
  intro shared
  refine none _ shared ?_
  rwa [String.toList_ofList]

theorem pieces_of_last {d : List Char} (first : isOctet c = true) (second : isOctet d = true) :
    pieces '.' (c ++ '.' :: d ++ [']']) = [c, d ++ [']']] := by
  rw [List.append_assoc, List.cons_append, pieces_append, pieces_of_not_mem (undotted_of_isOctet first),
    pieces_of_not_mem (by simp [undotted_of_isOctet second])]
  rfl

/-- The domain of an address in brackets that ends in four decimal numbers is the last two of them
    and the bracket. -/
theorem registrable_of_endsInQuad (ends : EndsInQuad host c d) :
    registrable host = c ++ '.' :: d ++ [']'] := by
  obtain ⟨front, four, a, b, rfl, undotted, isQuad⟩ := ends
  have octet := isQuad.octets
  simp only [List.forall_mem_cons, List.not_mem_nil, false_implies, implies_true, and_true] at octet
  obtain ⟨octetA, octetB, octetC, octetD⟩ := octet
  have lowered : ('[' :: (front ++ four) ++ [']']).map Char.toLower =
      ('[' :: front.map Char.toLower ++ a) ++ '.' :: (b ++ '.' :: (c ++ '.' :: d ++ [']'])) := by
    have whole : four = a ++ '.' :: (b ++ '.' :: (c ++ '.' :: d)) := isQuad.whole
    rw [List.map_append, List.map_cons, List.map_append, isQuad.map_toLower, whole]
    simp [show Char.toLower '[' = '[' from rfl, show Char.toLower ']' = ']' from rfl]
  have first : '.' ∉ '[' :: front.map Char.toLower ++ a := by
    simp [undotted_of_isOctet octetA, dot_mem_map_toLower, undotted]
  have labels : pieces '.' (('[' :: (front ++ four) ++ [']']).map Char.toLower) =
      ['[' :: front.map Char.toLower ++ a, b, c, d ++ [']']] := by
    rw [lowered, pieces_append, pieces_append, pieces_of_not_mem first,
      pieces_of_not_mem (undotted_of_isOctet octetB), pieces_of_last octetC octetD]
    rfl
  have notShared : isShared [c, d ++ [']']] = false :=
    not_isShared_of_bracket (by simp [join])
  rw [registrable_bracketed, labels]
  simp [registrableLabels, notShared, join]

theorem EndsInQuad.octets (ends : EndsInQuad host c d) : isOctet c = true ∧ isOctet d = true := by
  obtain ⟨front, four, a, b, -, -, isQuad⟩ := ends
  exact ⟨isQuad.octets c (by simp), isQuad.octets d (by simp)⟩

theorem EndsInQuad.mem (ends : EndsInQuad host c d) : '[' ∈ host ∧ '.' ∈ host := by
  obtain ⟨front, four, a, b, rfl, -, isQuad⟩ := ends
  rw [isQuad.whole]
  simp [join]

theorem EndsInQuad.eq_of_registrable {host' c' d' : List Char} (ends : EndsInQuad host c d)
    (ends' : EndsInQuad host' c' d') (same : registrable host = registrable host') :
    c = c' ∧ d = d' := by
  rw [registrable_of_endsInQuad ends, registrable_of_endsInQuad ends'] at same
  have cut := congrArg (pieces '.') same
  rw [pieces_of_last ends.octets.1 ends.octets.2, pieces_of_last ends'.octets.1 ends'.octets.2] at cut
  simp only [List.cons.injEq, List.append_cancel_right_eq, and_true] at cut
  exact cut

theorem EndsInQuad.registrable_ne (ends : EndsInQuad host c d) (cs : List Char) (bracket : '[' ∈ cs) :
    registrable host ≠ cs := by
  rintro rfl
  rw [registrable_of_endsInQuad ends] at bracket
  simp [not_mem_of_isOctet ends.octets.1, not_mem_of_isOctet ends.octets.2] at bracket

theorem IsAddressHost.cases (isAddress : IsAddressHost host) :
    (registrable host = host.map Char.toLower ∧ (isIPv4 host = true ∨ '.' ∉ host)) ∨
    (¬ (isIPv4 host = true ∨ '.' ∉ host) ∧ ∃ c d, EndsInQuad host c d) := by
  cases isAddress with
  | quad isQuad =>
      exact .inl ⟨registrable_of_isIPv4 isQuad, .inl isQuad⟩
  | @groups cs accepted =>
      by_cases dotted : '.' ∈ cs
      · have noGroupsChar : ¬ isGroupsChar '.' = true := by decide
        rcases endsGroups_of_isIPv6 accepted with all | ⟨-, front, four, rfl, all, isQuad⟩
        · exact absurd (all '.' dotted) noGroupsChar
        · obtain ⟨a, b, c, d, isQuad⟩ := isIPv4_iff.mp isQuad
          have ends : EndsInQuad ('[' :: (front ++ four) ++ [']']) c d :=
            ⟨front, four, a, b, rfl, fun dot => noGroupsChar (all '.' dot), isQuad⟩
          refine .inr ⟨?_, c, d, ends⟩
          rintro (isQuad | undotted)
          · exact not_bracket_of_isAddress (Bool.or_eq_true_iff.mpr (.inl isQuad)) ends.mem.1
          · exact undotted ends.mem.2
      · have undotted : '.' ∉ '[' :: cs ++ [']'] := by simp [dotted]
        exact .inl ⟨registrable_of_undotted dotted, .inr undotted⟩

theorem EndsInQuad.registrable_ne_of_own {host' : List Char} (ends : EndsInQuad host c d)
    (own : isIPv4 host' = true ∨ '.' ∉ host') : registrable host ≠ host'.map Char.toLower := by
  rw [registrable_of_endsInQuad ends]
  intro same
  rcases own with isQuad | undotted
  · obtain ⟨a, b, c', d', isQuad⟩ := isIPv4_iff.mp isQuad
    have bracket : ']' ∈ host' := by
      rw [← isQuad.map_toLower, ← same]
      simp
    rcases isQuad.mem bracket with dot | digit
    · cases dot
    · cases digit
  · refine undotted (dot_mem_map_toLower.mp ?_)
    rw [← same]
    simp

theorem IsAddressHost.normal_eq (isAddress : IsAddressHost host) :
    normal host = host.map Char.toLower := by
  apply normal_of_getLast?
  cases isAddress with
  | quad isQuad =>
      obtain ⟨a, b, c, d, isQuad⟩ := isIPv4_iff.mp isQuad
      exact isQuad.getLast?
  | groups =>
      rw [List.getLast?_concat]
      decide

/-- Two addresses have the same domain if they are the same but for case, or end in the same two
    numbers. -/
theorem IsAddressHost.registrable_eq_iff {host' : List Char} (isAddress : IsAddressHost host)
    (isAddress' : IsAddressHost host') : registrable host = registrable host' ↔
      host.map Char.toLower = host'.map Char.toLower ∨
        ∃ c d, EndsInQuad host c d ∧ EndsInQuad host' c d := by
  constructor
  · intro same
    rcases isAddress.cases with ⟨is, own⟩ | ⟨-, c, d, ends⟩ <;>
      rcases isAddress'.cases with ⟨is', own'⟩ | ⟨-, c', d', ends'⟩
    · exact .inl (is.symm.trans (same.trans is'))
    · exact absurd (same.symm.trans is) (ends'.registrable_ne_of_own own)
    · exact absurd (same.trans is') (ends.registrable_ne_of_own own')
    · obtain ⟨rfl, rfl⟩ := ends.eq_of_registrable ends' same
      exact .inr ⟨c, d, ends, ends'⟩
  · rintro (same | ⟨c, d, ends, ends'⟩)
    · unfold registrable
      rw [isAddress.normal_eq, isAddress'.normal_eq, same]
    · rw [registrable_of_endsInQuad ends, registrable_of_endsInQuad ends']

end Domains

/-- An address in a URL is its own domain if it is four decimal numbers or has no dots. If it is one
    in brackets with dots, it ends in four decimal numbers, and its domain is the last two of them
    with the closing bracket. So two addresses count as one party if and only if they are the same
    but for case or end in the same two numbers. -/
theorem address_is_own_domain_iff {host : String} (isAddress : IsAddressHost host.toList) :
    (registrable host.toList = host.toList.map Char.toLower ↔
      isIPv4 host.toList = true ∨ '.' ∉ host.toList) ∧
    (¬ (isIPv4 host.toList = true ∨ '.' ∉ host.toList) →
      ∃ c d, EndsInQuad host.toList c d ∧ registrable host.toList = c ++ '.' :: d ++ [']']) ∧
    ∀ (host' url url' : String) (types : TypeMask), IsAddressHost host'.toList →
      Url.host? url = some host → Url.host? url' = some host' →
      ((Request.ofUrls url types (some url')).thirdParty = false ↔
        host.toList.map Char.toLower = host'.toList.map Char.toLower ∨
          ∃ c d, EndsInQuad host.toList c d ∧ EndsInQuad host'.toList c d) := by
  refine ⟨?_, ?_, ?_⟩
  · rcases isAddress.cases with ⟨is, own⟩ | ⟨other, c, d, ends⟩
    · exact iff_of_true is own
    · refine iff_of_false (ends.registrable_ne _ ?_) other
      exact List.mem_map.mpr ⟨'[', ends.mem.1, rfl⟩
  · intro other
    rcases isAddress.cases with ⟨-, own⟩ | ⟨-, c, d, ends⟩
    · exact absurd own other
    · exact ⟨c, d, ends, registrable_of_endsInQuad ends⟩
  · intro host' url url' types isAddress' hasHost hasHost'
    have thirdParty : (Request.ofUrls url types (some url')).thirdParty =
        (host' != "" && isThirdParty host' host) := by
      simp only [Request.ofUrls, hasHost, hasHost', Option.bind_some, Option.getD_some]
    rw [thirdParty, bne_iff_ne.mpr (Url.host_ne_empty hasHost'), Bool.true_and, isThirdParty,
      bne_eq_false_iff_eq, eq_comm, isAddress.registrable_eq_iff isAddress']

/-- An address without dots, and one that ends in four decimal numbers. -/
theorem address_is_own_domain_iff_undotted :
    IsAddressHost "[2001:DB8::1]".toList ∧
    registrable "[2001:DB8::1]".toList = "[2001:db8::1]".toList ∧
    (Request.ofUrls "http://[2001:DB8::1]:80/" ContentType.script.mask
      (some "http://a@[::ffff:1.2.3.4]/")).thirdParty = true := by
  have isAddress : IsAddressHost "[2001:DB8::1]".toList :=
    .groups (show isIPv6 "2001:DB8::1".toList = true by decide +kernel)
  have isAddress' : IsAddressHost "[::ffff:1.2.3.4]".toList :=
    .groups (show isIPv6 "::ffff:1.2.3.4".toList = true by decide +kernel)
  obtain ⟨own, -, parties⟩ := address_is_own_domain_iff isAddress
  have undotted : '.' ∉ "[2001:DB8::1]".toList := by decide +kernel
  have lowered : "[2001:DB8::1]".toList.map Char.toLower = "[2001:db8::1]".toList := by
    decide +kernel
  refine ⟨isAddress, (own.mpr (.inr undotted)).trans lowered, ?_⟩
  rw [← Bool.not_eq_false, parties "[::ffff:1.2.3.4]" _ _ _ isAddress' (by decide +kernel)
    (by decide +kernel)]
  rintro (same | ⟨c, d, ends, -⟩)
  · revert same
    decide +kernel
  · exact undotted ends.mem.2

/-- Two addresses that end in four decimal numbers count as one party, as the last two numbers are
    the same. -/
theorem bracketed_quads_share_domain :
    Url.host? "http://[::ffff:1.2.3.4]/" = some "[::ffff:1.2.3.4]" ∧
    IsAddressHost "[::ffff:1.2.3.4]".toList ∧
    registrable "[::ffff:1.2.3.4]".toList = "3.4]".toList ∧
    Url.host? "http://[::9.9.3.4]/" = some "[::9.9.3.4]" ∧
    IsAddressHost "[::9.9.3.4]".toList ∧
    (Request.ofUrls "http://[::ffff:1.2.3.4]/" ContentType.script.mask
      (some "http://[::9.9.3.4]/")).thirdParty = false := by
  refine ⟨by decide +kernel, ?_, by decide +kernel, by decide +kernel, ?_, by decide +kernel⟩
  · exact .groups (show isIPv6 "::ffff:1.2.3.4".toList = true by decide +kernel)
  · exact .groups (show isIPv6 "::9.9.3.4".toList = true by decide +kernel)

end AdFilter.Host
