import AdFilter.Proofs.Hiding.Groups

/-! # The lines that hide elements

A line hides elements if it can be split at a number sign into domains and something to hide, and
the first number sign where that works counts. Leaving out the empty items of the list of domains
makes no difference to the documents that the rule applies on.
-/

namespace AdFilter

open Text

namespace Restriction

theorem foldl_add_filter (items : List (List Char)) (r : Restriction) :
    (items.filter (!·.isEmpty)).foldl add r = items.foldl add r := by
  induction items generalizing r with
  | nil => rfl
  | cons item items ih =>
      cases item with
      | nil => exact ih r
      | cons c item => exact ih (r.add (c :: item))

end Restriction

namespace Hiding

theorem pieces_normalDomains {list : List Char}
    (some : (pieces ',' list).filter (!·.isEmpty) ≠ []) :
    pieces ',' (normalDomains list) = (pieces ',' list).filter (!·.isEmpty) := by
  refine pieces_join_of_not_mem some fun part member comma => ?_
  exact (mem_of_mem_pieces (List.mem_filter.mp member).1 comma).2 rfl

/-- The list without its empty items restricts a rule as the list itself does. -/
theorem ofList_normalDomains (list : List Char) :
    Restriction.ofList ',' (String.ofList (normalDomains list)) =
      Restriction.ofList ',' (String.ofList list) := by
  unfold Restriction.ofList
  rw [String.toList_ofList, String.toList_ofList,
    ← Restriction.foldl_add_filter (pieces ',' list)]
  by_cases some : (pieces ',' list).filter (!·.isEmpty) = []
  · rw [normalDomains, some]
    rfl
  · rw [pieces_normalDomains some]

theorem restriction_of_ruleOf {domains : List Char} {t : Target} {r : HidingRule}
    (made : ruleOf domains t = .ok r) :
    r.restriction = Restriction.ofList ',' (String.ofList domains) := by
  rw [ruleOf] at made
  cases text : t.selectorText with
  | error e =>
      rw [text] at made
      cases made
  | ok selector =>
      rw [text] at made
      rw [HidingRule.restriction, (HidingRule.eq_of_make made).2, ← ofList_normalDomains]
      by_cases nothing : String.ofList (normalDomains domains) = ""
      · rw [nothing]
        rfl
      · rw [Option.filter_some, if_pos (by simpa using nothing)]
        rfl

namespace Target

/-- What is hidden can be written behind a number sign. -/
inductive WellFormed : Target → Prop where
  | tagged {tag groups} : tag = ['*'] ∨ IsName tag → (∀ g ∈ groups, g.WellFormed) →
      WellFormed (.tagged tag groups)
  | selector {text} : text ≠ [] → (∀ c ∈ text, c ≠ '\x7B' ∧ c ≠ '\x7D') →
      WellFormed (.selector text)

variable {cs tag rest : List Char} {t : Target}

theorem isTag_of_cutTag? (h : cutTag? cs = some (tag, rest)) : tag = ['*'] ∨ IsName tag := by
  unfold cutTag? at h
  split at h
  · cases h
    exact .inl rfl
  · split at h
    · cases h
    · rename_i nonempty
      cases h
      exact .inr (Group.isName_takeWhile (Bool.eq_false_iff.mpr nonempty))

theorem cutTag?_append (isTag : tag = ['*'] ∨ IsName tag)
    (ends : ∀ c ∈ rest.head?, isNameChar c = false) : cutTag? (tag ++ rest) = some (tag, rest) := by
  rcases isTag with rfl | ⟨nonempty, isName⟩
  · rfl
  · have taken : (tag ++ rest).takeWhile isNameChar = tag := by
      cases rest with
      | nil => simpa using isName
      | cons c rest => simp [List.takeWhile_append_of_pos isName, ends c rfl]
    have left : (tag ++ rest).dropWhile isNameChar = rest := by
      cases rest with
      | nil => simpa using isName
      | cons c rest => simp [List.dropWhile_append_of_pos isName, ends c rfl]
    unfold cutTag?
    split
    · rename_i rest' star
      obtain ⟨c, tag, rfl⟩ := List.exists_cons_of_ne_nil nonempty
      cases star
      exact absurd (isName '*' List.mem_cons_self) (by decide)
    · rw [taken, left, if_neg (by simpa using nonempty)]

theorem ne_sign_of_isTag (isTag : tag = ['*'] ∨ IsName tag) : tag ++ rest ≠ '#' :: cs := by
  rintro same
  rcases isTag with rfl | ⟨nonempty, isName⟩
  · cases same
  · obtain ⟨c, tag, rfl⟩ := List.exists_cons_of_ne_nil nonempty
    cases same
    exact absurd (isName '#' List.mem_cons_self) (by decide)

theorem wellFormed_of_read? (h : read? cs = some t) : t.WellFormed := by
  unfold read? at h
  split at h
  · split at h
    · rename_i text allowed
      cases h
      exact .selector (by simpa using allowed.1) (by simpa using allowed.2)
    · cases h
  · obtain ⟨⟨tag, rest⟩, cut, h⟩ := Option.bind_eq_some_iff.mp h
    obtain ⟨groups, read, rfl⟩ := Option.map_eq_some_iff.mp h
    exact .tagged (isTag_of_cutTag? cut) (Group.wellFormed_of_readAll? read)

theorem head?_flatMap_write (groups : List Group) :
    ∀ c ∈ (groups.flatMap Group.write).head?, isNameChar c = false := by
  intro c first
  match groups with
  | [] => cases first
  | .id _ :: _ | .attribute _ _ _ :: _ =>
      cases first
      decide

theorem read?_write (wellFormed : t.WellFormed) : read? t.write = some t := by
  cases wellFormed with
  | selector nonempty allowed =>
      rw [write, read?, if_pos]
      exact ⟨by simpa using nonempty, by simpa using allowed⟩
  | tagged isTag groups =>
      unfold write read?
      split
      · rename_i sign
        exact absurd sign (ne_sign_of_isTag isTag)
      · rw [cutTag?_append isTag (head?_flatMap_write _)]
        simp [Group.readAll?_flatMap_write groups]

end Target

/-- The line is split at a number sign into domains and what is hidden on them. -/
structure SplitsAt (line domains : List Char) (t : Target) : Prop where
  whole : line = domains ++ '#' :: t.write
  allowed : ∀ c ∈ domains, endsDomains c = false
  target : t.WellFormed

/-- The line is split there, and at no number sign before. -/
structure SplitsFirstAt (line domains : List Char) (t : Target) : Prop extends
    SplitsAt line domains t where
  first : ∀ domains' t', SplitsAt line domains' t' → domains.length ≤ domains'.length

section Splitting

variable {line domains domains' : List Char} {t t' : Target}

theorem SplitsAt.eq_of_length (h : SplitsAt line domains t) (h' : SplitsAt line domains' t')
    (same : domains.length = domains'.length) : domains = domains' ∧ t = t' := by
  obtain ⟨sameDomains, rest⟩ := List.append_inj (h.whole.symm.trans h'.whole) same
  have read := Target.read?_write h.target
  rw [(List.cons.inj rest).2, Target.read?_write h'.target] at read
  exact ⟨sameDomains, (Option.some.inj read).symm⟩

theorem splitsAt_of_split? (found : split? line = some (domains, t)) : SplitsAt line domains t := by
  suffices parts : (∀ c ∈ domains, endsDomains c = false) ∧ t.WellFormed from
    ⟨split?_eq_some found, parts.1, parts.2⟩
  induction line generalizing domains with
  | nil => cases found
  | cons c line ih =>
      rw [split?] at found
      split at found
      · rename_i read
        cases found
        split at read
        · exact ⟨by simp, Target.wellFormed_of_read? read⟩
        · cases read
      · split at found
        · cases found
        · rename_i allowed
          obtain ⟨⟨domains', t'⟩, found, same⟩ := Option.map_eq_some_iff.mp found
          cases same
          obtain ⟨others, target⟩ := ih found
          exact ⟨List.forall_mem_cons.mpr ⟨Bool.eq_false_iff.mpr allowed, others⟩, target⟩

theorem SplitsAt.split?_eq_some (h : SplitsAt line domains t) :
    ∃ domains' t', split? line = some (domains', t') ∧ domains'.length ≤ domains.length := by
  obtain ⟨rfl, allowed, target⟩ := h
  induction domains with
  | nil => exact ⟨[], t, by simp [split?, Target.read?_write target], Nat.le_refl _⟩
  | cons c domains ih =>
      obtain ⟨first, others⟩ := List.forall_mem_cons.mp allowed
      obtain ⟨domains', t', found, le⟩ := ih others
      rw [List.cons_append, split?]
      split
      · rename_i before _
        exact ⟨[], before, rfl, Nat.zero_le _⟩
      · rw [first, if_neg Bool.false_ne_true, found]
        exact ⟨c :: domains', t', rfl, Nat.succ_le_succ le⟩

/-- A line is split at the first number sign where it can be. -/
theorem split?_eq_some_iff : split? line = some (domains, t) ↔ SplitsFirstAt line domains t := by
  rw [eq_some_iff_first (fun _ _ => splitsAt_of_split?) (fun _ _ => SplitsAt.split?_eq_some)
    fun _ _ _ _ => SplitsAt.eq_of_length]
  exact ⟨fun ⟨h, first⟩ => ⟨h, first⟩, fun h => ⟨h.toSplitsAt, h.first⟩⟩

theorem isSome_split?_iff : (split? line).isSome = true ↔ ∃ domains t, SplitsAt line domains t := by
  rw [Option.isSome_iff_exists]
  constructor
  · rintro ⟨⟨domains, t⟩, found⟩
    exact ⟨domains, t, splitsAt_of_split? found⟩
  · rintro ⟨domains, t, h⟩
    obtain ⟨domains', t', found, -⟩ := h.split?_eq_some
    exact ⟨_, found⟩

end Splitting

theorem rule?_cases {line : String} {domains : List Char} {t : Target}
    (found : split? line.toList = some (domains, t)) :
    (∃ e, rule? line = some (.invalid (.unbuildable e)) ∧ (t.selectorText = .error e ∨
      ∃ text, t.selectorText = .ok text ∧ blank (String.ofList text) = true ∧
        e = .emptySelector)) ∨
    ∃ r, rule? line = some (.hide r) ∧ ruleOf domains t = .ok r ∧
      t.selectorText = .ok r.selector.toList := by
  rw [rule?_eq, found, Option.map_some]
  cases text : t.selectorText with
  | error e =>
      refine .inl ⟨e, ?_, .inl rfl⟩
      simp only [ruleOf, text]
      rfl
  | ok selector =>
      cases solid : blank (String.ofList selector) with
      | true =>
          refine .inl ⟨.emptySelector, ?_, .inr ⟨selector, rfl, solid, rfl⟩⟩
          simp only [ruleOf, text, Bind.bind, Except.bind, HidingRule.make, solid]
          rfl
      | false =>
          obtain ⟨r, made⟩ :=
            HidingRule.make_of_solid (Option.some (String.ofList (normalDomains domains))) solid
          have built : ruleOf domains t = .ok r := by
            rw [ruleOf, text]
            exact made
          refine .inr ⟨r, by simp only [built], built, ?_⟩
          rw [(HidingRule.eq_of_make made).1, String.toList_ofList]

theorem rule?_of_solid {line : String} {domains text : List Char} {t : Target}
    (found : split? line.toList = some (domains, t)) (made : t.selectorText = .ok text)
    (solid : blank (String.ofList text) = false) :
    ∃ r, rule? line = some (.hide r) ∧ r.selector = String.ofList text := by
  rcases rule?_cases found with
    ⟨e, -, isError | ⟨text', made', isBlank, -⟩⟩ | ⟨r, isRule, -, made'⟩
  · cases made.symm.trans isError
  · cases made.symm.trans made'
    cases solid.symm.trans isBlank
  · cases made.symm.trans made'
    exact ⟨r, isRule, String.ofList_toList.symm⟩

/-- A line is one that hides elements exactly if it can be split at a number sign into domains and
    what is hidden on them, and the first such sign counts. Then the line has a rule: it is invalid
    if no selector can be made or the selector is blank, and otherwise its selector is the one made,
    which is the text itself where one is written, and it applies on the documents that the text in
    front of the sign names as a list. -/
theorem hides_by_first_split (line : String) :
    (isHidingLine line = true ↔ ∃ domains t, SplitsAt line.toList domains t) ∧
    ((rule? line).isSome = true ↔ ∃ domains t, SplitsAt line.toList domains t) ∧
    (∀ domains t, split? line.toList = some (domains, t) ↔ SplitsFirstAt line.toList domains t) ∧
    ∀ domains t, SplitsFirstAt line.toList domains t →
      (∃ e, rule? line = some (.invalid (.unbuildable e)) ∧ (t.selectorText = .error e ∨
        ∃ text, t.selectorText = .ok text ∧ blank (String.ofList text) = true ∧
          e = .emptySelector)) ∨
      ∃ r, rule? line = some (.hide r) ∧ t.selectorText = .ok r.selector.toList ∧
        (∀ text, t = .selector text → r.selector.toList = text) ∧ blank r.selector = false ∧
        ∀ host, (Rule.hide r).isActiveOn host =
          (Restriction.ofList ',' (String.ofList domains)).isActiveOn host := by
  refine ⟨isSome_split?_iff, ?_, fun domains t => split?_eq_some_iff, ?_⟩
  · rw [rule?_eq, Option.isSome_map, isSome_split?_iff]
  · intro domains t h
    rcases rule?_cases (split?_eq_some_iff.mpr h) with invalid | ⟨r, isRule, built, made⟩
    · exact .inl invalid
    · refine .inr ⟨r, isRule, made, ?_, r.selector_not_blank, fun host => ?_⟩
      · rintro text rfl
        exact (Except.ok.inj made).symm
      · rw [Rule.isActiveOn, restriction_of_ruleOf built]

/-- The first number sign leads to no tag, as a bracket follows it; the second one does. -/
example : split? "a#[b],,c##x".toList = some ("a#[b],,c".toList, .selector ['x']) := by
  decide +kernel

end Hiding

end AdFilter
