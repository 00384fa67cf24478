import AdFilter.Proofs.Host.Suffixes
import AdFilter.Proofs.Text.Ascii
import AdFilter.Proofs.Text.Pieces
import AdFilter.Proofs.Text.Trimming
import AdFilter.Restriction

/-! # Lists of domains

The items of a list of domains are trimmed, so blanks at its end say nothing. What a list comes to
is the set of the names it includes and the set of those it excludes, and of the named domains
that a document lies in the longest one decides.
-/

namespace AdFilter.Restriction

open Text

theorem add_congr {item item' : List Char} (same : trimList item = trimList item')
    (r : Restriction) : r.add item = r.add item' := by
  unfold add
  rw [same]

theorem ofList_dropReturns {separator : Char} (other : separator ≠ '\r') (list : String) :
    ofList separator (dropReturns list) = ofList separator list := by
  obtain ⟨dropped, whole, returns⟩ := dropEndWhile_append_dropped (· == '\r') list.toList
  have none : separator ∉ dropped := fun member => other (beq_iff_eq.mp (returns _ member))
  have blanks : ∀ c ∈ dropped, isBlank c = true := fun c member =>
    isBlank_of_isReturn c (returns c member)
  obtain ⟨init, last, cut, cut'⟩ :=
    pieces_append_of_not_mem none (dropEndWhile (· == '\r') list.toList)
  rw [← whole] at cut'
  rw [ofList, ofList, dropReturns, String.toList_ofList, cut, cut', List.foldl_append,
    List.foldl_append]
  exact add_congr (trimList_append_of_blank blanks last).symm _

section Naming

/-- An item of a list in upper case, without the blanks around it. -/
def token (item : List Char) : List Char :=
  (trimList item).map Char.toUpper

def tokens (separator : Char) (list : String) : List (List Char) :=
  (pieces separator list.toList).map token

/-- A token names a domain, as one to apply on (`true`) or, behind a tilde, as one to keep away
    from (`false`). -/
inductive Names : List Char → Bool → List Char → Prop where
  | included {name} : name ≠ [] → name.head? ≠ some '~' → Names name true name
  | excluded {name} : name ≠ [] → Names ('~' :: name) false name

/-- One of the tokens names the domain. -/
def NamedBy (tokens : List (List Char)) (included : Bool) (name : List Char) : Prop :=
  ∃ token ∈ tokens, Names token included name

/-- The domains of one kind that the restriction holds. -/
def domains? (r : Restriction) (included : Bool) : Option (List String) :=
  if included then r.include? else r.exclude?

def insert (r : Restriction) (included : Bool) (domain : String) : Restriction :=
  if included then { r with include? := insertInto r.include? domain }
  else { r with exclude? := insertInto r.exclude? domain }

/-- The restriction holds the domain as one of the kind. -/
def Holds (r : Restriction) (included : Bool) (domain : String) : Prop :=
  ∃ set ∈ r.domains? included, domain ∈ set

variable {r : Restriction} {name : List Char} {included : Bool}

theorem Names.unique {token name' : List Char} {included' : Bool} (h : Names token included name)
    (h' : Names token included' name') : included = included' ∧ name = name' := by
  cases h with
  | included _ bare =>
      cases h' with
      | included => exact ⟨rfl, rfl⟩
      | excluded => exact absurd rfl bare
  | excluded =>
      cases h' with
      | included _ bare => exact absurd rfl bare
      | excluded => exact ⟨rfl, rfl⟩

theorem add_cases (r : Restriction) (item : List Char) :
    ((∀ included name, ¬ Names (token item) included name) ∧ r.add item = r) ∨
      ∃ included name, Names (token item) included name ∧
        r.add item = r.insert included (String.ofList name) := by
  have tilde {c : Char} : c.toUpper = '~' ↔ c = '~' := toUpper_eq_iff (by decide)
  unfold add token
  cases trimList item with
  | nil =>
      refine .inl ⟨fun included name names => ?_, rfl⟩
      cases names with
      | included nonempty => exact nonempty rfl
  | cons c rest =>
      by_cases isTilde : c = '~'
      · subst isTilde
        cases rest with
        | nil =>
            refine .inl ⟨fun included name names => ?_, rfl⟩
            cases names with
            | included _ bare => exact bare rfl
            | excluded nonempty => exact nonempty rfl
        | cons d rest => exact .inr ⟨false, _, .excluded (by simp), by simp [insert, upper]⟩
      · have bare : ((c :: rest).map Char.toUpper).head? ≠ some '~' := by
          simpa [tilde] using isTilde
        exact .inr ⟨true, _, .included (by simp) bare, by simp [insert, upper, isTilde]⟩

theorem domains?_insert (kind : Bool) (domain : String) :
    (r.insert kind domain).domains? included =
      if kind = included then insertInto (r.domains? included) domain else r.domains? included := by
  cases kind <;> cases included <;> rfl

theorem exists_mem_insertInto {set : Option (List String)} {domain domain' : String} :
    (∃ members ∈ insertInto set domain', domain ∈ members) ↔
      (∃ members ∈ set, domain ∈ members) ∨ domain' = domain := by
  unfold insertInto
  cases set with
  | none => simp [eq_comm]
  | some members =>
      by_cases known : domain' ∈ members
      · simp only [Option.getD_some, List.contains_iff_mem, known, if_true, Option.mem_def,
          Option.some.injEq, exists_eq_left']
        constructor
        · exact .inl
        · rintro (member | rfl)
          · exact member
          · exact known
      · simp [known, eq_comm]

theorem insertInto_ne_nil (set : Option (List String)) (domain : String) :
    insertInto set domain ≠ some [] := by
  intro empty
  have member : ∃ members ∈ insertInto set domain, domain ∈ members :=
    exists_mem_insertInto.mpr (.inr rfl)
  rw [empty] at member
  simp at member

theorem holds_insert {kind : Bool} {domain domain' : String} :
    (r.insert kind domain').Holds included domain ↔
      r.Holds included domain ∨ (kind = included ∧ domain' = domain) := by
  unfold Holds
  rw [domains?_insert]
  split
  · rename_i same
    rw [exists_mem_insertInto]
    simp [same]
  · rename_i other
    simp [other]

theorem holds_add (r : Restriction) (item : List Char) :
    (r.add item).Holds included (String.ofList name) ↔
      r.Holds included (String.ofList name) ∨ Names (token item) included name := by
  rcases add_cases r item with ⟨silent, same⟩ | ⟨kind, name', names, added⟩
  · rw [same, or_iff_left (silent included name)]
  · rw [added, holds_insert, String.ofList_inj]
    refine or_congr_right ⟨?_, names.unique⟩
    rintro ⟨rfl, rfl⟩
    exact names

theorem domains?_add_ne_nil (item : List Char) (filled : r.domains? included ≠ some []) :
    (r.add item).domains? included ≠ some [] := by
  rcases add_cases r item with ⟨-, same⟩ | ⟨kind, name, -, added⟩
  · rwa [same]
  · rw [added, domains?_insert]
    split
    · exact insertInto_ne_nil _ _
    · exact filled

theorem holds_foldl_add (items : List (List Char)) :
    (items.foldl add r).Holds included (String.ofList name) ↔
      r.Holds included (String.ofList name) ∨ NamedBy (items.map token) included name := by
  induction items generalizing r with
  | nil => simp [NamedBy]
  | cons item items ih => simp [ih, holds_add, NamedBy, or_assoc]

theorem domains?_foldl_add_ne_nil (items : List (List Char))
    (filled : r.domains? included ≠ some []) :
    (items.foldl add r).domains? included ≠ some [] := by
  induction items generalizing r with
  | nil => exact filled
  | cons item items ih => exact ih (domains?_add_ne_nil item filled)

theorem holds_ofList {separator : Char} {list : String} :
    (ofList separator list).Holds included (String.ofList name) ↔
      NamedBy (tokens separator list) included name := by
  have start : ¬ ({} : Restriction).Holds included (String.ofList name) := by
    cases included <;> simp [Holds, domains?]
  rw [ofList, holds_foldl_add, or_iff_right start, tokens]

theorem domains?_ofList_eq_none {separator : Char} {list : String} (included : Bool) :
    (ofList separator list).domains? included = none ↔
      ∀ name, ¬ NamedBy (tokens separator list) included name := by
  have filled : (ofList separator list).domains? included ≠ some [] :=
    domains?_foldl_add_ne_nil _ (by cases included <;> simp [domains?])
  constructor
  · intro none name named
    obtain ⟨set, isSet, -⟩ := holds_ofList.mpr named
    rw [none] at isSet
    cases isSet
  · intro silent
    cases found : (ofList separator list).domains? included with
    | none => rfl
    | some set =>
        cases set with
        | nil => exact absurd found filled
        | cons domain set =>
            refine absurd (holds_ofList.mp ?_) (silent domain.toList)
            rw [String.ofList_toList]
            exact ⟨_, found, List.mem_cons_self⟩

end Naming

section Deciding

/-- The host in upper case and without dots at its end. -/
def plain (host : String) : List Char :=
  (dropEndWhile (· == '.') host.toList).map Char.toUpper

/-- Whether the domain is held as one of either kind. -/
def lists (r : Restriction) (domain : String) : Bool :=
  r.includes domain || r.excludes domain

/-- The first domain that is listed on the walk through those of a document. -/
def firstListed? (r : Restriction) (host : String) : Option (List Char) :=
  (Host.suffixes (plain host)).find? fun domain => r.lists (String.ofList domain)

/-- Of the domains that a document lies in, the longest one that is named by the tokens. -/
structure IsLongestNamed (tokens : List (List Char)) (host : String) (domain : List Char) :
    Prop where
  within : Host.LiesIn (plain host) domain
  named : ∃ included, NamedBy tokens included domain
  longest : ∀ other, Host.LiesIn (plain host) other → (∃ included, NamedBy tokens included other) →
    other.length ≤ domain.length

variable {r : Restriction}

theorem includes_iff {domain : String} : r.includes domain = true ↔ r.Holds true domain := by
  simp [includes, Holds, domains?, Option.any_eq_true]

theorem excludes_iff {domain : String} : r.excludes domain = true ↔ r.Holds false domain := by
  simp [excludes, Holds, domains?, Option.any_eq_true]

/-- The first listed domain is the one that decides, and being included counts for more than being
    excluded. -/
theorem decision?_eq (r : Restriction) (domains : List String) :
    r.decision? domains = (domains.find? r.lists).map r.includes := by
  induction domains with
  | nil => rfl
  | cons domain domains ih =>
      cases included : r.includes domain with
      | true => simp [decision?, lists, included]
      | false =>
          cases excluded : r.excludes domain with
          | true => simp [decision?, lists, included, excluded]
          | false => simp [decision?, lists, included, excluded, ih]

variable {separator : Char} {list host : String}

theorem lists_iff {name : List Char} :
    (ofList separator list).lists (String.ofList name) = true ↔
      ∃ included, NamedBy (tokens separator list) included name := by
  rw [lists, Bool.or_eq_true, includes_iff, excludes_iff, holds_ofList, holds_ofList,
    Bool.exists_bool, or_comm]

theorem isSome_firstListed? :
    ((ofList separator list).firstListed? host).isSome = true ↔
      ∃ domain included, Host.LiesIn (plain host) domain ∧
        NamedBy (tokens separator list) included domain := by
  rw [firstListed?, List.find?_isSome]
  simp only [Host.mem_suffixes_iff, lists_iff, exists_and_left]

theorem isLongestNamed_of_firstListed? {domain : List Char}
    (first : (ofList separator list).firstListed? host = some domain) :
    IsLongestNamed (tokens separator list) host domain := by
  obtain ⟨named, front, back, walk, unnamed⟩ := List.find?_eq_some_iff_append.mp first
  have ordered := Host.pairwise_suffixes (plain host)
  rw [walk, List.pairwise_append, List.pairwise_cons] at ordered
  refine ⟨Host.mem_suffixes_iff.mp (walk ▸ by simp), lists_iff.mp named, ?_⟩
  intro other within named'
  have member := Host.mem_suffixes_iff.mpr within
  rw [walk, List.mem_append, List.mem_cons] at member
  rcases member with before | rfl | behind
  · have := unnamed other before
    rw [lists_iff.mpr named'] at this
    cases this
  · exact Nat.le_refl _
  · exact Nat.le_of_lt (ordered.2.1.1 other behind)

theorem exists_longestNamed
    (named : ∃ domain included, Host.LiesIn (plain host) domain ∧
      NamedBy (tokens separator list) included domain) :
    ∃ domain, IsLongestNamed (tokens separator list) host domain := by
  obtain ⟨domain, first⟩ := Option.isSome_iff_exists.mp (isSome_firstListed?.mpr named)
  exact ⟨domain, isLongestNamed_of_firstListed? first⟩

theorem firstListed?_of_longest {domain : List Char}
    (longest : IsLongestNamed (tokens separator list) host domain) :
    (ofList separator list).firstListed? host = some domain := by
  obtain ⟨included, named⟩ := longest.named
  obtain ⟨domain', first⟩ :=
    Option.isSome_iff_exists.mp (isSome_firstListed?.mpr ⟨domain, included, longest.within, named⟩)
  have longest' := isLongestNamed_of_firstListed? first
  have same : domain.length = domain'.length :=
    Nat.le_antisymm (longest'.longest domain longest.within longest.named)
      (longest.longest domain' longest'.within longest'.named)
  rw [first, longest.within.eq_of_length longest'.within same]

theorem decision?_domainsOf (r : Restriction) (host : String) :
    r.decision? (domainsOf host) =
      (r.firstListed? host).map fun domain => r.includes (String.ofList domain) := by
  rw [decision?_eq, domainsOf, List.find?_map, Option.map_map]
  rfl

theorem isUnrestricted_ofList :
    (ofList separator list).isUnrestricted = true ↔
      ∀ included name, ¬ NamedBy (tokens separator list) included name := by
  simp only [isUnrestricted, Bool.and_eq_true, Option.isNone_iff_eq_none, Bool.forall_bool]
  rw [and_comm]
  exact and_congr (domains?_ofList_eq_none false) (domains?_ofList_eq_none true)

theorem isActiveOn_of_unnamed
    (unnamed : ∀ domain included, Host.LiesIn (plain host) domain →
      ¬ NamedBy (tokens separator list) included domain) :
    (ofList separator list).isActiveOn host = true ↔
      ∀ name, ¬ NamedBy (tokens separator list) true name := by
  have none : (ofList separator list).decision? (domainsOf host) = none := by
    rw [decision?_domainsOf, Option.map_eq_none_iff, ← Option.not_isSome_iff_eq_none,
      isSome_firstListed?]
    rintro ⟨domain, included, within, named⟩
    exact unnamed domain included within named
  rw [isActiveOn, none, Option.getD_none, Bool.or_eq_true, isUnrestricted_ofList,
    Option.isNone_iff_eq_none]
  have noInclude : (ofList separator list).include? = Option.none ↔ _ :=
    domains?_ofList_eq_none true
  constructor
  · rintro (silent | noSet)
    · exact silent true
    · exact noInclude.mp noSet
  · exact fun silent => .inr (noInclude.mpr silent)

/-- Where a domain is named, the longest one decides. -/
theorem isActiveOn_of_longest {domain : List Char}
    (longest : IsLongestNamed (tokens separator list) host domain) :
    (ofList separator list).isActiveOn host = true ↔
      NamedBy (tokens separator list) true domain := by
  have restricted : (ofList separator list).isUnrestricted = false := by
    rw [← Bool.not_eq_true, isUnrestricted_ofList]
    intro silent
    obtain ⟨included, named⟩ := longest.named
    exact silent included domain named
  rw [isActiveOn, restricted, Bool.false_or, decision?_domainsOf,
    firstListed?_of_longest longest, Option.map_some, Option.getD_some, includes_iff, holds_ofList]

/-- Only the names that a list gives and the plain form of the host count. -/
theorem isActiveOn_congr {separator' : Char} {list' host' : String}
    (sameNames : ∀ included name, NamedBy (tokens separator list) included name ↔
      NamedBy (tokens separator' list') included name)
    (sameHost : plain host = plain host') :
    (ofList separator list).isActiveOn host = true ↔
      (ofList separator' list').isActiveOn host' = true := by
  by_cases named : ∃ domain included, Host.LiesIn (plain host) domain ∧
      NamedBy (tokens separator list) included domain
  · obtain ⟨domain, longest⟩ := exists_longestNamed named
    have longest' : IsLongestNamed (tokens separator' list') host' domain := by
      obtain ⟨within, named, atLeast⟩ := longest
      simp only [sameNames, sameHost] at within named atLeast
      exact ⟨within, named, atLeast⟩
    rw [isActiveOn_of_longest longest, isActiveOn_of_longest longest', sameNames]
  · have unnamed : ∀ domain included, Host.LiesIn (plain host) domain →
        ¬ NamedBy (tokens separator list) included domain :=
      fun domain included within named' => named ⟨domain, included, within, named'⟩
    have unnamed' := unnamed
    simp only [sameNames, sameHost] at unnamed'
    rw [isActiveOn_of_unnamed unnamed, isActiveOn_of_unnamed unnamed']
    simp only [sameNames]

/-- A restriction that names no domain applies everywhere. Otherwise the longest domain that is
    named and that the document lies in decides: the restriction applies if that domain is
    included, whether it is excluded as well or not. If none is named, it applies if nothing is
    included. So order, repetition and case of the tokens, empty tokens, case of the host and dots
    at its end make no difference. -/
theorem longest_named_domain_decides (separator : Char) (list host : String) :
    ((∀ included name, ¬ NamedBy (tokens separator list) included name) →
      (ofList separator list).isActiveOn host = true) ∧
    (∀ domain, IsLongestNamed (tokens separator list) host domain →
      ((ofList separator list).isActiveOn host = true ↔
        NamedBy (tokens separator list) true domain)) ∧
    ((∃ domain included, Host.LiesIn (plain host) domain ∧
        NamedBy (tokens separator list) included domain) →
      ∃ domain, IsLongestNamed (tokens separator list) host domain) ∧
    ((∀ domain included, Host.LiesIn (plain host) domain →
        ¬ NamedBy (tokens separator list) included domain) →
      ((ofList separator list).isActiveOn host = true ↔
        ∀ name, ¬ NamedBy (tokens separator list) true name)) ∧
    ∀ (separator' : Char) (list' host' : String),
      (∀ token, token ≠ [] → (token ∈ tokens separator list ↔ token ∈ tokens separator' list')) →
      plain host = plain host' →
      (ofList separator list).isActiveOn host = (ofList separator' list').isActiveOn host' := by
  refine ⟨fun silent => ?_, fun domain longest => isActiveOn_of_longest longest,
    exists_longestNamed, isActiveOn_of_unnamed, ?_⟩
  · rw [isActiveOn, isUnrestricted_ofList.mpr silent, Bool.true_or]
  · intro separator' list' host' sameTokens sameHost
    refine Bool.eq_iff_iff.mpr (isActiveOn_congr (fun included name => ?_) sameHost)
    refine exists_congr fun token => and_congr_left fun names => sameTokens token ?_
    cases names with
    | included nonempty => exact nonempty
    | excluded => exact List.cons_ne_nil _ _

end Deciding

end AdFilter.Restriction
