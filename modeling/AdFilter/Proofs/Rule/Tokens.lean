import AdFilter.Proofs.ContentType
import AdFilter.Proofs.Text.Pieces
import AdFilter.Rule.Options

/-! # What one token of a list of options says

The name of a token decides what the token is about: it names a type or one of a few words, perhaps
with a tilde in front, or the token is not known. No name is about two topics.
-/

namespace AdFilter

open Text

namespace RuleOption

/-- The name of a token, in the form in which names are compared. -/
def nameOf (token : List Char) : String :=
  normalName (token.takeWhile (· != '='))

/-- What stands behind the first equals sign of a token, up to a second one. -/
def valueOf? (token : List Char) : Option (List Char) :=
  (token.dropWhile (· != '=')).tail?.map (·.takeWhile (· != '='))

/-- The name by which a token says yes or no to a word. -/
def signed (word : String) : Bool → String
  | true => word
  | false => "~" ++ word

/-- Whether a token says yes to a word by naming it, or no with a tilde in front. -/
def sign? (word : String) (token : List Char) : Option Bool :=
  if nameOf token = signed word true then some true
  else if nameOf token = signed word false then some false
  else none

/-- Whether a token says yes or no to some type. -/
def typeSign? (token : List Char) : Option Bool :=
  ContentType.all.findSome? fun t => sign? t.name token

def domainsOf? (token : List Char) : Option String :=
  if nameOf token = "DOMAIN" then (valueOf? token).map String.ofList else none

/-- What a token can be about. -/
inductive Topic where
  | types
  | matchCase
  | domains
  | thirdParty
  | collapse
  | unknown
  deriving Repr, DecidableEq

def topicOf (token : List Char) : Topic :=
  if (typeSign? token).isSome then .types
  else if nameOf token = "MATCH_CASE" then .matchCase
  else if (domainsOf? token).isSome then .domains
  else if (sign? "THIRD_PARTY" token).isSome then .thirdParty
  else if (sign? "COLLAPSE" token).isSome then .collapse
  else .unknown

def topic : RuleOption → Topic
  | .type _ _ => .types
  | .matchCase => .matchCase
  | .domains _ => .domains
  | .thirdParty _ => .thirdParty
  | .collapse _ => .collapse
  | .unknown _ => .unknown

def typeSign : RuleOption → Option Bool
  | .type _ yes => some yes
  | _ => none

/-- What the option does with a bit of the mask. -/
def writesBit (i : Nat) : RuleOption → Option Bool
  | .type t yes => if t.bitIndex = i then some yes else none
  | _ => none

def writesDomains : RuleOption → Option String
  | .domains list => some list
  | _ => none

def writesThirdParty : RuleOption → Option Bool
  | .thirdParty yes => some yes
  | _ => none

def writesCollapse : RuleOption → Option Bool
  | .collapse yes => some yes
  | _ => none

/-- The text that the option leaves among the unknown ones. -/
def writesUnknown : RuleOption → Option String
  | .unknown written => some written
  | _ => none

section Tokens

variable {name word : String} {value : Option String} {token : List Char} {o : RuleOption}
variable {t : ContentType} {yes : Bool}

theorem signed_inj {yes' : Bool} : signed word yes = signed word yes' ↔ yes = yes' := by
  have apart : "~" ++ word ≠ word := by
    intro same
    have lengths := congrArg String.length same
    simp at lengths
  cases yes <;> cases yes' <;> simp [signed, apart, apart.symm]

theorem sign?_eq_some : sign? word token = some yes ↔ nameOf token = signed word yes := by
  unfold sign?
  split_ifs with bare negated
  · rw [bare, signed_inj, Option.some.injEq]
  · rw [negated, signed_inj, Option.some.injEq]
  · cases yes
    · simp [negated]
    · simp [bare]

theorem type?_eq_some :
    type? name = some o ↔ ∃ t yes, name = signed t.name yes ∧ o = .type t yes := by
  constructor
  · intro h
    unfold type? at h
    split at h
    · rename_i t found
      cases h
      exact ⟨t, true, ContentType.ofName?_eq_some.mp found, rfl⟩
    · split at h
      · rename_i rest tilde
        obtain ⟨t, found, rfl⟩ := Option.map_eq_some_iff.mp h
        have behind := ContentType.ofName?_eq_some.mp found
        refine ⟨t, false, ?_, rfl⟩
        apply String.toList_inj.mp
        simp [signed, tilde, ← behind]
      · cases h
  · rintro ⟨t, yes, rfl, rfl⟩
    cases yes <;> cases t <;> rfl

theorem other?_eq_some : other? name value = some o ↔
    (name = "MATCH_CASE" ∧ o = .matchCase) ∨
    (name = "DOMAIN" ∧ ∃ list ∈ value, o = .domains list) ∨
    (∃ yes, name = signed "THIRD_PARTY" yes ∧ o = .thirdParty yes) ∨
    (∃ yes, name = signed "COLLAPSE" yes ∧ o = .collapse yes) := by
  constructor
  · intro h
    unfold other? at h
    split_ifs at h with matchCase domain third firstOnly collapses stays
    · cases h
      exact .inl ⟨matchCase, rfl⟩
    · obtain ⟨list, given, rfl⟩ := Option.map_eq_some_iff.mp h
      exact .inr (.inl ⟨domain, list, given, rfl⟩)
    · cases h
      exact .inr (.inr (.inl ⟨true, third, rfl⟩))
    · cases h
      exact .inr (.inr (.inl ⟨false, firstOnly, rfl⟩))
    · cases h
      exact .inr (.inr (.inr ⟨true, collapses, rfl⟩))
    · cases h
      exact .inr (.inr (.inr ⟨false, stays, rfl⟩))
  · rintro (⟨rfl, rfl⟩ | ⟨rfl, list, given, rfl⟩ | ⟨yes, rfl, rfl⟩ | ⟨yes, rfl, rfl⟩)
    · rfl
    · rw [Option.mem_def] at given
      subst given
      rfl
    · cases yes <;> rfl
    · cases yes <;> rfl

theorem type?_eq_none_of_other? (h : other? name value = some o) : type? name = none := by
  rcases other?_eq_some.mp h with
    ⟨rfl, -⟩ | ⟨rfl, -⟩ | ⟨yes, rfl, -⟩ | ⟨yes, rfl, -⟩
  · rfl
  · rfl
  · cases yes <;> rfl
  · cases yes <;> rfl

theorem ofChars_eq (token : List Char) :
    ofChars token =
      ((type? (nameOf token)).or (other? (nameOf token) ((valueOf? token).map String.ofList))).getD
        (.unknown (String.ofList token)) := by
  simp only [ofChars, head?_pieces, getElem?_one_pieces, Option.getD_some, nameOf, valueOf?]

/-- A token says what its name says, or else it is not known. -/
theorem ofChars_eq_iff : ofChars token = o ↔
    (type? (nameOf token) = some o ∨
      other? (nameOf token) ((valueOf? token).map String.ofList) = some o) ∨
    (type? (nameOf token) = none ∧
      other? (nameOf token) ((valueOf? token).map String.ofList) = none ∧
      o = .unknown (String.ofList token)) := by
  rw [ofChars_eq]
  cases other : other? (nameOf token) ((valueOf? token).map String.ofList) with
  | some x => simp [type?_eq_none_of_other? other]
  | none =>
      cases type? (nameOf token) with
      | some x => simp
      | none => simp [eq_comm]

theorem ofChars_eq_type : ofChars token = .type t yes ↔ sign? t.name token = some yes := by
  simp [ofChars_eq_iff, type?_eq_some, other?_eq_some, sign?_eq_some]

theorem ofChars_eq_matchCase : ofChars token = .matchCase ↔ nameOf token = "MATCH_CASE" := by
  simp [ofChars_eq_iff, type?_eq_some, other?_eq_some]

theorem ofChars_eq_domains {list : String} :
    ofChars token = .domains list ↔ domainsOf? token = some list := by
  simp [ofChars_eq_iff, type?_eq_some, other?_eq_some, domainsOf?]

theorem ofChars_eq_thirdParty :
    ofChars token = .thirdParty yes ↔ sign? "THIRD_PARTY" token = some yes := by
  simp [ofChars_eq_iff, type?_eq_some, other?_eq_some, sign?_eq_some]

theorem ofChars_eq_collapse :
    ofChars token = .collapse yes ↔ sign? "COLLAPSE" token = some yes := by
  simp [ofChars_eq_iff, type?_eq_some, other?_eq_some, sign?_eq_some]

theorem typeSign?_eq (token : List Char) : typeSign? token = (ofChars token).typeSign := by
  cases said : ofChars token with
  | type t yes =>
      -- the search may stop at another type, but a name is that of one type only
      obtain ⟨sign, named⟩ : ∃ sign, typeSign? token = some sign := by
        rw [← Option.isSome_iff_exists, typeSign?, List.findSome?_isSome_iff]
        exact ⟨t, t.mem_all, by simp [ofChars_eq_type.mp said]⟩
      obtain ⟨t', -, given⟩ := List.exists_of_findSome?_eq_some named
      have same := said.symm.trans (ofChars_eq_type.mpr given)
      cases same
      exact named
  | matchCase | domains | thirdParty | collapse | unknown =>
      refine List.findSome?_eq_none_iff.mpr fun t _ => Option.eq_none_iff_forall_ne_some.mpr ?_
      intro yes given
      exact nomatch said.symm.trans (ofChars_eq_type.mpr given)

theorem sign?_type_eq (t : ContentType) (token : List Char) :
    sign? t.name token = (ofChars token).writesBit t.bitIndex := by
  ext yes
  rw [← ofChars_eq_type]
  cases ofChars token <;> simp [writesBit, ContentType.bitIndex_inj]

theorem domainsOf?_eq (token : List Char) : domainsOf? token = (ofChars token).writesDomains := by
  ext list
  rw [← ofChars_eq_domains]
  cases ofChars token <;> simp [writesDomains]

theorem sign?_thirdParty_eq (token : List Char) :
    sign? "THIRD_PARTY" token = (ofChars token).writesThirdParty := by
  ext yes
  rw [← ofChars_eq_thirdParty]
  cases ofChars token <;> simp [writesThirdParty]

theorem sign?_collapse_eq (token : List Char) :
    sign? "COLLAPSE" token = (ofChars token).writesCollapse := by
  ext yes
  rw [← ofChars_eq_collapse]
  cases ofChars token <;> simp [writesCollapse]

theorem topicOf_eq (token : List Char) : topicOf token = (ofChars token).topic := by
  simp only [topicOf, typeSign?_eq, ← ofChars_eq_matchCase, domainsOf?_eq, sign?_thirdParty_eq,
    sign?_collapse_eq]
  cases ofChars token <;> rfl

theorem mem_of_mem_domainsOf? {list : String} (h : domainsOf? token = some list) {c : Char}
    (member : c ∈ list.toList) : c ∈ token := by
  unfold domainsOf? at h
  split at h
  · obtain ⟨value, given, rfl⟩ := Option.map_eq_some_iff.mp h
    rw [String.toList_ofList] at member
    have isPiece : value ∈ pieces '=' token :=
      List.mem_of_getElem? ((getElem?_one_pieces '=' token).trans given)
    exact (mem_of_mem_pieces isPiece member).1
  · cases h

theorem writesUnknown_ofChars (token : List Char) : (ofChars token).writesUnknown =
    if topicOf token = .unknown then some (String.ofList token) else none := by
  rw [topicOf_eq]
  cases said : ofChars token with
  | unknown written =>
      obtain found | ⟨-, -, same⟩ := ofChars_eq_iff.mp said
      · simp [type?_eq_some, other?_eq_some] at found
      · cases same
        rfl
  | type | matchCase | domains | thirdParty | collapse => rfl

end Tokens

end RuleOption

end AdFilter
