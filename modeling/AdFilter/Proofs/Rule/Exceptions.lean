import AdFilter.Proofs.ContentType
import AdFilter.Proofs.Rule.Building
import AdFilter.Proofs.Rule.Options
import AdFilter.Proofs.Text.Pieces
import Mathlib.Data.List.TakeWhile

/-! # Exceptions and blocking rules of the same body

An exception is the blocking rule of its body but for pages: it applies to them only if they are
named among the options or the pattern begins with a scheme.
-/

namespace AdFilter

open Text

namespace RuleOption

/-- The option is `document`, perhaps with a value. Case does not count. -/
def IsDocument (written : List Char) : Prop :=
  (written.takeWhile (· != '=')).map Char.toUpper = ['D', 'O', 'C', 'U', 'M', 'E', 'N', 'T']

theorem underscoreFirst_cases (cs : List Char) :
    underscoreFirst cs = cs ∨ '_' ∈ underscoreFirst cs := by
  induction cs with
  | nil => exact .inl rfl
  | cons c cs ih =>
      unfold underscoreFirst
      split
      · exact .inr List.mem_cons_self
      · rcases ih with same | member
        · exact .inl (congrArg _ same)
        · exact .inr (List.mem_cons_of_mem c member)

theorem normalName_eq_document {name : List Char} :
    normalName name = "DOCUMENT" ↔
      name.map Char.toUpper = ['D', 'O', 'C', 'U', 'M', 'E', 'N', 'T'] := by
  rw [normalName, show "DOCUMENT" = String.ofList ['D', 'O', 'C', 'U', 'M', 'E', 'N', 'T'] from rfl,
    String.ofList_inj]
  constructor
  · intro document
    rcases underscoreFirst_cases (name.map Char.toUpper) with same | member
    · rw [← same, document]
    · rw [document] at member
      exact absurd member (by decide)
  · intro document
    rw [document]
    rfl

theorem nameOf_eq_document {written : List Char} :
    nameOf written = "DOCUMENT" ↔ IsDocument written :=
  normalName_eq_document

end RuleOption

namespace RuleOptions

theorem namesDocument_ofChars {list : List Char} :
    (ofChars list).namesDocument = true ↔
      ∃ written ∈ pieces ',' list, RuleOption.IsDocument written := by
  rw [(lastMention_ofChars list).namesDocument_iff]
  simp only [RuleOption.nameOf_eq_document]

end RuleOptions

/-- The pattern begins with a scheme and a colon, perhaps behind a bar. -/
def Pattern.BeginsWithScheme (pattern : List Char) : Prop :=
  ∃ scheme rest, scheme ≠ [] ∧ (∀ c ∈ scheme, isNameChar c = true) ∧
    (pattern = scheme ++ ':' :: rest ∨ pattern = '|' :: (scheme ++ ':' :: rest))

theorem Pattern.startsWithScheme_iff {pattern : List Char} :
    startsWithScheme pattern = true ↔ BeginsWithScheme pattern := by
  have cut (rest : List Char) :
      (!(rest.takeWhile isNameChar).isEmpty && (rest.dropWhile isNameChar).head? == some ':') =
        true ↔ ∃ scheme after, scheme ≠ [] ∧ (∀ c ∈ scheme, isNameChar c = true) ∧
          rest = scheme ++ ':' :: after := by
    rw [Bool.and_eq_true, beq_iff_eq, Bool.not_eq_true', List.isEmpty_eq_false_iff,
      List.head?_eq_some_iff]
    constructor
    · rintro ⟨nonempty, after, colon⟩
      refine ⟨_, after, nonempty, fun c member => List.mem_takeWhile_imp member, ?_⟩
      rw [← colon, List.takeWhile_append_dropWhile]
    · rintro ⟨scheme, after, nonempty, name, rfl⟩
      rw [List.takeWhile_append_of_pos name, List.dropWhile_append_of_pos name]
      exact ⟨by simp [nonempty], after, by simp [isNameChar]⟩
  unfold startsWithScheme BeginsWithScheme
  simp only [cut]
  by_cases bar : pattern.head? = some '|'
  · obtain ⟨rest, rfl⟩ := List.head?_eq_some_iff.mp bar
    rw [if_pos bar, List.drop_one, List.tail_cons]
    refine exists_congr fun scheme => exists_congr fun after => and_congr_right fun nonempty =>
      and_congr_right fun name => ?_
    have noScheme : '|' :: rest ≠ scheme ++ ':' :: after := by
      obtain ⟨c, more, rfl⟩ := List.exists_cons_of_ne_nil nonempty
      rintro same
      cases same
      exact absurd (name '|' List.mem_cons_self) (by decide)
    rw [or_iff_right noScheme, List.cons.injEq, and_iff_right rfl]
  · rw [if_neg bar]
    refine exists_congr fun scheme => exists_congr fun after => and_congr_right fun nonempty =>
      and_congr_right fun name => (or_iff_left ?_).symm
    rintro rfl
    exact bar rfl

theorem RequestRule.exists_applies_eq {a b : RequestRule} (source : a.source = b.source)
    (matchCase : a.conditions.matchCase = b.conditions.matchCase)
    (domains : a.conditions.domains = b.conditions.domains)
    (thirdParty : a.conditions.thirdParty = b.conditions.thirdParty) (q : Request) :
    ∃ asked : Bool, a.applies q = (q.types.meets a.types && asked) ∧
      b.applies q = (q.types.meets b.types && asked) := by
  refine ⟨Regex.isMatch b.regex q.url.toList && (b.conditions.thirdParty.all (· == q.thirdParty) &&
    (q.document == "" || b.restriction.isActiveOn q.document)), ?_, ?_⟩
  · rw [applies, restriction, regex_congr source matchCase, domains, thirdParty, ← restriction]
    ac_rfl
  · rw [applies]
    ac_rfl

namespace Rule

/-- The options of a line name pages. -/
def NamesDocument (line : List Char) : Prop :=
  ∃ pattern list, RuleOptions.split? line = some (pattern, list) ∧
    ∃ written ∈ pieces ',' list, RuleOption.IsDocument written

theorem namesDocument_cut {line : List Char} :
    (RuleOptions.cut line).2.namesDocument = true ↔ NamesDocument line := by
  unfold RuleOptions.cut NamesDocument
  cases found : RuleOptions.split? line with
  | none => simp
  | some parts =>
      obtain ⟨pattern, list⟩ := parts
      simp only [RuleOptions.namesDocument_ofChars, Option.some.injEq, Prod.mk.injEq]
      constructor
      · exact fun named => ⟨pattern, list, ⟨rfl, rfl⟩, named⟩
      · rintro ⟨_, _, ⟨rfl, rfl⟩, named⟩
        exact named

/-- The types of an exception are those of the options, but for pages where those are not meant. -/
theorem types_exceptionTypes (pattern : List Char) (o : RuleOptions) :
    (exceptionTypes pattern o).getD .standard =
      if (o.conditions.types.getD .standard).has .document = true ∧ o.namesDocument = false ∧
          Pattern.startsWithScheme pattern = false
      then (o.conditions.types.getD .standard).without ContentType.document.mask
      else o.conditions.types.getD .standard := by
  unfold exceptionTypes
  simp only [Bool.not_eq_eq_eq_not, Bool.not_true]
  split
  · rfl
  · rfl

variable {pattern : List Char} {o : RuleOptions} {q : Request}

theorem meets_exceptionTypes (other : q.types.has .document = false) :
    q.types.meets ((exceptionTypes pattern o).getD .standard) =
      q.types.meets (o.conditions.types.getD .standard) := by
  rw [types_exceptionTypes]
  split
  · exact TypeMask.meets_without_mask other
  · rfl

theorem document_meets_exceptionTypes :
    ContentType.document.mask.meets ((exceptionTypes pattern o).getD .standard) = true ↔
      ContentType.document.mask.meets (o.conditions.types.getD .standard) = true ∧
        (o.namesDocument = true ∨ Pattern.startsWithScheme pattern = true) := by
  rw [types_exceptionTypes, TypeMask.meets_mask, TypeMask.meets_mask]
  split
  · rename_i kept
    simp [TypeMask.has_without_mask, kept.2.1, kept.2.2]
  · rename_i kept
    cases named : o.namesDocument <;> cases scheme : Pattern.startsWithScheme pattern <;>
      simp_all

theorem cutException_of_bare {line : List Char} (bare : ¬ ['@', '@'] <+: line) :
    cutException line = (false, line) := by
  unfold cutException
  split
  · exact absurd ⟨_, rfl⟩ bare
  · rfl

/-- The exception for a body and the blocking rule of that body are invalid for the same reason, or
    they have the same regular expression and the same conditions but for the types. Then they
    apply to the same requests that are for no page, and the exception applies to a request for a
    page if the blocking rule does and the options name pages or the pattern begins with a
    scheme. -/
theorem exception_of_same_body (policy : Policy) (body : String)
    (bare : ¬ ['@', '@'] <+: body.toList) :
    (∃ reason, ofRequestLine policy body = .invalid reason ∧
      ofRequestLine policy ("@@" ++ body) = .invalid reason) ∨
    ∃ blocks collapse excepts, ofRequestLine policy body = .blocking blocks collapse ∧
      ofRequestLine policy ("@@" ++ body) = .exception excepts ∧
      excepts.source = blocks.source ∧
      excepts.conditions.matchCase = blocks.conditions.matchCase ∧
      excepts.conditions.domains = blocks.conditions.domains ∧
      excepts.conditions.thirdParty = blocks.conditions.thirdParty ∧
      (∀ q : Request, q.types.has .document = false →
        excepts.applies q = blocks.applies q) ∧
      (∀ q : Request, q.types = ContentType.document.mask →
        (excepts.applies q = true ↔ blocks.applies q = true ∧
          (NamesDocument body.toList ∨
            Pattern.BeginsWithScheme (RuleOptions.cut body.toList).1))) := by
  have marked : cutException ("@@" ++ body).toList = (true, body.toList) := by
    rw [String.toList_append]
    rfl
  cases options : RuleOptions.cut body.toList with
  | mk pattern o =>
      have named : o.namesDocument = true ↔ NamesDocument body.toList := by
        rw [← namesDocument_cut, options]
      rw [ofRequestLine_of_cut (cutException_of_bare bare) options,
        ofRequestLine_of_cut marked options]
      by_cases refused : policy = .strict ∧ o.unknown ≠ []
      · rw [if_pos refused, if_pos refused]
        exact .inl ⟨_, rfl, rfl⟩
      rw [if_neg refused, if_neg refused]
      -- Both are built from one source, and the types have no part in that.
      have matchCase : (conditionsOf false pattern o).matchCase =
        (conditionsOf true pattern o).matchCase := rfl
      rcases RequestRule.make_cases (String.ofList (Pattern.source pattern)) matchCase with
        ⟨e, fault, fault'⟩ | ⟨blocks, excepts, made, made'⟩
      · rw [fault, fault']
        exact .inl ⟨_, rfl, rfl⟩
      obtain ⟨source, conditions, -⟩ := RequestRule.eq_of_make made
      obtain ⟨source', conditions', -⟩ := RequestRule.eq_of_make made'
      rw [made, made']
      have same := RequestRule.exists_applies_eq (source'.trans source.symm)
        (by rw [conditions, conditions', matchCase]) (by rw [conditions, conditions']; rfl)
        (by rw [conditions, conditions']; rfl)
      have types : blocks.types = o.conditions.types.getD .standard :=
        congrArg (fun c : Conditions => c.types.getD .standard) conditions
      have types' : excepts.types = (exceptionTypes pattern o).getD .standard :=
        congrArg (fun c : Conditions => c.types.getD .standard) conditions'
      refine .inr ⟨blocks, _, excepts, rfl, rfl, source'.trans source.symm, ?_, ?_, ?_, ?_, ?_⟩
      · rw [conditions, conditions', matchCase]
      · rw [conditions, conditions']
        rfl
      · rw [conditions, conditions']
        rfl
      · intro q other
        obtain ⟨asked, eq, eq'⟩ := same q
        rw [eq, eq', types, types', meets_exceptionTypes other]
      · intro q page
        obtain ⟨asked, eq, eq'⟩ := same q
        rw [eq, eq', types, types', page, Bool.and_eq_true, Bool.and_eq_true,
          document_meets_exceptionTypes, ← named, ← Pattern.startsWithScheme_iff]
        exact and_right_comm

/-- Images are left out and pages are not named. -/
theorem exception_of_same_body_unnamed :
    ¬ ['@', '@'] <+: "ads$~image".toList ∧
    ∃ blocks collapse excepts, ofRequestLine .strict "ads$~image" = .blocking blocks collapse ∧
      ofRequestLine .strict ("@@" ++ "ads$~image") = .exception excepts ∧
      blocks.applies { url := "http://ads/", types := ContentType.document.mask } = true ∧
      (∀ q : Request, q.types.has .document = false → excepts.applies q = blocks.applies q) ∧
      ∀ q : Request, q.types = ContentType.document.mask → excepts.applies q = false := by
  have bare : ¬ ['@', '@'] <+: "ads$~image".toList := by decide
  have blocking : (ofRequestLine .strict "ads$~image").applies
      { url := "http://ads/", types := ContentType.document.mask } = true := by decide +kernel
  refine ⟨bare, ?_⟩
  rcases exception_of_same_body .strict "ads$~image" bare with
    ⟨reason, invalid, -⟩ |
    ⟨blocks, collapse, excepts, isBlocking, isException, -, -, -, -, others, pages⟩
  · rw [invalid] at blocking
    cases blocking
  · rw [isBlocking] at blocking
    refine ⟨blocks, collapse, excepts, isBlocking, isException, blocking, others, fun q page => ?_⟩
    have unnamed : ¬ NamesDocument "ads$~image".toList := by
      rw [← namesDocument_cut]
      decide +kernel
    have noScheme : ¬ Pattern.BeginsWithScheme (RuleOptions.cut "ads$~image".toList).1 := by
      rw [← Pattern.startsWithScheme_iff]
      decide +kernel
    rw [← Bool.not_eq_true, pages q page]
    rintro ⟨-, named | scheme⟩
    · exact unnamed named
    · exact noScheme scheme

end Rule

end AdFilter
