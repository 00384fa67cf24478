import AdFilter.Proofs.Hiding.Grammar
import AdFilter.Proofs.Hiding.Selector
import AdFilter.Proofs.Pattern.Translation
import AdFilter.Proofs.Rule.Options
import AdFilter.Proofs.Rule.Splitting
import AdFilter.Proofs.Text.Ascii

/-! # The lines that are invalid

A line is invalid for one of a few reasons only: what it hides gives no selector, an option is not
known and must be, or it is a regular expression between slashes that is faulty. Any other pattern is
translated to an expression without a fault.
-/

namespace AdFilter

open Text

namespace Hiding

open Hiding.Group

/-- Why no hiding rule can be made for what a line says to hide. -/
inductive Target.Fails : Target → RuleError → Prop where
  | duplicateId {tag groups} : 2 ≤ groups.countP isBare → Fails (.tagged tag groups) .duplicateId
  | noCriteria : Fails (.tagged ['*'] []) .noCriteria
  | emptySelector {text} : (∀ c ∈ text, isBlank c = true) → Fails (.selector text) .emptySelector

section Failing

variable {tag selector : List Char} {groups : List Group} {t : Target} {e : RuleError}
variable {line : String} {domains : List Char}

theorem exists_solid_of_selectorOf (isTag : tag = ['*'] ∨ IsName tag)
    (made : selectorOf tag groups = .ok selector) : ∃ c ∈ selector, isBlank c = false := by
  match ids : groups.filterMap id? with
  | [] =>
      have valued := ids_eq_nil.mp ids
      rw [selectorOf_of_valued valued] at made
      split at made
      · cases made
      · rename_i something
        cases made
        rcases isTag with rfl | ⟨someChar, isName⟩
        · -- The star is left out, so there is a group, and its condition is shown.
          have conditions : groups.flatMap condition ≠ [] :=
            fun none => something ⟨rfl, (conditions_eq_nil valued).mp none⟩
          obtain ⟨c, member⟩ := List.exists_mem_of_ne_nil _ conditions
          obtain ⟨g, inGroups, inCondition⟩ := List.mem_flatMap.mp member
          refine ⟨'[', List.mem_append_right _ (List.mem_flatMap.mpr ⟨g, inGroups, ?_⟩), by decide⟩
          match g with
          | .id _ => cases inCondition
          | .attribute _ _ _ => simp [condition]
        · obtain ⟨c, member⟩ := List.exists_mem_of_ne_nil tag someChar
          have shown : shownTag tag = tag := by
            refine if_neg ?_
            rintro rfl
            exact absurd (isName '*' List.mem_cons_self) (by decide)
          rw [shown]
          exact ⟨c, List.mem_append_left _ member, isBlank_of_isNameChar (isName c member)⟩
  | [name] =>
      rw [selectorOf_of_one ids] at made
      cases made
      exact ⟨'.', by simp, by decide⟩
  | _ :: _ :: _ =>
      have more : 2 ≤ groups.countP isBare := by
        rw [← length_ids, ids]
        simp
      rw [selectorOf_of_more more] at made
      cases made

theorem blank_ofList {cs : List Char} :
    blank (String.ofList cs) = true ↔ ∀ c ∈ cs, isBlank c = true := by
  rw [blank, String.toList_ofList, List.all_eq_true]

theorem Target.WellFormed.fails_iff (wellFormed : t.WellFormed) :
    t.Fails e ↔ t.selectorText = .error e ∨
      ∃ text, t.selectorText = .ok text ∧ blank (String.ofList text) = true ∧
        e = .emptySelector := by
  cases wellFormed with
  | @selector text nonempty allowed =>
      constructor
      · intro fails
        cases fails with
        | emptySelector blanks => exact .inr ⟨text, rfl, blank_ofList.mpr blanks, rfl⟩
      · rintro (isError | ⟨_, ⟨⟩, isBlank, rfl⟩)
        · cases isError
        · exact .emptySelector (blank_ofList.mp isBlank)
  | @tagged tag groups isTag _ =>
      rw [selectorText]
      constructor
      · rintro (more | -)
        · exact .inl (selectorOf_of_more more)
        · exact .inl rfl
      · rintro (isError | ⟨selector, made, isBlank, -⟩)
        · rcases selectorOf_cases tag groups with
            ⟨more, result⟩ | ⟨-, silent, none, result⟩ | ⟨-, -, selector, result⟩
          · cases isError.symm.trans result
            exact .duplicateId more
          · cases isError.symm.trans result
            obtain rfl : tag = ['*'] := by
              rcases shownTag_eq_nil.mp silent with star | empty
              · exact star
              · exact isTag.resolve_right fun isName => isName.1 empty
            subst none
            exact .noCriteria
          · cases isError.symm.trans result
        · obtain ⟨c, member, solid⟩ := exists_solid_of_selectorOf isTag made
          rw [blank_ofList.mp isBlank c member] at solid
          cases solid

theorem SplitsFirstAt.rule?_eq_invalid_iff (h : SplitsFirstAt line.toList domains t)
    {reason : Rejection} :
    rule? line = some (.invalid reason) ↔ ∃ e, t.Fails e ∧ reason = .unbuildable e := by
  have fails_iff (e : RuleError) := h.target.fails_iff (e := e)
  rcases rule?_cases (split?_eq_some_iff.mpr h) with ⟨e, isRule, failed⟩ | ⟨r, isRule, -, made⟩
  · rw [isRule]
    constructor
    · rintro ⟨⟩
      exact ⟨e, (fails_iff e).mpr failed, rfl⟩
    · rintro ⟨e', fails, rfl⟩
      obtain rfl : e = e' := by
        rcases failed with isError | ⟨text, made, -, rfl⟩ <;>
          rcases (fails_iff e').mp fails with isError' | ⟨text', made', -, rfl⟩
        · exact Except.error.inj (isError.symm.trans isError')
        · cases isError.symm.trans made'
        · cases made.symm.trans isError'
        · rfl
      rfl
  · rw [isRule]
    constructor
    · rintro ⟨⟩
    · rintro ⟨e, fails, -⟩
      rcases (fails_iff e).mp fails with isError | ⟨text, made', isBlank, -⟩
      · cases made.symm.trans isError
      · cases made.symm.trans made'
        rw [String.ofList_toList, r.selector_not_blank] at isBlank
        cases isBlank

end Failing

end Hiding

namespace Regex

theorem compile_eq_error_iff {matchCase : Bool} {source : List Char} {e : Error} :
    compile matchCase source = .error e ↔
      (∃ fault, ofChars matchCase source = .error fault ∧ e = .malformed fault) ∨
      ∃ r, ofChars matchCase source = .ok r ∧ sizeLimit < footprint r ∧ e = .tooLarge sizeLimit := by
  unfold compile
  cases ofChars matchCase source with
  | error fault => simp [eq_comm]
  | ok r =>
      by_cases small : footprint r ≤ sizeLimit
      · simp [small, Nat.not_lt_of_le small]
      · simp [small, Nat.lt_of_not_le small, eq_comm]

end Regex

namespace Pattern

/-- The pattern is a regular expression between slashes. -/
def IsLiteral (pattern body : List Char) : Prop :=
  body ≠ [] ∧ pattern = '/' :: body ++ ['/']

variable {pattern body : List Char}

theorem IsLiteral.source_eq (isLiteral : IsLiteral pattern body) : source pattern = body := by
  obtain ⟨nonempty, rfl⟩ := isLiteral
  simp [source, literal?, nonempty]

theorem source_of_glob_or_empty (noLiteral : ∀ body, ¬ IsLiteral pattern body) :
    ∃ g : Glob, source pattern = g.source := by
  by_cases slashes : pattern.head? = some '/' ∧ pattern.getLast? = some '/'
  · -- Nothing stands between the slashes, and that is translated like the glob that is empty.
    refine ⟨⟨.none, [], false⟩, ?_⟩
    obtain ⟨rest, rfl⟩ := List.head?_eq_some_iff.mp slashes.1
    rcases List.eq_nil_or_concat rest with rfl | ⟨body, c, rfl⟩
    · rfl
    · obtain rfl : c = '/' := by simpa [List.getLast?_cons] using slashes.2
      obtain rfl : body = [] := by
        by_contra nonempty
        exact noLiteral body ⟨nonempty, by simp⟩
      rfl
  · exact ⟨_, source_of_glob slashes⟩

theorem exists_ofChars_source (noLiteral : ∀ body, ¬ IsLiteral pattern body) (matchCase : Bool) :
    ∃ r, Regex.ofChars matchCase (source pattern) = .ok r := by
  obtain ⟨g, isGlob⟩ := source_of_glob_or_empty noLiteral
  exact ⟨_, by rw [isGlob, ofChars_source]⟩

end Pattern

namespace Rule

open RuleOption RuleOptions

/-- The line neither hides elements nor is a comment. -/
structure IsRequestLine (line : String) : Prop where
  not_hiding : ∀ domains t, ¬ Hiding.SplitsAt line.toList domains t
  not_comment : line.toList.head? ≠ some '!'

/-- The pattern of a line about requests and the tokens of its options. -/
inductive HasParts (line : String) : List Char → List (List Char) → Prop where
  | split {pattern list} : IsRequestLine line →
      SplitsFirstAt (cutException line.toList).2 pattern list →
      HasParts line pattern (pieces ',' list)
  | whole : IsRequestLine line →
      (∀ pattern list, ¬ SplitsAt (cutException line.toList).2 pattern list) →
      HasParts line (cutException line.toList).2 []

/-- Some token is not known. -/
def NamesUnknown (tokens : List (List Char)) : Prop :=
  ∃ token ∈ tokens, topicOf token = .unknown

def unknownOf (tokens : List (List Char)) : List String :=
  (tokens.filter (topicOf · = .unknown)).map String.ofList

/-- Whether a token asks for case to be told apart. -/
def namesCase (tokens : List (List Char)) : Bool :=
  tokens.any (nameOf · == "MATCH_CASE")

/-- Why a line gives no rule, the size of expressions set aside. -/
inductive Rejects (policy : Policy) (line : String) : Rejection → Prop where
  | target {domains t e} : Hiding.SplitsFirstAt line.toList domains t → t.Fails e →
      Rejects policy line (.unbuildable e)
  | unknownOptions {pattern tokens} : HasParts line pattern tokens → policy = .strict →
      NamesUnknown tokens → Rejects policy line (.unknownOptions (unknownOf tokens))
  | malformed {pattern tokens body fault} : HasParts line pattern tokens →
      ¬ (policy = .strict ∧ NamesUnknown tokens) → Pattern.IsLiteral pattern body →
      Regex.ofChars (namesCase tokens) body = .error fault →
      Rejects policy line (.unbuildable (.invalidRegex (.malformed fault)))

section Parts

variable {policy : Policy} {line : String} {pattern : List Char} {tokens : List (List Char)}

theorem IsRequestLine.ofLine_eq (request : IsRequestLine line) :
    ofLine policy line = ofRequestLine policy line := by
  have unsplit : Hiding.split? line.toList = none := by
    rw [Option.eq_none_iff_forall_ne_some]
    rintro ⟨domains, t⟩ found
    exact request.not_hiding domains t (Hiding.splitsAt_of_split? found)
  rw [Rule.ofLine_eq, Hiding.rule?_eq, unsplit, Option.map_none]
  exact if_neg request.not_comment

theorem HasParts.isRequestLine (parts : HasParts line pattern tokens) : IsRequestLine line := by
  cases parts with
  | split request _ => exact request
  | whole request _ => exact request

theorem IsRequestLine.exists_parts (request : IsRequestLine line) :
    ∃ pattern tokens, HasParts line pattern tokens := by
  cases found : split? (cutException line.toList).2 with
  | none => exact ⟨_, _, .whole request (split?_eq_none_iff.mp found)⟩
  | some parts => exact ⟨_, _, .split request (split?_eq_some_iff.mp found)⟩

theorem HasParts.exists_cut (parts : HasParts line pattern tokens) :
    ∃ o, RuleOptions.cut (cutException line.toList).2 = (pattern, o) ∧ LastMention tokens o := by
  cases parts with
  | split _ first => exact ⟨_, first.cut_eq, lastMention_ofChars _⟩
  | whole _ nowhere => exact ⟨_, cut_of_unsplit nowhere, lastMention_foldl []⟩

theorem unknownOf_ne_nil : unknownOf tokens ≠ [] ↔ NamesUnknown tokens := by
  simp [unknownOf, NamesUnknown]

theorem matchCase_of_lastMention {o : RuleOptions} (mention : LastMention tokens o) :
    o.conditions.matchCase = namesCase tokens := by
  rw [Bool.eq_iff_iff, mention.matchCase_iff, namesCase, List.any_eq_true]
  simp

theorem HasParts.ofLine_cases (parts : HasParts line pattern tokens) (policy : Policy) :
    (policy = .strict ∧ NamesUnknown tokens ∧
      ofLine policy line = .invalid (.unknownOptions (unknownOf tokens))) ∨
    (¬ (policy = .strict ∧ NamesUnknown tokens) ∧ ofLine policy line = ofLine .lenient line ∧
      ∀ reason, ofLine .lenient line = .invalid reason ↔
        ∃ e, Regex.compile (namesCase tokens) (Pattern.source pattern) = .error e ∧
          reason = .unbuildable (.invalidRegex e)) := by
  obtain ⟨o, cut, mention⟩ := parts.exists_cut
  have unknown : o.unknown ≠ [] ↔ NamesUnknown tokens := by
    rw [mention.unknown_eq]
    exact unknownOf_ne_nil
  rcases marked : cutException line.toList with ⟨isException, body⟩
  rw [marked] at cut
  have matchCase : (conditionsOf isException pattern o).matchCase = namesCase tokens := by
    rw [matchCase_conditionsOf, matchCase_of_lastMention mention]
  rw [parts.isRequestLine.ofLine_eq, parts.isRequestLine.ofLine_eq,
    ofRequestLine_of_cut marked cut, ofRequestLine_of_cut marked cut, ← unknown]
  by_cases refused : policy = .strict ∧ o.unknown ≠ []
  · rw [if_pos refused, mention.unknown_eq]
    exact .inl ⟨refused.1, mention.unknown_eq ▸ refused.2, rfl⟩
  · rw [if_neg refused, if_neg (by simp)]
    refine .inr ⟨refused, rfl, fun reason => ?_⟩
    cases made : RequestRule.make (String.ofList (Pattern.source pattern))
        (conditionsOf isException pattern o) with
    | error e =>
        obtain ⟨e', fault, rfl⟩ := RequestRule.make_eq_error_iff.mp made
        rw [matchCase, String.toList_ofList] at fault
        simp [fault, eq_comm]
    | ok rule =>
        obtain ⟨regex, compiles⟩ := RequestRule.compile_of_make made
        rw [matchCase, String.toList_ofList] at compiles
        simp only [compiles, reduceCtorEq, false_and, exists_false, iff_false]
        split <;> simp

end Parts

section Rejections

variable {policy : Policy} {line : String} {reason : Rejection}

theorem ofLine_eq_of_hides {domains : List Char} {t : Hiding.Target}
    (h : Hiding.SplitsFirstAt line.toList domains t) (policy : Policy) :
    Hiding.rule? line = some (ofLine policy line) := by
  have found := Hiding.split?_eq_some_iff.mpr h
  rw [ofLine_eq, Hiding.rule?_eq, found, Option.map_some]

/-- Every line hides elements, is a comment or is about requests. -/
theorem kind_cases (line : String) :
    (∃ domains t, Hiding.SplitsFirstAt line.toList domains t) ∨
    (∀ policy, ofLine policy line = .comment) ∨
    ∃ pattern tokens, HasParts line pattern tokens := by
  cases found : Hiding.split? line.toList with
  | some parts => exact .inl ⟨_, _, Hiding.split?_eq_some_iff.mp found⟩
  | none =>
      by_cases mark : line.toList.head? = some '!'
      · refine .inr (.inl fun policy => ?_)
        rw [ofLine_eq, Hiding.rule?_eq, found, Option.map_none]
        exact if_pos mark
      · have request : IsRequestLine line := by
          refine ⟨fun domains t h => ?_, mark⟩
          obtain ⟨domains', t', found', -⟩ := h.split?_eq_some
          cases found.symm.trans found'
        exact .inr (.inr request.exists_parts)

theorem ofLine_of_rejects (rejects : Rejects policy line reason) :
    ofLine policy line = .invalid reason ∧
      reason ≠ .unbuildable (.invalidRegex (.tooLarge Regex.sizeLimit)) := by
  cases rejects with
  | @target domains t e h fails =>
      have invalid := h.rule?_eq_invalid_iff.mpr ⟨e, fails, rfl⟩
      refine ⟨Option.some.inj ((ofLine_eq_of_hides h policy).symm.trans invalid), ?_⟩
      cases fails <;> simp
  | unknownOptions parts strict unknown =>
      rcases parts.ofLine_cases policy with ⟨-, -, invalid⟩ | ⟨known, -, -⟩
      · exact ⟨invalid, nofun⟩
      · exact absurd ⟨strict, unknown⟩ known
  | malformed parts known isLiteral fault =>
      rcases parts.ofLine_cases policy with ⟨strict, unknown, -⟩ | ⟨-, same, invalid_iff⟩
      · exact absurd ⟨strict, unknown⟩ known
      · refine ⟨same.trans ((invalid_iff _).mpr ⟨_, ?_, rfl⟩), by simp⟩
        rw [isLiteral.source_eq, Regex.compile_eq_error_iff]
        exact .inl ⟨_, fault, rfl⟩

theorem rejects_of_ofLine (invalid : ofLine policy line = .invalid reason)
    (fits : reason ≠ .unbuildable (.invalidRegex (.tooLarge Regex.sizeLimit))) :
    Rejects policy line reason := by
  rcases kind_cases line with ⟨domains, t, h⟩ | comment | ⟨pattern, tokens, parts⟩
  · have isRule := ofLine_eq_of_hides h policy
    rw [invalid] at isRule
    obtain ⟨e, fails, rfl⟩ := h.rule?_eq_invalid_iff.mp isRule
    exact .target h fails
  · cases (comment policy).symm.trans invalid
  · rcases parts.ofLine_cases policy with ⟨strict, unknown, refused⟩ | ⟨known, same, invalid_iff⟩
    · cases refused.symm.trans invalid
      exact .unknownOptions parts strict unknown
    · obtain ⟨e, refused, rfl⟩ := (invalid_iff reason).mp (same.symm.trans invalid)
      rcases Regex.compile_eq_error_iff.mp refused with ⟨fault, isFault, rfl⟩ | ⟨r, -, -, rfl⟩
      · by_cases literal : ∃ body, Pattern.IsLiteral pattern body
        · obtain ⟨body, isLiteral⟩ := literal
          rw [isLiteral.source_eq] at isFault
          exact .malformed parts known isLiteral isFault
        · obtain ⟨r, compiles⟩ :=
            Pattern.exists_ofChars_source (not_exists.mp literal) (namesCase tokens)
          cases compiles.symm.trans isFault
      · exact absurd rfl fits

end Rejections

/-- Apart from expressions that are too large, a line is invalid just for one of these reasons:
    - it hides elements, and two bare groups follow its tag, or its tag is a star and no group
      follows, or its selector is blank;
    - it is about requests, and an option is not known, and that is not passed over;
    - it is about requests, its options do not count against it, and its pattern is a faulty regular
      expression between slashes.
    A pattern that is none is always translated to an expression without a fault, and the policy
    makes no difference but to lines with unknown options. -/
theorem invalid_iff_rejects (policy : Policy) (line : String) :
    (∀ reason, Rejects policy line reason ↔ ofLine policy line = .invalid reason ∧
      reason ≠ .unbuildable (.invalidRegex (.tooLarge Regex.sizeLimit))) ∧
    (∀ pattern, (∀ body, ¬ Pattern.IsLiteral pattern body) → ∀ matchCase,
      ∃ r, Regex.ofChars matchCase (Pattern.source pattern) = .ok r) ∧
    (∀ pattern tokens, HasParts line pattern tokens → NamesUnknown tokens →
      ofLine .strict line = .invalid (.unknownOptions (unknownOf tokens))) ∧
    ((∀ pattern tokens, HasParts line pattern tokens → ¬ NamesUnknown tokens) →
      ofLine .strict line = ofLine .lenient line) := by
  refine ⟨fun reason => ⟨ofLine_of_rejects, ?_⟩, ?_, ?_, ?_⟩
  · rintro ⟨refused, fits⟩
    exact rejects_of_ofLine refused fits
  · intro pattern noLiteral matchCase
    exact Pattern.exists_ofChars_source noLiteral matchCase
  · intro pattern tokens parts unknown
    rcases parts.ofLine_cases .strict with ⟨-, -, refused⟩ | ⟨known, -, -⟩
    · exact refused
    · exact absurd ⟨rfl, unknown⟩ known
  · intro known
    rcases kind_cases line with ⟨domains, t, h⟩ | comment | ⟨pattern, tokens, parts⟩
    · have isRule := ofLine_eq_of_hides h
      exact Option.some.inj ((isRule .strict).symm.trans (isRule .lenient))
    · rw [comment, comment]
    · rcases parts.ofLine_cases .strict with ⟨-, unknown, -⟩ | ⟨-, same, -⟩
      · exact absurd unknown (known pattern tokens parts)
      · exact same

/-- Unknown options count before a faulty expression. -/
example : (ofLine .strict "/(/$b").rejection? = some (.unknownOptions ["b"]) ∧
    (ofLine .lenient "/(/$b").rejection? =
      some (.unbuildable (.invalidRegex (.malformed .groupUnclosed))) := by
  decide +kernel

end Rule

end AdFilter
