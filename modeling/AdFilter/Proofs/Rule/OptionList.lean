import AdFilter.Proofs.Regex.Sequence
import AdFilter.Proofs.Text.Pieces
import AdFilter.Rule.Options
import Mathlib.Data.List.TakeWhile

/-! # The form of a list of options

What a list of options looks like is said in three ways: by a grammar, by the scanner that looks for
the list in a line, and by a regular expression. All three mean the same texts.
-/

namespace AdFilter

open Text

/-- An option as it is written. -/
structure WrittenOption where
  /-- A tilde stands in front. -/
  negated : Bool := false
  name : List Char
  /-- What stands behind an equals sign, if there is one. -/
  value : Option (List Char) := none
  deriving Repr, DecidableEq

namespace WrittenOption

def sign (o : WrittenOption) : List Char :=
  if o.negated then ['~'] else []

def assigned (o : WrittenOption) : List Char :=
  match o.value with
  | some value => '=' :: value
  | none => []

def write (o : WrittenOption) : List Char :=
  o.sign ++ o.name ++ o.assigned

/-- There is a name of letters, digits, underscores and hyphens, and a value has characters other
    than commas and blanks. -/
structure WellFormed (o : WrittenOption) : Prop where
  name_ne_nil : o.name ≠ []
  isNameChar : ∀ c ∈ o.name, isNameChar c = true
  value_ne_nil : o.value ≠ some []
  value_chars : ∀ value ∈ o.value, ∀ c ∈ value, c ≠ ',' ∧ isBlank c = false

variable {o : WrittenOption}

theorem WellFormed.no_comma (wellFormed : o.WellFormed) : ',' ∉ o.write := by
  have name : ',' ∉ o.name := by
    intro comma
    have isNameChar := wellFormed.isNameChar ',' comma
    revert isNameChar
    decide
  have value : ',' ∉ o.assigned := by
    unfold assigned
    split
    · rename_i value given
      intro comma
      exact (wellFormed.value_chars value given ',' (by simpa using comma)).1 rfl
    · simp
  cases h : o.negated <;> simp [write, sign, h, name, value]

theorem not_isNameChar_of_head? (o : WrittenOption) :
    ∀ c ∈ o.assigned.head?, isNameChar c = false := by
  unfold assigned
  split
  · rintro c ⟨⟩
    decide
  · simp

end WrittenOption

/-- The token is an option that is well-formed. -/
def IsOptionToken (token : List Char) : Prop :=
  ∃ o : WrittenOption, o.WellFormed ∧ token = o.write

/-- The text consists of one or more options with commas between them. -/
def IsOptionList (list : List Char) : Prop :=
  ∃ tokens, tokens ≠ [] ∧ (∀ token ∈ tokens, IsOptionToken token) ∧ list = join ',' tokens

theorem IsOptionToken.no_comma {token : List Char} (isToken : IsOptionToken token) :
    ',' ∉ token := by
  obtain ⟨o, wellFormed, rfl⟩ := isToken
  exact wellFormed.no_comma

theorem isOptionList_iff {list : List Char} :
    IsOptionList list ↔ ∀ token ∈ pieces ',' list, IsOptionToken token := by
  constructor
  · rintro ⟨tokens, some, all, rfl⟩
    rw [pieces_join_of_not_mem some fun token member => (all token member).no_comma]
    exact all
  · intro all
    exact ⟨pieces ',' list, pieces_ne_nil ',' list, all, (join_pieces ',' list).symm⟩

section Scanner

open RuleOptions WrittenOption

variable {body token : List Char} {o : WrittenOption}

/-- What the scanner asks of an option behind its tilde. -/
def isUnsigned (body : List Char) : Bool :=
  !(body.takeWhile isNameChar).isEmpty &&
    ((body.dropWhile isNameChar).isEmpty ||
      ((body.dropWhile isNameChar).head? == some '=' &&
        2 ≤ (body.dropWhile isNameChar).length &&
          ((body.dropWhile isNameChar).drop 1).all (!isBlank ·)))

theorem isOption_eq (token : List Char) :
    isOption token = isUnsigned (if token.head? = some '~' then token.drop 1 else token) :=
  rfl

theorem isUnsigned_write (wellFormed : o.WellFormed) : isUnsigned (o.name ++ o.assigned) = true := by
  have taken : (o.name ++ o.assigned).takeWhile isNameChar = o.name := by
    rw [List.takeWhile_append_of_pos wellFormed.isNameChar]
    cases h : o.assigned with
    | nil => simp
    | cons c rest => simp [o.not_isNameChar_of_head? c (by simp [h])]
  have left : (o.name ++ o.assigned).dropWhile isNameChar = o.assigned := by
    rw [List.dropWhile_append_of_pos wellFormed.isNameChar]
    cases h : o.assigned with
    | nil => rfl
    | cons c rest => simp [o.not_isNameChar_of_head? c (by simp [h])]
  rw [isUnsigned, taken, left, List.isEmpty_eq_false_iff.mpr wellFormed.name_ne_nil]
  cases given : o.value with
  | none => simp [assigned, given]
  | some value =>
      have solid : value.all (!isBlank ·) = true := by
        simpa using fun c member => (wellFormed.value_chars value given c member).2
      have long : 1 ≤ value.length :=
        List.length_pos_iff.mpr fun empty => wellFormed.value_ne_nil (given.trans (empty ▸ rfl))
      simp only [assigned, given, List.drop_one, List.tail_cons, solid]
      simpa using long

theorem isOption_write (wellFormed : o.WellFormed) : isOption o.write = true := by
  have behind : (if o.write.head? = some '~' then o.write.drop 1 else o.write) =
      o.name ++ o.assigned := by
    cases negated : o.negated with
    | true => simp [write, sign, negated]
    | false =>
        have noTilde : (o.name ++ o.assigned).head? ≠ some '~' := by
          rw [List.head?_append_of_ne_nil _ wellFormed.name_ne_nil]
          intro tilde
          have isNameChar := wellFormed.isNameChar '~' (List.mem_of_mem_head? tilde)
          revert isNameChar
          decide
        have unsigned : o.write = o.name ++ o.assigned := by simp [write, sign, negated]
        rw [unsigned, if_neg noTilde]
  rw [isOption_eq, behind]
  exact isUnsigned_write wellFormed

theorem exists_of_isUnsigned (negated : Bool) (noComma : ',' ∉ body)
    (accepted : isUnsigned body = true) :
    ∃ o : WrittenOption, o.WellFormed ∧ o.negated = negated ∧ body = o.name ++ o.assigned := by
  have whole := List.takeWhile_append_dropWhile (p := isNameChar) (l := body)
  simp only [isUnsigned, Bool.and_eq_true, Bool.or_eq_true, Bool.not_eq_true',
    List.isEmpty_eq_false_iff, List.isEmpty_iff, beq_iff_eq, decide_eq_true_eq,
    List.all_eq_true] at accepted
  obtain ⟨someName, nothing | ⟨⟨sign, long⟩, solid⟩⟩ := accepted
  · refine ⟨⟨negated, body.takeWhile isNameChar, none⟩, ⟨someName, ?_, nofun, nofun⟩, rfl, ?_⟩
    · exact fun c member => List.mem_takeWhile_imp member
    · rw [nothing, List.append_nil] at whole
      simpa [assigned] using whole.symm
  · obtain ⟨value, behind⟩ := List.head?_eq_some_iff.mp sign
    rw [behind] at long solid whole
    refine ⟨⟨negated, body.takeWhile isNameChar, value⟩, ⟨someName, ?_, ?_, ?_⟩, rfl, whole.symm⟩
    · exact fun c member => List.mem_takeWhile_imp member
    · rintro ⟨⟩
      simp at long
    · rintro _ ⟨⟩ c member
      refine ⟨?_, solid c member⟩
      rintro rfl
      refine noComma (whole ▸ ?_)
      simp [member]

/-- Between commas the scanner takes nothing but options that are well-formed. -/
theorem isOption_iff (noComma : ',' ∉ token) : isOption token = true ↔ IsOptionToken token := by
  constructor
  · rw [isOption_eq]
    intro accepted
    split at accepted
    · rename_i tilde
      obtain ⟨body, rfl⟩ := List.head?_eq_some_iff.mp tilde
      have noComma' : ',' ∉ body := fun comma => noComma (List.mem_cons_of_mem _ comma)
      obtain ⟨o, wellFormed, negated, rfl⟩ := exists_of_isUnsigned true noComma' accepted
      exact ⟨o, wellFormed, by simp [write, sign, negated]⟩
    · obtain ⟨o, wellFormed, bare, rfl⟩ := exists_of_isUnsigned false noComma accepted
      exact ⟨o, wellFormed, by simp [write, sign, bare]⟩
  · rintro ⟨o, wellFormed, rfl⟩
    exact isOption_write wellFormed

theorem isOptionList_eq_true_iff {list : List Char} :
    isOptionList list = true ↔ IsOptionList list := by
  rw [isOptionList, List.all_eq_true, isOptionList_iff]
  refine forall₂_congr fun token isPiece => isOption_iff fun comma => ?_
  exact (mem_of_mem_pieces isPiece comma).2 rfl

end Scanner

namespace RuleOptions

open Regex

/-- A dollar sign and a list of options behind it, up to the end. -/
def listSource : String :=
  r"\$(~?[A-Za-z0-9_-]+(?:=[^,\s]+)?(?:,~?[A-Za-z0-9_-]+(?:=[^,\s]+)?)*)$"

def nameSet : CharSet :=
  .union (.range 'A' 'Z') (.union (.range 'a' 'z') (.union (.range '0' '9')
    (.union (.single '_') (.single '-'))))

def valueSet : CharSet :=
  .compl (.union (.single ',') .space)

def optionExprs : List Regex :=
  [.rep (.chars (.single '~')) 0 (some 1), .rep (.chars nameSet) 1 none,
    .rep (.seq (.chars (.single '=')) (.rep (.chars valueSet) 1 none)) 0 (some 1)]

def nextExpr : Regex :=
  chain (.chars (.single ',') :: optionExprs)

def listExpr : Regex :=
  chain [.chars (.single '$'), chain (optionExprs ++ [.rep nextExpr 0 none]), .look .endText]

theorem ofChars_listSource : Regex.ofChars true listSource.toList = .ok listExpr := by
  with_unfolding_all rfl

section Expression

variable {before part after : List Char} {c : Char}

@[simp] theorem mem_nameSet : nameSet.mem c = true ↔ isNameChar c = true := by
  unfold isNameChar Char.isAlphanum Char.isAlpha Char.isUpper Char.isLower Char.isDigit
  simp only [nameSet, mem_single, CharSet.mem, Char.le_def, ge_iff_le, Bool.or_eq_true,
    Bool.and_eq_true, decide_eq_true_eq, beq_iff_eq, or_assoc]

@[simp] theorem mem_valueSet : valueSet.mem c = true ↔ c ≠ ',' ∧ isBlank c = false := by
  simp [valueSet]

@[simp] theorem matches_optionExprs :
    Matches (chain optionExprs) before part after ↔ IsOptionToken part := by
  simp only [optionExprs, matches_chain_cons, matches_chain_nil, matches_optional, matches_seq,
    matches_rep_chars, matches_chars, mem_single, mem_nameSet, mem_valueSet, exists_eq_right,
    Nat.succ_le_iff, List.length_pos_iff]
  constructor
  · rintro ⟨sign, _, rfl, hsign, name, _, rfl, ⟨someName, isName⟩, assigned, _, rfl, hvalue, rfl⟩
    obtain ⟨negated, rfl⟩ : ∃ negated : Bool, sign = if negated then ['~'] else [] := by
      rcases hsign with rfl | rfl
      · exact ⟨false, rfl⟩
      · exact ⟨true, rfl⟩
    rcases hvalue with rfl | ⟨_, value, rfl, rfl, someValue, isValue⟩
    · exact ⟨⟨negated, name, none⟩, ⟨someName, isName, by simp, by simp⟩,
        by simp [WrittenOption.write, WrittenOption.sign, WrittenOption.assigned]⟩
    · exact ⟨⟨negated, name, value⟩,
        ⟨someName, isName, by simpa using someValue, by simpa using isValue⟩,
        by simp [WrittenOption.write, WrittenOption.sign, WrittenOption.assigned]⟩
  · rintro ⟨o, wellFormed, rfl⟩
    refine ⟨o.sign, o.name ++ o.assigned, by simp [WrittenOption.write], ?_, o.name, o.assigned, rfl,
      ⟨wellFormed.name_ne_nil, wellFormed.isNameChar⟩, o.assigned, [], by simp, ?_, rfl⟩
    · cases h : o.negated <;> simp [WrittenOption.sign, h]
    · cases given : o.value with
      | none => exact .inl (by simp [WrittenOption.assigned, given])
      | some value =>
          refine .inr ⟨['='], value, by simp [WrittenOption.assigned, given], rfl, ?_,
            wellFormed.value_chars value given⟩
          rintro rfl
          exact wellFormed.value_ne_nil given

theorem matches_nextExpr :
    Matches nextExpr before part after ↔ ∃ token, part = ',' :: token ∧ IsOptionToken token := by
  simp only [nextExpr, matches_chain_cons, matches_chars, mem_single, matches_optionExprs,
    exists_eq_right]
  constructor
  · rintro ⟨_, token, rfl, rfl, isToken⟩
    exact ⟨token, rfl, isToken⟩
  · rintro ⟨token, rfl, isToken⟩
    exact ⟨[','], token, rfl, rfl, isToken⟩

theorem matches_star_nextExpr :
    Matches (.rep nextExpr 0 none) before part after ↔
      ∃ tokens : List (List Char), part = tokens.flatMap (',' :: ·) ∧
        ∀ token ∈ tokens, IsOptionToken token := by
  rw [matches_star fun _ _ _ => matches_nextExpr]
  constructor
  · rintro ⟨rounds, rfl, all⟩
    refine ⟨rounds.map List.tail, ?_, ?_⟩
    · have same : rounds.map (fun round => ',' :: round.tail) = rounds.map id := by
        refine List.map_congr_left fun round member => ?_
        obtain ⟨token, rfl, -⟩ := all round member
        rfl
      rw [List.flatMap_def, List.map_map]
      exact (congrArg List.flatten (same.trans (List.map_id rounds))).symm
    · intro token member
      obtain ⟨round, isRound, rfl⟩ := List.mem_map.mp member
      obtain ⟨token, rfl, isToken⟩ := all round isRound
      exact isToken
  · rintro ⟨tokens, rfl, all⟩
    refine ⟨tokens.map (',' :: ·), List.flatMap_def, ?_⟩
    intro round member
    obtain ⟨token, isToken, rfl⟩ := List.mem_map.mp member
    exact ⟨token, rfl, all token isToken⟩

/-- The expression describes a dollar sign with a list of options that reaches to the end. -/
theorem matches_listExpr :
    Matches listExpr before part after ↔
      ∃ list, part = '$' :: list ∧ after = [] ∧ IsOptionList list := by
  have body {before part after : List Char} :
      Matches (chain (optionExprs ++ [.rep nextExpr 0 none])) before part after ↔
        IsOptionList part := by
    simp only [matches_chain_append, matches_optionExprs, chain, matches_star_nextExpr]
    constructor
    · rintro ⟨token, _, rfl, isToken, tokens, rfl, all⟩
      exact ⟨token :: tokens, List.cons_ne_nil _ _, List.forall_mem_cons.mpr ⟨isToken, all⟩,
        (join_cons token tokens).symm⟩
    · rintro ⟨tokens, some, all, rfl⟩
      obtain ⟨token, tokens, rfl⟩ := List.exists_cons_of_ne_nil some
      obtain ⟨isToken, others⟩ := List.forall_mem_cons.mp all
      exact ⟨token, _, join_cons token tokens, isToken, tokens, rfl, others⟩
  simp only [listExpr, matches_chain_cons, matches_chain_nil, matches_chars, mem_single,
    exists_eq_right, matches_endText, body]
  constructor
  · rintro ⟨_, _, rfl, rfl, list, _, rfl, isList, _, _, rfl, ⟨rfl, none⟩, rfl⟩
    exact ⟨list, by simp, none, isList⟩
  · rintro ⟨list, rfl, rfl, isList⟩
    exact ⟨['$'], list, rfl, rfl, list, [], by simp, isList, [], [], rfl, ⟨rfl, rfl⟩, rfl⟩

end Expression

end RuleOptions

end AdFilter
