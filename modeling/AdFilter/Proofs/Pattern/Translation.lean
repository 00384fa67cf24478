import AdFilter.Proofs.Pattern.Meaning
import AdFilter.Proofs.Pattern.Reading
import AdFilter.Proofs.Regex.Sequence
import AdFilter.Proofs.Rule.Building
import AdFilter.Proofs.Unicode.CaseMates

/-! # Translating a pattern keeps its meaning

The regular expression that a glob is translated into is worked out, part by part, and each part
is shown to describe what the glob means by it. Line feeds are left aside if there are stars: a
star of a glob stands for them as well, but the translation of a star does not.
-/

namespace AdFilter.Pattern

open Regex Text Unicode

/-- The set together with the characters that count as its members. -/
def caseSet (matchCase : Bool) (s : CharSet) : CharSet :=
  if matchCase then s else .fold s

/-- The mode in which the translation of a pattern is read. -/
def modeOf (matchCase : Bool) : Mode :=
  { caseInsensitive := !matchCase }

def letterExpr (matchCase : Bool) (c : Char) : Regex :=
  .chars (caseSet matchCase (.single c))

def starExpr : Regex :=
  .rep (.chars (.compl (.single '\n'))) 0 none

def separatorSet : CharSet :=
  .union (.range (Char.ofNat 0x00) (Char.ofNat 0x24))
    (.union (.range (Char.ofNat 0x26) (Char.ofNat 0x2C))
      (.union (.single (Char.ofNat 0x2F))
        (.union (.range (Char.ofNat 0x3A) (Char.ofNat 0x40))
          (.union (.range (Char.ofNat 0x5B) (Char.ofNat 0x5E))
            (.union (.single (Char.ofNat 0x60))
              (.range (Char.ofNat 0x7B) (Char.ofNat 0x7F)))))))

def separatorExpr (matchCase : Bool) : Regex :=
  .alt (.chars (caseSet matchCase separatorSet)) (.look .endText)

def schemeExpr (matchCase : Bool) : Regex :=
  .rep (.chars (caseSet matchCase (.union .word (.single '-')))) 1 none

def labelsExpr (matchCase : Bool) : Regex :=
  .rep (.seq (.rep (.chars (.compl (caseSet matchCase (.single '/')))) 1 none)
    (letterExpr matchCase '.')) 0 (some 1)

def hostExprs (matchCase : Bool) : List Regex :=
  [.look .startText, schemeExpr matchCase, letterExpr matchCase ':',
    .rep (letterExpr matchCase '/') 1 none, labelsExpr matchCase]

def charExpr (matchCase : Bool) (c : Char) : Regex :=
  if c = '*' then starExpr else if c = '^' then separatorExpr matchCase else letterExpr matchCase c

def anchorExprs (matchCase : Bool) : Anchor → List Regex
  | .none => []
  | .start => [.look .startText]
  | .host => hostExprs matchCase

def endExprs (toEnd : Bool) : List Regex :=
  if toEnd then [.look .endText] else []

def Glob.ownExprs (matchCase : Bool) (g : Glob) : List Regex :=
  anchorExprs matchCase g.anchor ++ g.essence.map (charExpr matchCase) ++ endExprs g.toEnd

/-- The expression that the translation of a glob stands for. -/
def Glob.expr (matchCase : Bool) (g : Glob) : Regex :=
  if g.ownExprs matchCase = [] then starExpr else chain (g.ownExprs matchCase)

section Resolving

/-- The part stands for the expression. -/
def StandsFor (part : Nested Node) (r : Regex) : Prop :=
  part.part.resolve = .ok r

variable {matchCase : Bool}

theorem standsFor_char (c : Char) :
    StandsFor (charPart (modeOf matchCase) c) (charExpr matchCase c) := by
  unfold charPart charExpr
  split
  · cases matchCase <;> rfl
  · split <;> cases matchCase <;> rfl

theorem standsFor_anchor (a : Anchor) :
    List.Forall₂ StandsFor (anchorParts (modeOf matchCase) a) (anchorExprs matchCase a) := by
  cases a with
  | none => exact .nil
  | start => exact .cons rfl .nil
  | host =>
      cases matchCase <;>
        exact .cons rfl (.cons rfl (.cons rfl (.cons rfl (.cons rfl .nil))))

theorem standsFor_end (toEnd : Bool) :
    List.Forall₂ StandsFor (endParts (modeOf matchCase) toEnd) (endExprs toEnd) := by
  cases toEnd with
  | false => exact .nil
  | true => exact .cons rfl .nil

theorem standsFor_own (g : Glob) :
    List.Forall₂ StandsFor (g.ownParts (modeOf matchCase)) (g.ownExprs matchCase) := by
  have chars : List.Forall₂ StandsFor (g.essence.map (charPart (modeOf matchCase)))
      (g.essence.map (charExpr matchCase)) := by
    rw [List.forall₂_map_left_iff, List.forall₂_map_right_iff, List.forall₂_same]
    exact fun c _ => standsFor_char c
  exact List.rel_append (List.rel_append (standsFor_anchor g.anchor) chars) (standsFor_end g.toEnd)

theorem ofChars_source (g : Glob) :
    Regex.ofChars matchCase g.source = .ok (g.expr matchCase) := by
  have own : List.Forall₂ StandsFor (g.ownParts (modeOf matchCase)) (g.ownExprs matchCase) :=
    standsFor_own g
  have silent : g.ownParts (modeOf matchCase) = [] ↔ g.ownExprs matchCase = [] := by
    rw [← List.length_eq_zero_iff, ← List.length_eq_zero_iff, own.length_eq]
  have read := parse_glob (m := modeOf matchCase) rfl g
  unfold Regex.ofChars
  rw [show ({ caseInsensitive := !matchCase } : Mode) = modeOf matchCase from rfl, read]
  show Node.resolve _ = _
  unfold Glob.parts Glob.expr
  simp only [List.isEmpty_iff, silent]
  split
  · cases matchCase <;> rfl
  · exact resolve_combine own

end Resolving

section Characters

variable {matchCase : Bool} {c d : Char}

theorem mem_caseSet {s : CharSet} :
    (caseSet matchCase s).mem c = true ↔ ∃ d, s.mem d = true ∧ Agrees matchCase d c := by
  unfold caseSet Agrees
  cases matchCase with
  | true => simp
  | false =>
      simp only [Bool.false_eq_true, if_false, CharSet.mem, Bool.or_eq_true, List.any_eq_true]
      constructor
      · rintro (member | ⟨d, mate, member⟩)
        · exact ⟨c, member, .inl rfl⟩
        · exact ⟨d, member, .inr ⟨trivial, mate⟩⟩
      · rintro ⟨d, member, rfl | ⟨-, mate⟩⟩
        · exact .inl member
        · exact .inr ⟨d, mate, member⟩

theorem agrees_iff_eq (ascii : isAscii d = true) (noLetter : d.isAlpha = false) :
    Agrees matchCase d c ↔ c = d := by
  simp [Agrees, not_mem_caseMates ascii noLetter c]

theorem mem_caseSet_single : (caseSet matchCase (.single d)).mem c = true ↔ Agrees matchCase d c := by
  simp only [mem_caseSet, mem_single, exists_eq_left]

instance : DecidablePred IsSeparator := fun c =>
  inferInstanceAs (Decidable (isAscii c = true ∧ c.isAlphanum = false ∧ c ∉ ['_', '-', '.', '%']))

theorem isAscii_of_mem_separatorSet (member : separatorSet.mem c = true) : isAscii c = true := by
  have below {d : Char} (small : d.toNat < 0x80) (le : c ≤ d) : isAscii c = true := by
    have := UInt32.le_iff_toNat_le.mp (Char.le_def.mp le)
    exact decide_eq_true (Nat.lt_of_le_of_lt this small)
  simp only [separatorSet, CharSet.single, CharSet.mem, Bool.or_eq_true, Bool.and_eq_true,
    decide_eq_true_eq] at member
  rcases member with h | h | h | h | h | h | h <;> exact below (by decide) h.2

theorem mem_separatorSet : separatorSet.mem c = true ↔ IsSeparator c := by
  have table : ∀ n < 0x80, separatorSet.mem (Char.ofNat n) = true ↔ IsSeparator (Char.ofNat n) := by
    decide +kernel
  by_cases ascii : isAscii c = true
  · have entry := table c.toNat (of_decide_eq_true ascii)
    rwa [Char.ofNat_toNat] at entry
  · constructor
    · intro member
      exact absurd (isAscii_of_mem_separatorSet member) ascii
    · intro separates
      exact absurd separates.1 ascii

theorem mem_caseSet_separatorSet :
    (caseSet matchCase separatorSet).mem c = true ↔ IsSeparator c := by
  rw [mem_caseSet]
  constructor
  · rintro ⟨d, member, agrees⟩
    have separates := mem_separatorSet.mp member
    obtain rfl := (agrees_iff_eq separates.1 separates.isAlpha).mp agrees
    exact separates
  · intro separates
    exact ⟨c, mem_separatorSet.mpr separates, .inl rfl⟩

end Characters

section Describing

variable {matchCase : Bool} {before part after : List Char}

@[simp] theorem matches_letterExpr {d : Char} :
    Matches (letterExpr matchCase d) before part after ↔ ∃ c, part = [c] ∧ Agrees matchCase d c := by
  simp [letterExpr, mem_caseSet_single]

theorem matches_starExpr (oneLine : '\n' ∉ part) : Matches starExpr before part after := by
  refine matches_rep_chars.mpr ⟨Nat.zero_le _, fun c member => ?_⟩
  have notLineFeed : c ≠ '\n' := fun same => oneLine (same ▸ member)
  simpa [CharSet.mem, ← mem_single] using notLineFeed

@[simp] theorem matches_separatorExpr :
    Matches (separatorExpr matchCase) before part after ↔
      (∃ c, part = [c] ∧ IsSeparator c) ∨ (part = [] ∧ after = []) := by
  simp [separatorExpr, mem_caseSet_separatorSet]

/-- The characters of a glob describe what they stand for, on one line if there is a star among
    them. -/
theorem matches_chars_iff_fits {cs : List Char} (oneLine : '*' ∈ cs → '\n' ∉ part) :
    Matches (chain (cs.map (charExpr matchCase))) before part after ↔
      Fits matchCase cs part after := by
  induction cs generalizing before part with
  | nil => simp only [List.map_nil, matches_chain_nil, fits_nil]
  | cons d cs ih =>
      have later {x y : List Char} (split : part = x ++ y) : '*' ∈ cs → '\n' ∉ y :=
        fun star member => oneLine (List.mem_cons_of_mem d star)
          (split ▸ List.mem_append_right x member)
      simp only [List.map_cons, matches_chain_cons]
      by_cases star : d = '*'
      · subst star
        have oneLine := oneLine List.mem_cons_self
        simp only [charExpr, if_true, fits_star]
        constructor
        · rintro ⟨x, y, rfl, -, rest⟩
          exact ⟨x, y, rfl, (ih (later rfl)).mp rest⟩
        · rintro ⟨x, y, rfl, rest⟩
          exact ⟨x, y, rfl, matches_starExpr fun member => oneLine (List.mem_append_left y member),
            (ih (later rfl)).mpr rest⟩
      · by_cases separator : d = '^'
        · subst separator
          simp only [charExpr, star, if_false, if_true, matches_separatorExpr, fits_separator]
          constructor
          · rintro ⟨x, y, rfl, ⟨c, rfl, separates⟩ | ⟨rfl, none⟩, rest⟩
            · exact .inl ⟨c, y, rfl, separates, (ih (later rfl)).mp rest⟩
            · obtain ⟨rfl, rfl⟩ := List.append_eq_nil_iff.mp none
              exact .inr ⟨rfl, rfl, (ih (later rfl)).mp rest⟩
          · rintro (⟨c, y, rfl, separates, rest⟩ | ⟨rfl, rfl, rest⟩)
            · exact ⟨[c], y, rfl, .inl ⟨c, rfl, separates⟩, (ih (later (x := [c]) rfl)).mpr rest⟩
            · exact ⟨[], [], rfl, .inr ⟨rfl, rfl⟩, (ih (later (x := []) rfl)).mpr rest⟩
        · simp only [charExpr, star, separator, if_false, matches_letterExpr,
            fits_letter star separator]
          constructor
          · rintro ⟨x, y, rfl, ⟨c, rfl, agrees⟩, rest⟩
            exact ⟨c, y, rfl, agrees, (ih (later rfl)).mp rest⟩
          · rintro ⟨c, y, rfl, agrees, rest⟩
            exact ⟨[c], y, rfl, ⟨c, rfl, agrees⟩, (ih (later (x := [c]) rfl)).mpr rest⟩

theorem matches_schemeExpr :
    Matches (schemeExpr matchCase) before part after ↔
      part ≠ [] ∧ ∀ c ∈ part, IsSchemeChar matchCase c := by
  have member (c : Char) : (caseSet matchCase (.union .word (.single '-'))).mem c = true ↔
      IsSchemeChar matchCase c := by
    simp only [mem_caseSet, CharSet.mem, Bool.or_eq_true, mem_single, IsSchemeChar]
  simp only [schemeExpr, matches_rep_chars, member, Nat.succ_le_iff, List.length_pos_iff]

theorem matches_slashes :
    Matches (.rep (letterExpr matchCase '/') 1 none) before part after ↔
      part ≠ [] ∧ ∀ c ∈ part, c = '/' := by
  simp only [letterExpr, matches_rep_chars, mem_caseSet_single,
    agrees_iff_eq (d := '/') (by decide) (by decide), Nat.succ_le_iff, List.length_pos_iff]

theorem matches_labelsExpr :
    Matches (labelsExpr matchCase) before part after ↔
      part = [] ∨ ∃ run, run ≠ [] ∧ '/' ∉ run ∧ part = run ++ ['.'] := by
  have noSlash (c : Char) : (CharSet.compl (caseSet matchCase (.single '/'))).mem c = true ↔
      c ≠ '/' := by
    rw [CharSet.mem, Bool.not_eq_true', ← Bool.not_eq_true, mem_caseSet_single,
      agrees_iff_eq (by decide) (by decide)]
  simp only [labelsExpr, matches_optional, matches_seq, matches_rep_chars, noSlash,
    matches_letterExpr, agrees_iff_eq (d := '.') (by decide) (by decide), exists_eq_right,
    Nat.succ_le_iff, List.length_pos_iff]
  constructor
  · rintro (rfl | ⟨run, _, rfl, ⟨nonempty, slashless⟩, rfl⟩)
    · exact .inl rfl
    · exact .inr ⟨run, nonempty, fun member => slashless '/' member rfl, rfl⟩
  · rintro (rfl | ⟨run, nonempty, slashless, rfl⟩)
    · exact .inl rfl
    · exact .inr ⟨run, ['.'], rfl, ⟨nonempty, fun c member same => slashless (same ▸ member)⟩, rfl⟩

@[simp] theorem matches_hostExprs :
    Matches (chain (hostExprs matchCase)) before part after ↔
      before = [] ∧ IsHostPrefix matchCase part := by
  simp only [hostExprs, matches_chain_cons, matches_startText, matches_schemeExpr,
    matches_letterExpr, matches_slashes, matches_labelsExpr,
    agrees_iff_eq (d := ':') (by decide) (by decide), exists_eq_right, matches_chain_nil]
  constructor
  · rintro ⟨_, _, rfl, ⟨rfl, rfl⟩, scheme, _, rfl, hscheme, _, _, rfl, rfl, slashes, _, rfl, hslashes,
      labels, _, rfl, hlabels, rfl⟩
    exact ⟨rfl, scheme, slashes, labels, by simp, hscheme, hslashes, hlabels⟩
  · rintro ⟨rfl, scheme, slashes, labels, rfl, hscheme, hslashes, hlabels⟩
    exact ⟨[], _, rfl, ⟨rfl, rfl⟩, scheme, ':' :: slashes ++ labels, by simp, hscheme, [':'],
      slashes ++ labels, rfl, rfl, slashes, labels, rfl, hslashes, labels, [], by simp, hlabels, rfl⟩

theorem matches_anchor {a : Anchor} {head : List Char} :
    (∃ before part, head = before ++ part ∧
      Matches (chain (anchorExprs matchCase a)) before part after) ↔
        Glob.IsHead matchCase a head := by
  cases a with
  | none => simp [anchorExprs, Glob.IsHead]
  | start => simp [anchorExprs, Glob.IsHead]
  | host => simp [anchorExprs, Glob.IsHead]

theorem matches_end {toEnd : Bool} :
    Matches (chain (endExprs toEnd)) before part after ↔
      part = [] ∧ (toEnd = true → after = []) := by
  cases toEnd with
  | false => simp [endExprs]
  | true => simp [endExprs]

end Describing

section Globs

variable {matchCase : Bool}

theorem ordered_charExpr (c : Char) : (charExpr matchCase c).Ordered := by
  unfold charExpr
  split
  · simp [starExpr, Regex.Ordered]
  · split <;> simp [separatorExpr, letterExpr, Regex.Ordered]

theorem ordered_expr (g : Glob) : (g.expr matchCase).Ordered := by
  unfold Glob.expr
  split
  · simp [starExpr, Regex.Ordered]
  · refine ordered_chain fun r member => ?_
    unfold Glob.ownExprs at member
    rcases List.mem_append.mp member with member | member
    · rcases List.mem_append.mp member with member | member
      · cases h : g.anchor with
        | none => simp [h, anchorExprs] at member
        | start =>
            simp only [h, anchorExprs, List.mem_singleton] at member
            exact member ▸ trivial
        | host =>
            simp only [h, anchorExprs, hostExprs, List.mem_cons, List.not_mem_nil, or_false] at member
            rcases member with rfl | rfl | rfl | rfl | rfl <;>
              simp [schemeExpr, letterExpr, labelsExpr, Regex.Ordered]
      · obtain ⟨c, -, rfl⟩ := List.mem_map.mp member
        exact ordered_charExpr c
    · cases h : g.toEnd with
      | false => simp [h, endExprs] at member
      | true =>
          simp only [h, endExprs, if_true, List.mem_singleton] at member
          exact member ▸ trivial

theorem occurs_own {g : Glob} {url : List Char} (oneLine : '*' ∈ g.essence → '\n' ∉ url) :
    (chain (g.ownExprs matchCase)).Occurs url ↔ ∃ head rest, url = head ++ rest ∧
      Glob.IsHead matchCase g.anchor head ∧ Glob.Starts matchCase g.essence g.toEnd rest := by
  simp only [Occurs, Glob.ownExprs, matches_chain_append, matches_end]
  constructor
  · rintro ⟨before, _, after, rfl, _, _, rfl, ⟨x, part, rfl, anchored, body⟩, rfl, ends⟩
    refine ⟨before ++ x, part ++ after, by simp, matches_anchor.mp ⟨before, x, rfl, anchored⟩,
      part, after, rfl, ends, ?_⟩
    refine (matches_chars_iff_fits fun star member => oneLine star ?_).mp body
    simp [member]
  · rintro ⟨head, _, rfl, isHead, part, after, rfl, ends, fits⟩
    obtain ⟨before, x, rfl, anchored⟩ := matches_anchor.mpr isHead
    refine ⟨before, x ++ part, after, by simp, x ++ part, [], by simp, ⟨x, part, rfl, anchored, ?_⟩,
      rfl, ends⟩
    refine (matches_chars_iff_fits fun star member => oneLine star ?_).mpr fits
    simp [member]

theorem occurs_expr (g : Glob) (url : List Char) :
    (g.expr matchCase).Occurs url ↔ (chain (g.ownExprs matchCase)).Occurs url := by
  unfold Glob.expr
  split
  · rename_i silent
    rw [silent]
    have star : starExpr.Occurs url := ⟨[], [], url, rfl, matches_starExpr (by simp)⟩
    have empty : (chain []).Occurs url := ⟨[], [], url, rfl, matches_chain_nil.mpr rfl⟩
    exact iff_of_true star empty
  · rfl

theorem isMatch_glob_expr {g : Glob} {url : List Char} (oneLine : '*' ∈ g.essence → '\n' ∉ url) :
    Regex.isMatch (g.expr matchCase) url = true ↔ ∃ head rest, url = head ++ rest ∧
      Glob.IsHead matchCase g.anchor head ∧ Glob.Starts matchCase g.essence g.toEnd rest := by
  rw [isMatch_iff_occurs (ordered_expr _), occurs_expr, occurs_own oneLine]

/-- The search for the expression of a pattern finds something where the pattern applies. -/
theorem isMatch_expr {pattern url : List Char} (oneLine : '\n' ∉ url) :
    Regex.isMatch ((Glob.ofChars pattern).expr matchCase) url = true ↔
      AppliesTo matchCase pattern url := by
  rw [isMatch_glob_expr fun _ => oneLine, Glob.starts_essence, Glob.appliesTo_iff]

theorem source_of_glob {pattern : List Char}
    (isGlob : ¬ (pattern.head? = some '/' ∧ pattern.getLast? = some '/')) :
    source pattern = (Glob.ofChars pattern).source := by
  have none : literal? pattern = none := by
    unfold literal?
    split
    · rename_i rest
      by_cases lone : rest = []
      · exact absurd (by simp [lone]) isGlob
      · have last : ('/' :: rest).getLast? = rest.getLast? := by
          rw [List.getLast?_cons, List.getLast?_eq_some_getLast lone, Option.getD_some]
        have noSlash : rest.getLast? ≠ some '/' := fun slash => isGlob ⟨rfl, last.trans slash⟩
        simp [lone, noSlash]
    · rfl
  rw [source, none]

theorem compile_glob (g : Glob) :
    Regex.compile matchCase g.source =
      if footprint (g.expr matchCase) ≤ sizeLimit then .ok (g.expr matchCase)
      else .error (.tooLarge sizeLimit) := by
  rw [Regex.compile, ofChars_source]

end Globs

/-- A pattern without slashes at both ends compiles, unless it is too large, to a rule that applies
    to the URLs that the pattern applies to. -/
theorem make_source_applies_iff (pattern : String) (matchCase : Bool)
    (isGlob : ¬ (pattern.toList.head? = some '/' ∧ pattern.toList.getLast? = some '/')) :
    match RequestRule.make (String.ofList (source pattern.toList)) { matchCase } with
    | .ok rule => ∀ url : String, '\n' ∉ url.toList →
        (rule.applies { url, types := ContentType.other.mask } = true ↔
          AppliesTo matchCase pattern.toList url.toList)
    | .error e => e = .invalidRegex (.tooLarge sizeLimit) := by
  have compiled : Regex.compile ({ matchCase } : Conditions).matchCase _ = _ :=
    compile_glob (Glob.ofChars pattern.toList)
  rw [← source_of_glob isGlob] at compiled
  have text : (String.ofList (source pattern.toList)).toList = source pattern.toList :=
    String.toList_ofList
  by_cases small : footprint ((Glob.ofChars pattern.toList).expr matchCase) ≤ sizeLimit
  · rw [if_pos small, ← text] at compiled
    rw [RequestRule.make_of_compile compiled]
    intro url oneLine
    have meets : ContentType.other.mask.meets .standard = true := by decide
    rw [← isMatch_expr oneLine]
    simp [RequestRule.applies, RequestRule.types, meets]
  · rw [if_neg small, ← text] at compiled
    rw [RequestRule.make_of_fault compiled]

/-- Anchors at both ends, a separator, a star and a letter of the other case. -/
theorem make_source_applies_iff_anchored :
    ¬ ("|s:^*A|".toList.head? = some '/' ∧ "|s:^*A|".toList.getLast? = some '/') ∧
      '\n' ∉ "s:/x/a".toList ∧ AppliesTo false "|s:^*A|".toList "s:/x/a".toList ∧
      ∃ rule, RequestRule.make (String.ofList (source "|s:^*A|".toList)) {} = .ok rule ∧
        rule.applies { url := "s:/x/a", types := ContentType.other.mask } = true := by
  have isGlob : ¬ ("|s:^*A|".toList.head? = some '/' ∧ "|s:^*A|".toList.getLast? = some '/') := by
    decide
  have oneLine : '\n' ∉ "s:/x/a".toList := by decide
  have applies : AppliesTo false "|s:^*A|".toList "s:/x/a".toList := by
    have letter : Fits false ['A'] ['a'] [] :=
      .letter (by decide) (by decide) (.inr ⟨rfl, by decide⟩) .nil
    have star : Fits false ['*', 'A'] (['x', '/'] ++ ['a']) [] := .star letter
    have separator : Fits false ['^', '*', 'A'] ['/', 'x', '/', 'a'] [] :=
      .separator (by decide) star
    exact .letter (d := 's') (by decide) (by decide) (.inl rfl)
      (.letter (d := ':') (by decide) (by decide) (.inl rfl) separator)
  have small : footprint ((Glob.ofChars "|s:^*A|".toList).expr false) ≤ sizeLimit := by
    decide +kernel
  have applies_iff := make_source_applies_iff "|s:^*A|" false isGlob
  refine ⟨isGlob, oneLine, applies, ?_⟩
  cases made : RequestRule.make (String.ofList (source "|s:^*A|".toList)) {} with
  | ok rule =>
      rw [made] at applies_iff
      exact ⟨rule, rfl, (applies_iff "s:/x/a" oneLine).mpr applies⟩
  | error e =>
      obtain ⟨e', fault, -⟩ := RequestRule.make_eq_error_iff.mp made
      rw [String.toList_ofList, source_of_glob isGlob, compile_glob, if_pos small] at fault
      cases fault

end AdFilter.Pattern
