import AdFilter.Regex.CharSet
import AdFilter.Rule.Pattern

/-! # What patterns mean

A glob is given a meaning of its own, without regular expressions: which parts of a URL its body
stands for, and what its anchors ask of the rest. The laws that follow say that stars which the
translation leaves out make no difference.
-/

namespace AdFilter.Pattern

open Regex Text Unicode

/-- Whether `c` counts as `d`: it is the same character, or one that differs from it only in case
    where case does not count. -/
def Agrees (matchCase : Bool) (d c : Char) : Prop :=
  c = d ∨ (matchCase = false ∧ d ∈ caseMates c)

/-- An ASCII character that is no letter, no digit and none of `_-.%`. -/
def IsSeparator (c : Char) : Prop :=
  isAscii c = true ∧ c.isAlphanum = false ∧ c ∉ ['_', '-', '.', '%']

/-- A word character or a hyphen. -/
def IsSchemeChar (matchCase : Bool) (c : Char) : Prop :=
  ∃ d, (CharSet.word.mem d = true ∨ d = '-') ∧ Agrees matchCase d c

/-- `Fits matchCase body part after`: the body of a glob stands for `part` where `after` is the
    rest of the URL. -/
inductive Fits (matchCase : Bool) : List Char → List Char → List Char → Prop where
  | nil {after} : Fits matchCase [] [] after
  | star {body x y after} : Fits matchCase body y after → Fits matchCase ('*' :: body) (x ++ y) after
  | separator {c body part after} : IsSeparator c → Fits matchCase body part after →
      Fits matchCase ('^' :: body) (c :: part) after
  | urlEnd {body} : Fits matchCase body [] [] → Fits matchCase ('^' :: body) [] []
  | letter {d c body part after} : d ≠ '*' → d ≠ '^' → Agrees matchCase d c →
      Fits matchCase body part after → Fits matchCase (d :: body) (c :: part) after

/-- What two bars in front of a glob stand for: a scheme, a colon, slashes, and perhaps some text
    without slashes that ends in a dot. -/
def IsHostPrefix (matchCase : Bool) (head : List Char) : Prop :=
  ∃ scheme slashes labels, head = scheme ++ ':' :: slashes ++ labels ∧
    (scheme ≠ [] ∧ ∀ c ∈ scheme, IsSchemeChar matchCase c) ∧
    (slashes ≠ [] ∧ ∀ c ∈ slashes, c = '/') ∧
    (labels = [] ∨ ∃ run, run ≠ [] ∧ '/' ∉ run ∧ labels = run ++ ['.'])

/-- What follows the leading anchor of a glob applies to a text from its first character on. A bar
    at the end of the glob ties it to the end of the text. -/
def BeginsWith (matchCase : Bool) (body text : List Char) : Prop :=
  if body.getLast? = some '|' then Fits matchCase body.dropLast text []
  else ∃ part after, text = part ++ after ∧ Fits matchCase body part after

/-- The glob applies to the URL. -/
def AppliesTo (matchCase : Bool) (pattern url : List Char) : Prop :=
  match pattern with
  | '|' :: '|' :: body =>
      ∃ head rest, url = head ++ rest ∧ IsHostPrefix matchCase head ∧ BeginsWith matchCase body rest
  | '|' :: body => BeginsWith matchCase body url
  | body => ∃ before rest, url = before ++ rest ∧ BeginsWith matchCase body rest

theorem IsSeparator.isAlpha {c : Char} (separates : IsSeparator c) : c.isAlpha = false := by
  have := separates.2.1
  rw [Char.isAlphanum, Bool.or_eq_false_iff] at this
  exact this.1

section Fits

variable {matchCase : Bool} {body part after : List Char}

theorem fits_nil : Fits matchCase [] part after ↔ part = [] := by
  constructor
  · intro h
    cases h
    rfl
  · rintro rfl
    exact .nil

theorem fits_star :
    Fits matchCase ('*' :: body) part after ↔ ∃ x y, part = x ++ y ∧ Fits matchCase body y after := by
  constructor
  · intro h
    cases h with
    | star h => exact ⟨_, _, rfl, h⟩
    | letter notStar => exact absurd rfl notStar
  · rintro ⟨x, y, rfl, h⟩
    exact .star h

theorem fits_separator :
    Fits matchCase ('^' :: body) part after ↔
      (∃ c rest, part = c :: rest ∧ IsSeparator c ∧ Fits matchCase body rest after) ∨
        (part = [] ∧ after = [] ∧ Fits matchCase body [] []) := by
  constructor
  · intro h
    cases h with
    | separator separates h => exact .inl ⟨_, _, rfl, separates, h⟩
    | urlEnd h => exact .inr ⟨rfl, rfl, h⟩
    | letter _ notSeparator => exact absurd rfl notSeparator
  · rintro (⟨c, rest, rfl, separates, h⟩ | ⟨rfl, rfl, h⟩)
    · exact .separator separates h
    · exact .urlEnd h

theorem fits_letter {d : Char} (notStar : d ≠ '*') (notSeparator : d ≠ '^') :
    Fits matchCase (d :: body) part after ↔
      ∃ c rest, part = c :: rest ∧ Agrees matchCase d c ∧ Fits matchCase body rest after := by
  constructor
  · intro h
    cases h with
    | star => exact absurd rfl notStar
    | separator | urlEnd => exact absurd rfl notSeparator
    | letter _ _ agrees h => exact ⟨_, _, rfl, agrees, h⟩
  · rintro ⟨c, rest, rfl, agrees, h⟩
    exact .letter notStar notSeparator agrees h

theorem fits_cons_congr {body' : List Char}
    (same : ∀ part after, Fits matchCase body part after ↔ Fits matchCase body' part after)
    (d : Char) :
    Fits matchCase (d :: body) part after ↔ Fits matchCase (d :: body') part after := by
  by_cases star : d = '*'
  · subst star
    simp only [fits_star, same]
  · by_cases separator : d = '^'
    · subst separator
      simp only [fits_separator, same]
    · simp only [fits_letter star separator, same]

theorem fits_append {first second : List Char} :
    Fits matchCase (first ++ second) part after ↔ ∃ x y, part = x ++ y ∧
      Fits matchCase first x (y ++ after) ∧ Fits matchCase second y after := by
  induction first generalizing part after with
  | nil =>
      simp only [List.nil_append, fits_nil]
      constructor
      · intro h
        exact ⟨[], part, rfl, rfl, h⟩
      · rintro ⟨_, y, rfl, rfl, h⟩
        exact h
  | cons d first ih =>
      rw [List.cons_append]
      by_cases star : d = '*'
      · subst star
        simp only [fits_star, ih]
        constructor
        · rintro ⟨u, _, rfl, x, y, rfl, h, h'⟩
          exact ⟨u ++ x, y, by simp, ⟨u, x, rfl, h⟩, h'⟩
        · rintro ⟨_, y, rfl, ⟨u, x, rfl, h⟩, h'⟩
          exact ⟨u, x ++ y, by simp, x, y, rfl, h, h'⟩
      · by_cases separator : d = '^'
        · subst separator
          simp only [fits_separator, ih]
          constructor
          · rintro (⟨c, _, rfl, separates, x, y, rfl, h, h'⟩ | ⟨rfl, rfl, x, y, none, h, h'⟩)
            · exact ⟨c :: x, y, rfl, .inl ⟨c, x, rfl, separates, h⟩, h'⟩
            · obtain ⟨rfl, rfl⟩ := List.append_eq_nil_iff.mp none.symm
              exact ⟨[], [], rfl, .inr ⟨rfl, rfl, h⟩, h'⟩
          · rintro ⟨_, y, rfl, ⟨c, x, rfl, separates, h⟩ | ⟨rfl, none, h⟩, h'⟩
            · exact .inl ⟨c, x ++ y, rfl, separates, x, y, rfl, h, h'⟩
            · obtain ⟨rfl, rfl⟩ := List.append_eq_nil_iff.mp none
              exact .inr ⟨rfl, rfl, [], [], rfl, h, h'⟩
        · simp only [fits_letter star separator, ih]
          constructor
          · rintro ⟨c, _, rfl, agrees, x, y, rfl, h, h'⟩
            exact ⟨c :: x, y, rfl, ⟨c, x, rfl, agrees, h⟩, h'⟩
          · rintro ⟨_, y, rfl, ⟨c, x, rfl, agrees, h⟩, h'⟩
            exact ⟨c, x ++ y, rfl, agrees, x, y, rfl, h, h'⟩

theorem fits_star_star :
    Fits matchCase ('*' :: '*' :: body) part after ↔ Fits matchCase ('*' :: body) part after := by
  simp only [fits_star]
  constructor
  · rintro ⟨u, _, rfl, x, y, rfl, h⟩
    exact ⟨u ++ x, y, by simp, h⟩
  · rintro ⟨x, y, rfl, h⟩
    exact ⟨x, y, rfl, [], y, rfl, h⟩

theorem fits_collapseStars :
    Fits matchCase (collapseStars body) part after ↔ Fits matchCase body part after := by
  induction body generalizing part after with
  | nil => rfl
  | cons d body ih =>
      unfold collapseStars
      split
      · rename_i stars
        obtain ⟨rfl, second⟩ := stars
        obtain ⟨rest, rfl⟩ := List.head?_eq_some_iff.mp second
        rw [ih, fits_star_star]
      · exact fits_cons_congr (fun _ _ => ih) d

end Fits

namespace Glob

/-- A body applies to a text from its first character on, and up to its last if that is asked. -/
def Starts (matchCase : Bool) (body : List Char) (toEnd : Bool) (text : List Char) : Prop :=
  ∃ part after, text = part ++ after ∧ (toEnd = true → after = []) ∧ Fits matchCase body part after

/-- The parts of a URL that an anchor lets the body begin behind. -/
def IsHead (matchCase : Bool) : Anchor → List Char → Prop
  | .none, _ => True
  | .start, head => head = []
  | .host, head => IsHostPrefix matchCase head

variable {matchCase : Bool}

theorem starts_iff_beginsWith {body text : List Char} :
    Starts matchCase (if body.getLast? = some '|' then body.dropLast else body)
      (decide (body.getLast? = some '|')) text ↔ BeginsWith matchCase body text := by
  unfold Starts BeginsWith
  split
  · rename_i bar
    constructor
    · rintro ⟨part, after, rfl, ends, h⟩
      obtain rfl := ends (decide_eq_true bar)
      simpa using h
    · intro h
      exact ⟨text, [], by simp, fun _ => rfl, h⟩
  · rename_i noBar
    simp [noBar]

/-- The reading of a pattern as a glob says where it applies. -/
theorem appliesTo_iff {pattern url : List Char} :
    AppliesTo matchCase pattern url ↔ ∃ head rest, url = head ++ rest ∧
      IsHead matchCase (ofChars pattern).anchor head ∧
        Starts matchCase (ofChars pattern).body (ofChars pattern).toEnd rest := by
  have fields (a : Anchor) (body : List Char) (same : cutAnchor pattern = (a, body)) :
      ofChars pattern = ⟨a, if body.getLast? = some '|' then body.dropLast else body,
        decide (body.getLast? = some '|')⟩ := by
    unfold ofChars
    rw [same]
    by_cases bar : body.getLast? = some '|' <;> simp [bar]
  unfold AppliesTo
  split
  · rename_i body
    simp only [fields .host body rfl, starts_iff_beginsWith, IsHead]
  · rename_i body notHost
    have cut : cutAnchor ('|' :: body) = (.start, body) := by
      unfold cutAnchor
      split
      · rename_i h
        cases h
        exact absurd rfl (notHost _)
      · rename_i h
        cases h
        rfl
      · rename_i h
        exact absurd rfl (h body)
    simp only [fields .start body cut, starts_iff_beginsWith, IsHead]
    constructor
    · intro h
      exact ⟨[], url, rfl, rfl, h⟩
    · rintro ⟨head, rest, rfl, rfl, h⟩
      exact h
  · rename_i notHost notStart
    have cut : cutAnchor pattern = (.none, pattern) := by
      unfold cutAnchor
      split
      · rename_i h
        exact absurd rfl (notHost _)
      · rename_i h
        exact absurd rfl (notStart _)
      · rfl
    simp only [fields .none pattern cut, starts_iff_beginsWith, IsHead, true_and]

theorem starts_dropLastStar {body text : List Char} :
    Starts matchCase (dropLastStar body) false text ↔ Starts matchCase body false text := by
  unfold dropLastStar
  split
  · rename_i last
    obtain ⟨init, rfl⟩ := List.getLast?_eq_some_iff.mp last
    rw [List.dropLast_concat]
    unfold Starts
    constructor
    · rintro ⟨part, after, rfl, ends, h⟩
      exact ⟨part, after, rfl, ends, fits_append.mpr ⟨part, [], by simp, h, .star (x := []) .nil⟩⟩
    · rintro ⟨part, after, rfl, -, whole⟩
      obtain ⟨x, y, rfl, h, -⟩ := fits_append.mp whole
      exact ⟨x, y ++ after, by simp, by simp, h⟩
  · rfl

theorem starts_dropStar {body url : List Char} {toEnd : Bool} :
    (∃ head rest, url = head ++ rest ∧ Starts matchCase (dropStar body) toEnd rest) ↔
      ∃ head rest, url = head ++ rest ∧ Starts matchCase body toEnd rest := by
  unfold dropStar
  split
  · rename_i body
    unfold Starts
    constructor
    · rintro ⟨head, rest, rfl, part, after, rfl, ends, h⟩
      exact ⟨head, part ++ after, rfl, part, after, rfl, ends, .star (x := []) h⟩
    · rintro ⟨head, rest, rfl, part, after, rfl, ends, whole⟩
      obtain ⟨x, y, rfl, h⟩ := fits_star.mp whole
      exact ⟨head ++ x, y ++ after, by simp, y, after, rfl, ends, h⟩
  · rfl

/-- The stars that are left out of a body make no difference. -/
theorem starts_essence (g : Glob) {url : List Char} :
    (∃ head rest, url = head ++ rest ∧ IsHead matchCase g.anchor head ∧
      Starts matchCase g.essence g.toEnd rest) ↔
    ∃ head rest, url = head ++ rest ∧ IsHead matchCase g.anchor head ∧
      Starts matchCase g.body g.toEnd rest := by
  have collapsed (toEnd : Bool) (text : List Char) :
      Starts matchCase (collapseStars g.body) toEnd text ↔ Starts matchCase g.body toEnd text := by
    simp only [Starts, fits_collapseStars]
  have shortened (body text : List Char) :
      Starts matchCase (if g.toEnd then body else dropLastStar body) g.toEnd text ↔
        Starts matchCase body g.toEnd text := by
    cases g.toEnd with
    | true => rfl
    | false => exact starts_dropLastStar
  simp only [essence, shortened]
  cases g.anchor with
  | none => simp only [IsHead, true_and, if_true, starts_dropStar, collapsed]
  | start | host => simp only [reduceCtorEq, if_false, collapsed]

end Glob

end AdFilter.Pattern
