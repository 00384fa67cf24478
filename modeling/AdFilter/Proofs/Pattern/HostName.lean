import AdFilter.Proofs.Host.Suffixes
import AdFilter.Proofs.Pattern.Agreement
import AdFilter.Proofs.Pattern.Translation
import AdFilter.Proofs.Regex.Footprint

/-! # The names of hosts in patterns

Two bars, the name of a host and a separator make a pattern for the host and what lies below it.
Here it is worked out where in a URL such a pattern finds the name: behind the slashes or behind
a dot that comes before the next slash, and in front of a separator or the end.
-/

namespace AdFilter

open Regex Text Unicode

/-- ASCII letters, digits, hyphens and dots, and at least one of them. -/
def Host.IsName (cs : List Char) : Prop :=
  cs ≠ [] ∧ ∀ c ∈ cs, c.isAlphanum = true ∨ c = '-' ∨ c = '.'

instance : DecidablePred Host.IsName := fun cs =>
  decidable_of_iff (cs ≠ [] ∧ (cs.all fun c => c.isAlphanum || c == '-' || c == '.') = true)
    (by simp [Host.IsName, or_assoc])

/-- The host has the name, or the name follows a dot that is not its first character. The case of
    ASCII letters does not count. -/
def Host.IsAtOrBelow (host name : List Char) : Prop :=
  host.map Char.toLower = name.map Char.toLower ∨
    ∃ front, front ≠ [] ∧ host.map Char.toLower = (front ++ '.' :: name).map Char.toLower

theorem Host.IsAtOrBelow.liesIn {host name : List Char} (isName : Host.IsName name)
    (below : Host.IsAtOrBelow host name) :
    Host.LiesIn (host.map Char.toLower) (name.map Char.toLower) := by
  rcases below with same | ⟨front, -, same⟩
  · exact .inl same.symm
  · refine .inr ⟨fun none => isName.1 (List.map_eq_nil_iff.mp none), front.map Char.toLower, ?_⟩
    simpa using same

theorem Text.not_mem_of_all {p : Char → Bool} {cs : List Char} {d : Char}
    (all : ∀ c ∈ cs, p c = true) (fails : p d = false) : d ∉ cs := by
  intro member
  rw [all d member] at fails
  cases fails

theorem Text.append_inj_of_cut {p : Char → Prop} {xs ys xs' ys' : List Char}
    (all : ∀ c ∈ xs, p c) (stop : ∀ c ∈ ys.head?, ¬ p c) (all' : ∀ c ∈ xs', p c)
    (stop' : ∀ c ∈ ys'.head?, ¬ p c) (same : xs ++ ys = xs' ++ ys') : xs = xs' ∧ ys = ys' := by
  rcases List.append_eq_append_iff.mp same with ⟨more, rfl, rfl⟩ | ⟨more, rfl, rfl⟩
  · cases more with
    | nil => simp
    | cons c more => exact absurd (all' c (by simp)) (stop c rfl)
  · cases more with
    | nil => simp
    | cons c more => exact absurd (all c (by simp)) (stop' c rfl)

namespace Pattern

variable {matchCase : Bool} {name : List Char}

section Names

variable {c d : Char}

theorem isAscii_of_mem_name (isName : Host.IsName name) (member : c ∈ name) : isAscii c = true := by
  rcases isName.2 c member with alphanum | rfl | rfl
  · exact isAscii_of_isAlphanum alphanum
  · decide
  · decide

theorem not_isSeparator_of_mem_name (isName : Host.IsName name) (member : c ∈ name) :
    ¬ IsSeparator c := by
  rintro ⟨-, noAlphanum, noMark⟩
  rcases isName.2 c member with alphanum | rfl | rfl
  · rw [alphanum] at noAlphanum
    cases noAlphanum
  · exact noMark (by decide)
  · exact noMark (by decide)

theorem not_isLetterSign_of_mem_name (isName : Host.IsName name) (member : c ∈ name) :
    ¬ IsLetterSign c := by
  have ascii := isAscii_of_mem_name isName member
  rintro (rfl | rfl) <;> revert ascii <;> decide

theorem ne_of_mem_name (isName : Host.IsName name) (member : c ∈ name) (separates : IsSeparator d) :
    c ≠ d := by
  rintro rfl
  exact not_isSeparator_of_mem_name isName member separates

end Names

section Positions

variable {text labels part after : List Char}

/-- No text, or text before the first slash that ends in a dot but does not begin with it. -/
def IsLabels (labels : List Char) : Prop :=
  labels = [] ∨ ∃ run, run ≠ [] ∧ '/' ∉ run ∧ labels = run ++ ['.']

/-- The name stands at the start of the text or behind labels, and what follows begins with a
    separator if it is not empty. -/
def StandsIn (matchCase : Bool) (name text : List Char) : Prop :=
  ∃ labels part after, text = labels ++ part ++ after ∧ IsLabels labels ∧
    List.Forall₂ (Agrees matchCase) name part ∧ ∀ c ∈ after.head?, IsSeparator c

theorem IsLabels.no_slash (isLabels : IsLabels labels) : '/' ∉ labels := by
  rcases isLabels with rfl | ⟨run, -, noSlash, rfl⟩
  · simp
  · simp [noSlash]

theorem not_isSeparator_of_mem_part (isName : Host.IsName name)
    (agree : List.Forall₂ (Agrees matchCase) name part) {c : Char} (member : c ∈ part) :
    ¬ IsSeparator c := by
  obtain ⟨i, inside, rfl⟩ := List.mem_iff_getElem.mp member
  have inName : i < name.length := agree.length_eq ▸ inside
  exact not_isSeparator_of_agrees
    (not_isSeparator_of_mem_name isName (List.getElem_mem inName)) (agree.get inName inside)

theorem head?_of_standsIn (isName : Host.IsName name) (stands : StandsIn matchCase name text) :
    text.head? ≠ some '/' := by
  obtain ⟨labels, part, after, rfl, isLabels, agree, -⟩ := stands
  have someName : part ≠ [] := by
    intro empty
    rw [empty, List.forall₂_nil_right_iff] at agree
    exact isName.1 agree
  intro slash
  rcases isLabels with rfl | ⟨run, someRun, noSlash, rfl⟩
  · rw [List.nil_append, List.head?_append_of_ne_nil _ someName] at slash
    exact not_isSeparator_of_mem_part isName agree (List.mem_of_mem_head? slash) (by decide)
  · rw [List.append_assoc, List.append_assoc, List.head?_append_of_ne_nil _ someRun] at slash
    exact noSlash (List.mem_of_mem_head? slash)

/-- A scheme of ASCII characters, a colon and two slashes, but no third one, begin the URL. -/
def HasAuthority (url : List Char) : Prop :=
  ∃ scheme rest, url = scheme ++ "://".toList ++ rest ∧ (∀ c ∈ scheme, isAscii c = true) ∧
    ':' ∉ scheme ∧ rest.head? ≠ some '/'

theorem exists_hostPrefix_iff (isName : Host.IsName name) {scheme rest : List Char}
    (ascii : ∀ c ∈ scheme, isAscii c = true) (noColon : ':' ∉ scheme)
    (noSlash : rest.head? ≠ some '/') :
    (∃ head part after, scheme ++ "://".toList ++ rest = head ++ (part ++ after) ∧
      IsHostPrefix matchCase head ∧ List.Forall₂ (Agrees matchCase) name part ∧
        ∀ c ∈ after.head?, IsSeparator c) ↔
      (scheme ≠ [] ∧ ∀ c ∈ scheme, isNameChar c = true) ∧ StandsIn matchCase name rest := by
  constructor
  · rintro ⟨_, part, after, same, ⟨scheme', slashes, labels, rfl, isScheme, isSlashes, isLabels⟩,
      agree, separated⟩
    have stands : StandsIn matchCase name (labels ++ part ++ after) :=
      ⟨labels, part, after, rfl, isLabels, agree, separated⟩
    have noColon' : ∀ c ∈ scheme', c ≠ ':' := by
      rintro _ member rfl
      have isNameChar := (isSchemeChar_iff (by decide)).mp (isScheme.2 ':' member)
      revert isNameChar
      decide
    -- Either way of taking the URL apart, the scheme ends at the first colon, and the slashes
    -- behind it are all that there are, as neither the rest nor what is found begins with one.
    have atColon : scheme ++ ("://".toList ++ rest) =
        scheme' ++ ':' :: (slashes ++ (labels ++ part ++ after)) := by
      simpa using same
    obtain ⟨rfl, behind⟩ := append_inj_of_cut (p := (· ≠ ':'))
      (fun c member same => noColon (same ▸ member)) (by simp) noColon' (by simp) atColon
    have atSlashes : ['/', '/'] ++ rest = slashes ++ (labels ++ part ++ after) := by
      simpa using behind
    obtain ⟨-, rfl⟩ := append_inj_of_cut (p := (· = '/')) (by simp)
      (fun c first slash => noSlash (slash ▸ first)) isSlashes.2
      (fun c first slash => head?_of_standsIn isName stands (slash ▸ first)) atSlashes
    exact ⟨⟨isScheme.1, fun c member => (isSchemeChar_iff (ascii c member)).mp
      (isScheme.2 c member)⟩, stands⟩
  · rintro ⟨⟨someScheme, isScheme⟩, labels, part, after, rfl, isLabels, agree, separated⟩
    refine ⟨scheme ++ ':' :: ['/', '/'] ++ labels, part, after, by simp, ?_, agree, separated⟩
    exact ⟨scheme, ['/', '/'], labels, rfl, ⟨someScheme, fun c member =>
      (isSchemeChar_iff (ascii c member)).mpr (isScheme c member)⟩, by simp, isLabels⟩

theorem IsLabels.dot_mem {front back : List Char} (isLabels : IsLabels (front ++ back))
    (some : back ≠ []) : '.' ∈ back := by
  rcases isLabels with none | ⟨run, -, -, same⟩
  · exact absurd (List.append_eq_nil_iff.mp none).2 some
  · have last : (front ++ back).getLast? = Option.some '.' := by simp [same]
    rw [List.getLast?_append_of_ne_nil _ some] at last
    exact List.mem_of_getLast? last

theorem no_dot_before_path {port path front back : List Char} (undotted : '.' ∉ port)
    (isPath : ∀ c ∈ path.head?, c = '/') (same : port ++ path = front ++ back)
    (noSlash : '/' ∉ front) : '.' ∉ front := by
  rcases List.append_eq_append_iff.mp same with ⟨more, rfl, rfl⟩ | ⟨more, rfl, -⟩
  · cases more with
    | nil => simpa using undotted
    | cons c more =>
        obtain rfl := isPath c rfl
        exact absurd (by simp) noSlash
  · exact fun dot => undotted (List.mem_append_left more dot)

theorem standsIn_host_iff (isName : Host.IsName name) {host port path : List Char}
    (noSeparator : ∀ c ∈ host, ¬ IsSeparator c) (undotted : '.' ∉ port)
    (isPort : ∀ c ∈ port.head?, c = ':') (isPath : ∀ c ∈ path.head?, c = '/') :
    StandsIn matchCase name (host ++ (port ++ path)) ↔
      ∃ labels part, host = labels ++ part ∧ IsLabels labels ∧
        List.Forall₂ (Agrees matchCase) name part := by
  have stop : ∀ c ∈ (port ++ path).head?, IsSeparator c := by
    intro c first
    cases port with
    | nil =>
        rw [isPath c first]
        decide
    | cons d port =>
        rw [isPort c first]
        decide
  constructor
  · rintro ⟨labels, part, after, same, isLabels, agree, separated⟩
    rw [List.append_assoc] at same
    -- The labels end in a dot, so they do not reach beyond the host.
    obtain ⟨x, rfl, behind⟩ : ∃ x, host = labels ++ x ∧ x ++ (port ++ path) = part ++ after := by
      rcases List.append_eq_append_iff.mp same with ⟨x, rfl, behind⟩ | ⟨x, rfl, behind⟩
      · by_cases empty : x = []
        · subst empty
          exact ⟨[], by simp, by simpa using behind⟩
        · exact absurd (isLabels.dot_mem empty) (no_dot_before_path undotted isPath behind
            fun slash => isLabels.no_slash (List.mem_append_right host slash))
      · exact ⟨x, rfl, behind.symm⟩
    -- The part ends where the host does, since the next character is a separator.
    obtain ⟨rfl, -⟩ := append_inj_of_cut (p := fun c => ¬ IsSeparator c)
      (fun c member => noSeparator c (List.mem_append_right labels member))
      (fun c first => not_not_intro (stop c first))
      (fun c member => not_isSeparator_of_mem_part isName agree member)
      (fun c first => not_not_intro (separated c first)) behind
    exact ⟨labels, x, rfl, isLabels, agree⟩
  · rintro ⟨labels, part, rfl, isLabels, agree⟩
    exact ⟨labels, part, port ++ path, by simp, isLabels, agree, stop⟩

theorem forall₂_agrees_iff {part : List Char} (ascii : ∀ c ∈ name, isAscii c = true)
    (noSign : ∀ c ∈ part, ¬ IsLetterSign c) :
    List.Forall₂ (Agrees false) name part ↔ part.map Char.toLower = name.map Char.toLower := by
  induction name generalizing part with
  | nil => simp [List.forall₂_nil_left_iff]
  | cons d name ih =>
      cases part with
      | nil => simp
      | cons c part =>
          rw [List.forall₂_cons, List.map_cons, List.map_cons, List.cons.injEq,
            agrees_iff_toLower (ascii d List.mem_cons_self) (noSign c List.mem_cons_self),
            ih (fun e member => ascii e (List.mem_cons_of_mem d member))
              (fun e member => noSign e (List.mem_cons_of_mem c member))]

theorem exists_labels_iff (isName : Host.IsName name) {host : List Char}
    (noSeparator : ∀ c ∈ host, ¬ IsSeparator c) (noSign : ∀ c ∈ host, ¬ IsLetterSign c) :
    (∃ labels part, host = labels ++ part ∧ IsLabels labels ∧
      List.Forall₂ (Agrees false) name part) ↔ Host.IsAtOrBelow host name := by
  have ascii : ∀ c ∈ name, isAscii c = true := fun c member => isAscii_of_mem_name isName member
  constructor
  · rintro ⟨labels, part, rfl, isLabels, agree⟩
    have same := (forall₂_agrees_iff ascii fun c member =>
      noSign c (List.mem_append_right labels member)).mp agree
    rcases isLabels with rfl | ⟨run, someRun, -, rfl⟩
    · exact .inl same
    · exact .inr ⟨run, someRun, by simp [same]⟩
  · rintro (same | ⟨front, someFront, same⟩)
    · exact ⟨[], host, rfl, .inl rfl, (forall₂_agrees_iff ascii noSign).mpr same⟩
    · rw [List.map_append, List.map_cons] at same
      obtain ⟨run, rest, rfl, front', behind⟩ := List.map_eq_append_iff.mp same
      obtain ⟨dot, part, rfl, isDot, spelled⟩ := List.map_eq_cons_iff.mp behind
      obtain rfl : dot = '.' := (toLower_eq_iff (by decide)).mp isDot
      have someRun : run ≠ [] := by
        rintro rfl
        exact someFront (List.map_eq_nil_iff.mp front'.symm)
      have noSlash : '/' ∉ run := fun slash =>
        noSeparator '/' (List.mem_append_left _ slash) (by decide)
      refine ⟨run ++ ['.'], part, by simp, .inr ⟨run, someRun, noSlash, rfl⟩, ?_⟩
      refine (forall₂_agrees_iff ascii fun c member => noSign c ?_).mpr spelled
      exact List.mem_append_right run (List.mem_cons_of_mem _ member)

/-- The URL begins with a scheme, a colon and two slashes, and the name stands in what follows. -/
def StandsBehindScheme (name url : List Char) : Prop :=
  ∃ scheme rest, url = scheme ++ "://".toList ++ rest ∧
    (scheme ≠ [] ∧ ∀ c ∈ scheme, isNameChar c = true) ∧ StandsIn false name rest

theorem standsBehindScheme_iff {scheme rest : List Char} (noColon : ':' ∉ scheme) :
    StandsBehindScheme name (scheme ++ "://".toList ++ rest) ↔
      (scheme ≠ [] ∧ ∀ c ∈ scheme, isNameChar c = true) ∧ StandsIn false name rest := by
  constructor
  · rintro ⟨scheme', rest', same, isScheme, stands⟩
    have noColon' : ':' ∉ scheme' := not_mem_of_all isScheme.2 (by decide)
    rw [List.append_assoc, List.append_assoc] at same
    obtain ⟨rfl, behind⟩ := append_inj_of_cut (p := (· ≠ ':'))
      (fun c member same => noColon (same ▸ member)) (by simp)
      (fun c member same => noColon' (same ▸ member)) (by simp) same
    obtain rfl := List.append_cancel_left behind
    exact ⟨isScheme, stands⟩
  · rintro ⟨isScheme, stands⟩
    exact ⟨scheme, rest, rfl, isScheme, stands⟩

/-- Between the slashes and the path of the URL there are only the host and perhaps a port without
    dots, and no character of the host is a separator or counts as an ASCII letter that it is
    not. -/
def ShowsHost (url host : List Char) : Prop :=
  (∀ c ∈ host, ¬ IsSeparator c ∧ ¬ IsLetterSign c) ∧
    ∃ scheme port path, url = scheme ++ "://".toList ++ (host ++ (port ++ path)) ∧
      ':' ∉ scheme ∧ '.' ∉ port ∧ (∀ c ∈ port.head?, c = ':') ∧ ∀ c ∈ path.head?, c = '/'

/-- In a URL that shows its host the name stands only if the host has it or lies below it. -/
theorem isAtOrBelow_of_showsHost (isName : Host.IsName name) {url host : List Char}
    (shown : ShowsHost url host) (stands : StandsBehindScheme name url) :
    Host.IsAtOrBelow host name := by
  obtain ⟨plain, scheme, port, path, rfl, noColon, undotted, isPort, isPath⟩ := shown
  have noSeparator : ∀ c ∈ host, ¬ IsSeparator c := fun c member => (plain c member).1
  have inRest := ((standsBehindScheme_iff noColon).mp stands).2
  exact (exists_labels_iff isName noSeparator fun c member => (plain c member).2).mp
    ((standsIn_host_iff isName noSeparator undotted isPort isPath).mp inRest)

end Positions

section Globs

/-- Two bars, a name and a separator. -/
def hostPattern (name : List Char) : List Char :=
  '|' :: '|' :: (name ++ ['^'])

def hostGlob (name : List Char) : Glob :=
  ⟨.host, name ++ ['^'], false⟩

theorem collapseStars_of_not_mem {cs : List Char} (noStar : '*' ∉ cs) : collapseStars cs = cs := by
  induction cs with
  | nil => rfl
  | cons c cs ih =>
      rw [List.mem_cons, not_or] at noStar
      rw [collapseStars, if_neg fun stars => noStar.1 stars.1.symm, ih noStar.2]

theorem ofChars_hostPattern (name : List Char) :
    Glob.ofChars (hostPattern name) = hostGlob name := by
  simp [Glob.ofChars, hostPattern, cutAnchor, hostGlob]

theorem essence_hostGlob (isName : Host.IsName name) :
    (hostGlob name).essence = name ++ ['^'] := by
  have noStar : '*' ∉ name ++ ['^'] := by
    have : '*' ∉ name := fun member => ne_of_mem_name isName member (by decide) rfl
    simp [this]
  have collapsed : collapseStars (name ++ ['^']) = name ++ ['^'] := collapseStars_of_not_mem noStar
  simp [Glob.essence, hostGlob, collapsed, dropLastStar]

theorem fits_name_iff (isName : ∀ c ∈ name, c ≠ '*' ∧ c ≠ '^') {part after : List Char} :
    Fits matchCase name part after ↔ List.Forall₂ (Agrees matchCase) name part := by
  induction name generalizing part with
  | nil => rw [fits_nil, List.forall₂_nil_left_iff]
  | cons d name ih =>
      have isLetter := isName d List.mem_cons_self
      have ih := @ih fun c member => isName c (List.mem_cons_of_mem d member)
      simp only [fits_letter isLetter.1 isLetter.2, ih]
      rw [List.forall₂_cons_left_iff]
      constructor
      · rintro ⟨c, rest, same, agrees, agree⟩
        exact ⟨c, rest, agrees, agree, same⟩
      · rintro ⟨c, rest, agrees, agree, same⟩
        exact ⟨c, rest, same, agrees, agree⟩

theorem starts_hostGlob (isName : Host.IsName name) {text : List Char} :
    Glob.Starts matchCase (name ++ ['^']) false text ↔ ∃ part after, text = part ++ after ∧
      List.Forall₂ (Agrees matchCase) name part ∧ ∀ c ∈ after.head?, IsSeparator c := by
  have letters : ∀ c ∈ name, c ≠ '*' ∧ c ≠ '^' := fun c member =>
    ⟨ne_of_mem_name isName member (by decide), ne_of_mem_name isName member (by decide)⟩
  simp only [Glob.Starts, fits_append, fits_name_iff letters, fits_separator, fits_nil]
  constructor
  · rintro ⟨_, after, rfl, -, part, _, rfl, agree, ⟨c, _, rfl, separates, rfl⟩ | ⟨rfl, rfl, -⟩⟩
    · refine ⟨part, c :: after, by simp, agree, ?_⟩
      rintro d ⟨⟩
      exact separates
    · exact ⟨part, [], by simp, agree, by simp⟩
  · rintro ⟨part, after, rfl, agree, separated⟩
    cases after with
    | nil => exact ⟨part, [], rfl, by simp, part, [], by simp, agree, .inr ⟨rfl, rfl, trivial⟩⟩
    | cons c after =>
        exact ⟨part ++ [c], after, by simp, by simp, part, [c], rfl, agree,
          .inl ⟨c, [], rfl, separated c rfl, rfl⟩⟩

/-- The search for the expression of the pattern finds something in a URL where the name stands
    behind the scheme. -/
theorem isMatch_hostGlob_iff (isName : Host.IsName name) {url : List Char}
    (authority : HasAuthority url) :
    Regex.isMatch ((hostGlob name).expr false) url = true ↔ StandsBehindScheme name url := by
  obtain ⟨scheme, rest, rfl, ascii, noColon, noSlash⟩ := authority
  have noStar : '*' ∈ (hostGlob name).essence → '\n' ∉ scheme ++ "://".toList ++ rest := by
    rw [essence_hostGlob isName]
    intro star
    have : '*' ∉ name := fun member => ne_of_mem_name isName member (by decide) rfl
    simp [this] at star
  rw [isMatch_glob_expr noStar, standsBehindScheme_iff noColon,
    ← exists_hostPrefix_iff isName ascii noColon noSlash, essence_hostGlob isName]
  simp only [hostGlob, Glob.IsHead, starts_hostGlob isName]
  constructor
  · rintro ⟨head, _, same, isHead, part, after, rfl, agree, separated⟩
    exact ⟨head, part, after, same, isHead, agree, separated⟩
  · rintro ⟨head, part, after, same, isHead, agree, separated⟩
    exact ⟨head, part ++ after, same, isHead, part, after, rfl, agree, separated⟩

theorem footprint_letterExpr_le (c : Char) : footprint (letterExpr matchCase c) ≤ 200 := by
  have size := (caseSet matchCase (.single c)).footprint_le
  have count : (caseSet matchCase (.single c)).rangeCount ≤ 2 := by
    cases matchCase <;> simp [caseSet, CharSet.single, CharSet.rangeCount]
  rw [letterExpr, footprint]
  omega

theorem footprint_schemeExpr_le : footprint (schemeExpr matchCase) ≤ 5050000 := by
  have size := (caseSet matchCase (.union .word (.single '-'))).footprint_le
  have count : (caseSet matchCase (.union .word (.single '-'))).rangeCount ≤ 140002 := by
    have word := CharSet.rangeCount_word_le
    have union : (CharSet.union .word (.single '-')).rangeCount = CharSet.word.rangeCount + 1 := by
      rw [CharSet.rangeCount, CharSet.single, CharSet.rangeCount]
    have fold := CharSet.rangeCount_fold_le (.union .word (.single '-'))
    cases matchCase with
    | true => exact Nat.le_trans (Nat.le_of_eq union) (by omega)
    | false => exact Nat.le_trans fold (by omega)
  have whole : footprint (schemeExpr matchCase) =
      1 * (caseSet matchCase (.union .word (.single '-'))).footprint + 32 := rfl
  omega

/-- Nearly all of the size is that of the characters that may stand in a scheme. -/
theorem footprint_hostGlob_le (isName : Host.IsName name) :
    footprint ((hostGlob name).expr matchCase) ≤ 5060000 + 200 * name.length := by
  have others : footprint (.look .startText) + footprint (letterExpr matchCase ':') +
      footprint (.rep (letterExpr matchCase '/') 1 none) + footprint (labelsExpr matchCase) +
      footprint (separatorExpr matchCase) + stateSize ≤ 2000 := by
    cases matchCase <;> decide +kernel
  have letters : footprints (name.map (charExpr matchCase)) ≤ name.length * 200 := by
    have each : ∀ r ∈ name.map (charExpr matchCase), footprint r ≤ 200 := by
      intro r member
      obtain ⟨c, inName, rfl⟩ := List.mem_map.mp member
      rw [charExpr, if_neg (ne_of_mem_name isName inName (by decide)),
        if_neg (ne_of_mem_name isName inName (by decide))]
      exact footprint_letterExpr_le c
    simpa using footprints_le each
  have own : (hostGlob name).ownExprs matchCase =
      hostExprs matchCase ++ (name.map (charExpr matchCase) ++ [separatorExpr matchCase]) := by
    rw [Glob.ownExprs, essence_hostGlob isName]
    simp [hostGlob, anchorExprs, endExprs, charExpr]
  have scheme := @footprint_schemeExpr_le matchCase
  have whole := footprint_chain_le ((hostGlob name).ownExprs matchCase)
  have some : (hostGlob name).ownExprs matchCase ≠ [] := by simp [own, hostExprs]
  rw [Glob.expr, if_neg some]
  rw [own] at whole ⊢
  simp only [hostExprs, footprints_append, footprints] at whole ⊢
  omega

theorem footprint_hostGlob_le_sizeLimit (isName : Host.IsName name) (short : name.length ≤ 253) :
    footprint ((hostGlob name).expr matchCase) ≤ sizeLimit := by
  refine Nat.le_trans (footprint_hostGlob_le isName) ?_
  rw [sizeLimit]
  omega

end Globs

end Pattern

end AdFilter
