import AdFilter.Proofs.ContentType
import AdFilter.Proofs.Hiding.OneLine
import AdFilter.Proofs.Host.Suffixes
import AdFilter.Proofs.Pattern.HostName
import AdFilter.Proofs.Rule.Splitting
import AdFilter.Proofs.Url

/-! # Rules for a host

A line of two bars, the name of a host and a separator is meant for the requests to that host and
to what lies below it. On URLs that show their host plainly the rule keeps to that. It does not
know what a user, a query or a fragment is, though, and there the name may stand as well.
-/

namespace AdFilter.Rule

open Regex Text Pattern

/-- The line that blocks the requests to a host, or lets them through. -/
def hostLine (isException : Bool) (name : String) : String :=
  (if isException then "@@" else "") ++ "||" ++ name ++ "^"

/-- The types that the rule of such a line applies to. -/
def hostTypes (isException : Bool) : TypeMask :=
  if isException then TypeMask.standard.without ContentType.document.mask else .standard

section Line

variable {policy : Policy} {isException : Bool} {name : String}

theorem toList_hostLine : (hostLine isException name).toList =
    (if isException then ['@', '@'] else []) ++ hostPattern name.toList := by
  cases isException <;> simp [hostLine, hostPattern]

theorem not_mem_hostLine {c : Char} (isName : Host.IsName name.toList) (separates : IsSeparator c)
    (other : c ∉ ['@', '|', '^']) : c ∉ (hostLine isException name).toList := by
  have noLetter : c ∉ name.toList := fun member => ne_of_mem_name isName member separates rfl
  simp only [List.mem_cons, List.not_mem_nil, or_false, not_or] at other
  cases isException <;> simp [toList_hostLine, hostPattern, noLetter, other]

theorem ofLine_eq_ofRequestLine {line : String} (noSign : '#' ∉ line.toList)
    (noMark : '!' ∉ line.toList) : ofLine policy line = ofRequestLine policy line := by
  have noHiding : Hiding.split? line.toList = none := by
    rw [Option.eq_none_iff_forall_ne_some]
    rintro ⟨domains, t⟩ found
    rw [Hiding.split?_eq_some found] at noSign
    simp at noSign
  have noComment : line.toList.head? ≠ some '!' := fun mark => noMark (List.mem_of_mem_head? mark)
  rw [ofLine_eq, Hiding.rule?_eq, noHiding, Option.map_none]
  exact if_neg noComment

theorem cut_of_no_dollar {line : List Char} (noDollar : '$' ∉ line) :
    RuleOptions.cut line = (line, {}) :=
  RuleOptions.cut_of_unsplit fun pattern list h => noDollar (by simp [h.whole])

theorem types_of_hostPattern (name : List Char) :
    (conditionsOf isException (hostPattern name) {}).types.getD .standard =
      hostTypes isException := by
  cases isException with
  | false => rfl
  | true =>
      have noScheme : startsWithScheme (hostPattern name) = false := by
        simp [startsWithScheme, hostPattern, isNameChar]
      have standard : TypeMask.standard.has .document = true := by decide
      simp [conditionsOf, exceptionTypes, noScheme, standard, hostTypes]

theorem ofLine_hostLine (policy : Policy) (isException : Bool) (isName : Host.IsName name.toList) :
    (∃ rule : RequestRule, ofLine policy (hostLine isException name) =
        (if isException then .exception rule else .blocking rule none) ∧
      rule.regex = (hostGlob name.toList).expr false ∧
      rule.conditions = conditionsOf isException (hostPattern name.toList) {}) ∨
    (sizeLimit < footprint ((hostGlob name.toList).expr false) ∧
      ofLine policy (hostLine isException name) =
        .invalid (.unbuildable (.invalidRegex (.tooLarge sizeLimit)))) := by
  have cut : cutException (hostLine isException name).toList =
      (isException, hostPattern name.toList) := by
    rw [toList_hostLine]
    cases isException <;> rfl
  have noDollar : '$' ∉ hostPattern name.toList := by
    have noLetter : '$' ∉ name.toList := fun member => ne_of_mem_name isName member (by decide) rfl
    simp [hostPattern, noLetter]
  have known : ¬ (policy = .strict ∧ ({} : RuleOptions).unknown ≠ []) := by simp
  have isGlob : ¬ ((hostPattern name.toList).head? = some '/' ∧
      (hostPattern name.toList).getLast? = some '/') := by
    simp [hostPattern]
  have compiled : Regex.compile (conditionsOf isException (hostPattern name.toList) {}).matchCase
      (String.ofList (Pattern.source (hostPattern name.toList))).toList =
        if footprint ((hostGlob name.toList).expr false) ≤ sizeLimit
          then .ok ((hostGlob name.toList).expr false) else .error (.tooLarge sizeLimit) := by
    rw [String.toList_ofList, source_of_glob isGlob, ofChars_hostPattern]
    cases isException <;> exact compile_glob (hostGlob name.toList)
  rw [ofLine_eq_ofRequestLine (not_mem_hostLine isName (by decide) (by decide))
    (not_mem_hostLine isName (by decide) (by decide)),
    ofRequestLine_of_cut cut (cut_of_no_dollar noDollar), if_neg known]
  by_cases small : footprint ((hostGlob name.toList).expr false) ≤ sizeLimit
  · rw [if_pos small] at compiled
    rw [RequestRule.make_of_compile compiled]
    exact .inl ⟨_, rfl, rfl, rfl⟩
  · rw [if_neg small] at compiled
    rw [RequestRule.make_of_fault compiled]
    exact .inr ⟨Nat.lt_of_not_le small, rfl⟩

end Line

section OrdinaryUrls

/-- The parts of an ordinary URL: a scheme, the name of a host, a port if there is one, and a
    path. -/
structure IsOrdinary (scheme host port path : String) : Prop where
  isScheme : scheme ≠ "" ∧ ∀ c ∈ scheme.toList, isNameChar c = true
  isHost : Host.IsName host.toList
  isPort : port = "" ∨ ∃ digits, port = ":" ++ digits ∧ ∀ c ∈ digits.toList, c.isDigit = true
  isPath : path = "" ∨ ∃ rest, path = "/" ++ rest

def urlOf (scheme host port path : String) : String :=
  scheme ++ "://" ++ host ++ port ++ path

namespace IsOrdinary

variable {scheme host port path : String}

theorem undotted (parts : IsOrdinary scheme host port path) : '.' ∉ port.toList := by
  rcases parts.isPort with rfl | ⟨digits, rfl, isDigit⟩
  · decide
  · have noDot : '.' ∉ digits.toList := not_mem_of_all isDigit (by decide)
    simp [noDot]

theorem colon_of_port (parts : IsOrdinary scheme host port path) :
    ∀ c ∈ port.toList.head?, c = ':' := by
  rcases parts.isPort with rfl | ⟨digits, rfl, -⟩
  · simp
  · simp [eq_comm]

theorem slash_of_path (parts : IsOrdinary scheme host port path) :
    ∀ c ∈ path.toList.head?, c = '/' := by
  rcases parts.isPath with rfl | ⟨rest, rfl⟩
  · simp
  · simp [eq_comm]

theorem toList_urlOf : (urlOf scheme host port path).toList =
    scheme.toList ++ "://".toList ++ (host.toList ++ (port.toList ++ path.toList)) := by
  simp only [urlOf, String.toList_append, List.append_assoc]

theorem no_colon_of_scheme (parts : IsOrdinary scheme host port path) : ':' ∉ scheme.toList :=
  not_mem_of_all parts.isScheme.2 (by decide)

theorem hasAuthority (parts : IsOrdinary scheme host port path) :
    HasAuthority (urlOf scheme host port path).toList := by
  refine ⟨_, _, toList_urlOf, fun c member => isAscii_of_isNameChar (parts.isScheme.2 c member),
    parts.no_colon_of_scheme, ?_⟩
  rw [List.head?_append_of_ne_nil _ parts.isHost.1]
  intro slash
  exact ne_of_mem_name parts.isHost (List.mem_of_mem_head? slash) (by decide) rfl

theorem showsHost (parts : IsOrdinary scheme host port path) :
    ShowsHost (urlOf scheme host port path).toList host.toList :=
  ⟨fun _ member => ⟨not_isSeparator_of_mem_name parts.isHost member,
      not_isLetterSign_of_mem_name parts.isHost member⟩,
    _, _, _, toList_urlOf, parts.no_colon_of_scheme, parts.undotted, parts.colon_of_port,
    parts.slash_of_path⟩

theorem standsBehindScheme_iff (parts : IsOrdinary scheme host port path) {name : List Char}
    (isName : Host.IsName name) :
    StandsBehindScheme name (urlOf scheme host port path).toList ↔
      Host.IsAtOrBelow host.toList name := by
  have isScheme : scheme.toList ≠ [] ∧ ∀ c ∈ scheme.toList, isNameChar c = true :=
    ⟨fun none => parts.isScheme.1 (String.toList_eq_nil_iff.mp none), parts.isScheme.2⟩
  have noSeparator : ∀ c ∈ host.toList, ¬ IsSeparator c := fun c member =>
    not_isSeparator_of_mem_name parts.isHost member
  have noSign : ∀ c ∈ host.toList, ¬ IsLetterSign c := fun c member =>
    not_isLetterSign_of_mem_name parts.isHost member
  rw [toList_urlOf, Pattern.standsBehindScheme_iff parts.no_colon_of_scheme, and_iff_right isScheme,
    standsIn_host_iff isName noSeparator parts.undotted parts.colon_of_port parts.slash_of_path,
    exists_labels_iff isName noSeparator noSign]

end IsOrdinary

theorem hasAuthority_of_host? {url host : String} (isHost : Url.host? url = some host) :
    HasAuthority url.toList := by
  obtain ⟨scheme, rest, whole, isScheme, noSlash⟩ := Url.exists_of_host? isHost
  refine ⟨scheme, rest, whole, fun c member => ?_, not_mem_of_all isScheme (by decide), noSlash⟩
  have isSchemeChar := isScheme c member
  simp only [Url.isSchemeChar, Bool.or_eq_true, beq_iff_eq] at isSchemeChar
  rcases isSchemeChar with ((alphanum | rfl) | rfl) | rfl
  · exact isAscii_of_isAlphanum alphanum
  · decide
  · decide
  · decide

end OrdinaryUrls

section Requests

variable {policy : Policy} {isException : Bool} {name : String}

theorem applies_of_hostPattern {rule : RequestRule} {name : List Char}
    (conditions : rule.conditions = conditionsOf isException (hostPattern name) {}) (q : Request) :
    rule.applies q =
      (Regex.isMatch rule.regex q.url.toList && q.types.meets (hostTypes isException)) := by
  have types : rule.types = hostTypes isException := by
    rw [RequestRule.types, conditions, types_of_hostPattern]
  have thirdParty : rule.conditions.thirdParty = none := by
    rw [conditions]
    cases isException <;> rfl
  have domains : rule.conditions.domains = none := by
    rw [conditions]
    cases isException <;> rfl
  have everywhere : rule.restriction.isActiveOn q.document = true := by
    rw [RequestRule.restriction, domains]
    rfl
  simp [RequestRule.applies, types, thirdParty, everywhere]

/-- The rule applies to a URL exactly if the name stands behind its scheme and the type of the
    request is one of the rule's. -/
theorem applies_hostLine_iff (isName : Host.IsName name.toList) {q : Request}
    (authority : HasAuthority q.url.toList) :
    (ofLine policy (hostLine isException name)).applies q = true ↔
      (ofLine policy (hostLine isException name)).isActive = true ∧
        q.types.meets (hostTypes isException) = true ∧
          StandsBehindScheme name.toList q.url.toList := by
  rcases ofLine_hostLine policy isException isName with
    ⟨rule, isRule, regex, conditions⟩ | ⟨-, invalid⟩
  · have applies : (ofLine policy (hostLine isException name)).applies q = rule.applies q := by
      rw [isRule]
      cases isException <;> rfl
    have active : (ofLine policy (hostLine isException name)).isActive = true := by
      rw [isRule]
      cases isException <;> rfl
    rw [applies, active, applies_of_hostPattern conditions, Bool.and_eq_true, regex,
      isMatch_hostGlob_iff isName authority]
    simp [and_comm]
  · simp [invalid, applies, request?, isActive]

theorem isActive_hostLine (isName : Host.IsName name.toList) (short : name.length ≤ 253) :
    (ofLine policy (hostLine isException name)).isActive = true := by
  rcases ofLine_hostLine policy isException isName with ⟨rule, isRule, -⟩ | ⟨large, -⟩
  · rw [isRule]
    cases isException <;> rfl
  · exact absurd (footprint_hostGlob_le_sizeLimit isName short) (Nat.not_le.mpr large)

theorem meets_script (isException : Bool) :
    ContentType.script.mask.meets (hostTypes isException) = true := by
  cases isException <;> decide

theorem meets_hostTypes_blocking (t : ContentType) : t.mask.meets (hostTypes false) = true := by
  cases t <;> decide

/-- The rule that blocks a host applies to an ordinary URL, whatever the request is for and
    whoever makes it, exactly if the host of the URL has the name or lies below it. There is such
    a rule unless it is too large, which no name is that a host may have. -/
theorem blocks_host_and_below (policy : Policy) {name : String}
    (isName : Host.IsName name.toList) :
    (name.length ≤ 253 → (ofLine policy (hostLine false name)).isBlocking = true) ∧
    match ofLine policy (hostLine false name) with
    | .blocking rule _ => ∀ scheme host port path : String, IsOrdinary scheme host port path →
        ∀ (t : ContentType) (document : String) (thirdParty : Bool),
          rule.applies
              { url := urlOf scheme host port path, types := t.mask, document, thirdParty } = true ↔
            Host.IsAtOrBelow host.toList name.toList
    | r => r = .invalid (.unbuildable (.invalidRegex (.tooLarge sizeLimit))) := by
  rcases ofLine_hostLine policy false isName with
    ⟨rule, isRule, regex, conditions⟩ | ⟨large, invalid⟩
  · rw [if_neg Bool.false_ne_true] at isRule
    rw [isRule]
    refine ⟨fun _ => rfl, fun scheme host port path parts t document thirdParty => ?_⟩
    rw [applies_of_hostPattern conditions, meets_hostTypes_blocking, Bool.and_true, regex,
      isMatch_hostGlob_iff isName parts.hasAuthority, parts.standsBehindScheme_iff isName]
  · rw [invalid]
    refine ⟨fun short => ?_, rfl⟩
    exact absurd (footprint_hostGlob_le_sizeLimit isName short) (Nat.not_le.mpr large)

/-- A subdomain in capitals, with a port; and a longer label. -/
theorem blocks_host_and_below_port :
    Host.IsName "example.com".toList ∧ "example.com".length ≤ 253 ∧
      IsOrdinary "http" "ads.EXAMPLE.com" ":80" "/x" ∧ IsOrdinary "http" "notexample.com" "" "" ∧
      ∃ rule collapse, ofLine .strict (hostLine false "example.com") = .blocking rule collapse ∧
        rule.applies { url := urlOf "http" "ads.EXAMPLE.com" ":80" "/x",
                       types := ContentType.image.mask } = true ∧
        ¬ rule.applies { url := urlOf "http" "notexample.com" "" "",
                         types := ContentType.image.mask } = true := by
  have isName : Host.IsName "example.com".toList := by decide +kernel
  have isScheme : "http" ≠ "" ∧ ∀ c ∈ "http".toList, isNameChar c = true :=
    ⟨by decide, List.all_eq_true.mp (by decide +kernel)⟩
  have isDigit : ∀ c ∈ "80".toList, c.isDigit = true := List.all_eq_true.mp (by decide +kernel)
  have below : IsOrdinary "http" "ads.EXAMPLE.com" ":80" "/x" :=
    ⟨isScheme, by decide +kernel, .inr ⟨"80", rfl, isDigit⟩, .inr ⟨"x", rfl⟩⟩
  have longer : IsOrdinary "http" "notexample.com" "" "" :=
    ⟨isScheme, by decide +kernel, .inl rfl, .inl rfl⟩
  refine ⟨isName, by decide, below, longer, ?_⟩
  obtain ⟨isBlocking, applies⟩ := blocks_host_and_below .strict isName
  have isBlocking := isBlocking (by decide)
  cases line : ofLine .strict (hostLine false "example.com") with
  | blocking rule collapse =>
      rw [line] at applies
      refine ⟨rule, collapse, rfl, (applies _ _ _ _ below .image "" false).mpr ?_, ?_⟩
      · exact .inr ⟨"ads".toList, by decide, by decide +kernel⟩
      · rw [applies _ _ _ _ longer .image "" false]
        rintro (same | ⟨front, -, same⟩)
        · revert same
          decide +kernel
        · have suffix : '.' :: "example.com".toList.map Char.toLower <:+
              "notexample.com".toList.map Char.toLower :=
            ⟨front.map Char.toLower, by rw [same, List.map_append, List.map_cons]; rfl⟩
          revert suffix
          decide +kernel
  | invalid | comment | exception | hide =>
      rw [line] at isBlocking
      cases isBlocking

/-- No request to a host beside the named one and those below it is hit, exactly if the rule is
    invalid or the name stands behind the scheme of the URL only if its host is such a one. That is
    so if the URL shows its host. -/
theorem hits_only_its_hosts_iff (policy : Policy) (isException : Bool) {name url host : String}
    (isName : Host.IsName name.toList) (isHost : Url.host? url = some host) :
    ((∀ q : Request, q.url = url →
        (ofLine policy (hostLine isException name)).applies q = true →
          Host.LiesIn (host.toList.map Char.toLower) (name.toList.map Char.toLower)) ↔
      ((ofLine policy (hostLine isException name)).isActive = true →
        StandsBehindScheme name.toList url.toList →
          Host.LiesIn (host.toList.map Char.toLower) (name.toList.map Char.toLower))) ∧
    (ShowsHost url.toList host.toList → ∀ q : Request, q.url = url →
      (ofLine policy (hostLine isException name)).applies q = true →
        Host.LiesIn (host.toList.map Char.toLower) (name.toList.map Char.toLower)) := by
  have hit {q : Request} (isUrl : q.url = url) :
      (ofLine policy (hostLine isException name)).applies q = true ↔
        (ofLine policy (hostLine isException name)).isActive = true ∧
          q.types.meets (hostTypes isException) = true ∧
            StandsBehindScheme name.toList q.url.toList :=
    applies_hostLine_iff isName (isUrl ▸ hasAuthority_of_host? isHost)
  refine ⟨⟨fun only active stands => ?_, fun only q isUrl applies => ?_⟩,
    fun shown q isUrl applies => ?_⟩
  · exact only { url, types := ContentType.script.mask } rfl
      ((hit rfl).mpr ⟨active, meets_script isException, stands⟩)
  · obtain ⟨active, -, stands⟩ := (hit isUrl).mp applies
    exact only active (isUrl ▸ stands)
  · obtain ⟨-, -, stands⟩ := (hit isUrl).mp applies
    exact (isAtOrBelow_of_showsHost isName shown (isUrl ▸ stands)).liesIn isName

/-- An exception, and a request to a subdomain with a port in the URL. -/
theorem hits_only_its_hosts_iff_port :
    Host.IsName "example.com".toList ∧
      Url.host? (urlOf "https" "ads.example.com" ":8080" "/x") = some "ads.example.com" ∧
      ShowsHost (urlOf "https" "ads.example.com" ":8080" "/x").toList "ads.example.com".toList ∧
      (ofLine .lenient (hostLine true "example.com")).applies
        { url := urlOf "https" "ads.example.com" ":8080" "/x",
          types := ContentType.script.mask } = true ∧
      Host.LiesIn ("ads.example.com".toList.map Char.toLower)
        ("example.com".toList.map Char.toLower) := by
  have isName : Host.IsName "example.com".toList := by decide +kernel
  have isHost : Url.host? (urlOf "https" "ads.example.com" ":8080" "/x") =
      some "ads.example.com" := by
    decide +kernel
  have parts : IsOrdinary "https" "ads.example.com" ":8080" "/x" :=
    ⟨⟨by decide, List.all_eq_true.mp (by decide +kernel)⟩, by decide +kernel,
      .inr ⟨"8080", rfl, List.all_eq_true.mp (by decide +kernel)⟩, .inr ⟨"x", rfl⟩⟩
  have below : Host.IsAtOrBelow "ads.example.com".toList "example.com".toList :=
    .inr ⟨"ads".toList, by decide, by decide +kernel⟩
  have hit : (ofLine .lenient (hostLine true "example.com")).applies
      { url := urlOf "https" "ads.example.com" ":8080" "/x",
        types := ContentType.script.mask } = true := by
    refine (applies_hostLine_iff isName ?_).mpr ⟨?_, meets_script true, ?_⟩
    · exact parts.hasAuthority
    · exact isActive_hostLine isName (by decide)
    · exact (parts.standsBehindScheme_iff isName).mpr below
  exact ⟨isName, isHost, parts.showsHost, hit,
    (hits_only_its_hosts_iff .lenient true isName isHost).2 parts.showsHost _ rfl hit⟩

/-- The name stands in the user of a URL. -/
theorem hits_other_host_of_user :
    Host.IsName "example.com".toList ∧
      Url.host? "http://example.com@evil.net/" = some "evil.net" ∧
      (ofLine .lenient (hostLine false "example.com")).applies
        { url := "http://example.com@evil.net/", types := ContentType.script.mask } = true ∧
      ¬ Host.LiesIn ("evil.net".toList.map Char.toLower)
        ("example.com".toList.map Char.toLower) := by
  have isName : Host.IsName "example.com".toList := by decide +kernel
  have isHost : Url.host? "http://example.com@evil.net/" = some "evil.net" := by decide +kernel
  have whole : "http://example.com@evil.net/".toList =
      "http".toList ++ "://".toList ++ ([] ++ "example.com".toList ++ '@' :: "evil.net/".toList) := by
    decide +kernel
  have isScheme : ∀ c ∈ "http".toList, isNameChar c = true := List.all_eq_true.mp (by decide +kernel)
  have separated : ∀ c ∈ ('@' :: "evil.net/".toList).head?, IsSeparator c := by
    rintro c ⟨⟩
    decide
  have stands : StandsBehindScheme "example.com".toList "http://example.com@evil.net/".toList :=
    ⟨_, _, whole, ⟨by decide, isScheme⟩, _, _, _, rfl, .inl rfl,
      List.forall₂_same.mpr fun _ _ => .inl rfl, separated⟩
  refine ⟨isName, isHost, ?_, fun within => ?_⟩
  · refine (applies_hostLine_iff isName ?_).mpr ⟨?_, meets_script false, stands⟩
    · exact hasAuthority_of_host? isHost
    · exact isActive_hostLine isName (by decide)
  · have longer := Host.length_le_of_liesIn within
    revert longer
    decide +kernel

end Requests

end AdFilter.Rule
