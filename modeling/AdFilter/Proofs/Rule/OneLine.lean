import AdFilter.Proofs.Rule.Building
import AdFilter.Proofs.Rule.Options
import AdFilter.Proofs.Text.Pieces

/-! # Rules of one line

No text that is taken from a line about requests has a line feed in it, as the line has none.
-/

namespace AdFilter

open Text

namespace RuleOptions

theorem split?_eq_some {line pattern list : List Char} (h : split? line = some (pattern, list)) :
    line = pattern ++ '$' :: list := by
  induction line generalizing pattern with
  | nil => cases h
  | cons c line ih =>
      rw [split?] at h
      split at h
      · rename_i dollar
        cases h
        rw [dollar.1]
        rfl
      · obtain ⟨⟨pattern', list'⟩, found, same⟩ := Option.map_eq_some_iff.mp h
        cases same
        rw [ih found]
        rfl

theorem no_feed_domains {written : List Char} (oneLine : '\n' ∉ written) {list : String}
    (h : (ofChars written).conditions.domains = some list) : '\n' ∉ list.toList := by
  rw [(lastMention_ofChars written).domains_eq] at h
  obtain ⟨token, isPart, given⟩ := List.mem_filterMap.mp (List.mem_of_getLast? h)
  intro feed
  exact oneLine (mem_of_mem_pieces isPart (RuleOption.mem_of_mem_domainsOf? given feed)).1

theorem cut_oneLine {line : List Char} (oneLine : '\n' ∉ line) :
    '\n' ∉ (cut line).1 ∧ ∀ list ∈ (cut line).2.conditions.domains, '\n' ∉ list.toList := by
  unfold cut
  split
  · rename_i pattern list found
    have whole := split?_eq_some found
    refine ⟨fun feed => oneLine ?_, fun text member => no_feed_domains (fun feed => oneLine ?_) member⟩
    · rw [whole]
      exact List.mem_append_left _ feed
    · rw [whole]
      exact List.mem_append_right _ (List.mem_cons_of_mem _ feed)
  · exact ⟨oneLine, fun text member => (nomatch member)⟩

end RuleOptions

namespace Pattern

variable {pattern cs : List Char} {c : Char}

theorem mem_of_mem_collapseStars (member : c ∈ collapseStars cs) : c ∈ cs := by
  induction cs with
  | nil => exact member
  | cons d cs ih =>
      rw [collapseStars] at member
      split at member
      · exact List.mem_cons_of_mem d (ih member)
      · rcases List.mem_cons.mp member with rfl | member
        · exact List.mem_cons_self
        · exact List.mem_cons_of_mem d (ih member)

theorem mem_of_mem_dropStar (member : c ∈ dropStar cs) : c ∈ cs := by
  unfold dropStar at member
  split at member
  · exact List.mem_cons_of_mem _ member
  · exact member

theorem mem_of_mem_dropLastStar (member : c ∈ dropLastStar cs) : c ∈ cs := by
  unfold dropLastStar at member
  split at member
  · exact (List.dropLast_sublist _).subset member
  · exact member

theorem mem_of_mem_body (member : c ∈ (Glob.ofChars pattern).body) : c ∈ pattern := by
  have rest : ∀ d ∈ (cutAnchor pattern).2, d ∈ pattern := by
    intro d member
    unfold cutAnchor at member
    split at member
    · exact List.mem_cons_of_mem _ (List.mem_cons_of_mem _ member)
    · exact List.mem_cons_of_mem _ member
    · exact member
  unfold Glob.ofChars at member
  simp only at member
  split at member
  · exact rest c ((List.dropLast_sublist _).subset member)
  · exact rest c member

theorem mem_of_mem_essence {g : Glob} (member : c ∈ g.essence) : c ∈ g.body := by
  have shortened : c ∈ (if g.anchor = .none then dropStar (collapseStars g.body)
      else collapseStars g.body) := by
    unfold Glob.essence at member
    simp only at member
    split at member
    · exact member
    · exact mem_of_mem_dropLastStar member
  split at shortened
  · exact mem_of_mem_collapseStars (mem_of_mem_dropStar shortened)
  · exact mem_of_mem_collapseStars shortened

theorem no_feed_charSource (other : c ≠ '\n') : '\n' ∉ charSource c := by
  unfold charSource Regex.escapeChar
  split
  · decide
  · split
    · decide
    · split
      · simp [Ne.symm other]
      · simp [Ne.symm other]

theorem no_feed_globSource {g : Glob} (oneLine : '\n' ∉ g.essence) : '\n' ∉ g.source := by
  have anchor : '\n' ∉ g.anchor.source := by
    cases g.anchor <;> decide
  have chars : '\n' ∉ g.essence.flatMap charSource := by
    intro feed
    obtain ⟨d, member, inSource⟩ := List.mem_flatMap.mp feed
    have other : d ≠ '\n' := by
      rintro rfl
      exact oneLine member
    exact no_feed_charSource other inSource
  have ends : '\n' ∉ (if g.toEnd then ['$'] else []) := by
    split <;> decide
  have filled {text : List Char} (none : '\n' ∉ text) :
      '\n' ∉ (if text.isEmpty then anything.toList else text) := by
    split
    · decide
    · exact none
  refine filled fun feed => ?_
  rcases List.mem_append.mp feed with feed | feed
  · rcases List.mem_append.mp feed with feed | feed
    · exact anchor feed
    · exact chars feed
  · exact ends feed

theorem mem_of_mem_literal {body : List Char} (isLiteral : literal? pattern = some body)
    (member : c ∈ body) : c ∈ pattern := by
  unfold literal? at isLiteral
  split at isLiteral
  · split at isLiteral
    · cases isLiteral
      cases member
    · split at isLiteral
      · cases isLiteral
        exact List.mem_cons_of_mem _ ((List.dropLast_sublist _).subset member)
      · cases isLiteral
  · cases isLiteral

theorem no_feed_source (oneLine : '\n' ∉ pattern) : '\n' ∉ source pattern := by
  unfold source
  split
  · rename_i body isLiteral
    split
    · decide
    · exact fun feed => oneLine (mem_of_mem_literal isLiteral feed)
  · exact no_feed_globSource fun feed => oneLine (mem_of_mem_body (mem_of_mem_essence feed))

end Pattern

/-- What a rule about requests keeps as text has no line feed in it. -/
structure RequestRule.OneLine (q : RequestRule) : Prop where
  source : '\n' ∉ q.source.toList
  domains : ∀ list ∈ q.conditions.domains, '\n' ∉ list.toList
  shortcut : q.shortcut = none

namespace Rule

theorem mem_of_mem_cutException {line : List Char} {c : Char} (member : c ∈ (cutException line).2) :
    c ∈ line := by
  unfold cutException at member
  split at member
  · exact List.mem_cons_of_mem _ (List.mem_cons_of_mem _ member)
  · exact member

theorem domains_conditionsOf (isException : Bool) (pattern : List Char) (o : RuleOptions) :
    (conditionsOf isException pattern o).domains = o.conditions.domains := by
  cases isException with
  | false => rfl
  | true => rfl

theorem matchCase_conditionsOf (isException : Bool) (pattern : List Char) (o : RuleOptions) :
    (conditionsOf isException pattern o).matchCase = o.conditions.matchCase := by
  cases isException with
  | false => rfl
  | true => rfl

theorem oneLine_ofRequestLine {policy : Policy} {line : String} (oneLine : '\n' ∉ line.toList)
    {q : RequestRule} (request : (ofRequestLine policy line).request? = some q) : q.OneLine := by
  have made := make_of_ofRequestLine request
  obtain ⟨source, conditions, shortcut⟩ := RequestRule.eq_of_make made
  have body : '\n' ∉ (cutException line.toList).2 := fun feed =>
    oneLine (mem_of_mem_cutException feed)
  obtain ⟨pattern, domains⟩ := RuleOptions.cut_oneLine body
  refine ⟨?_, ?_, shortcut⟩
  · rw [source, String.toList_ofList]
    exact Pattern.no_feed_source pattern
  · rw [conditions, domains_conditionsOf]
    exact domains

end Rule

end AdFilter
