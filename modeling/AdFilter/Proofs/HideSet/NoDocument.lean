import AdFilter.Proofs.HideSet.Selectors
import AdFilter.Proofs.Restriction

/-! # The selectors where no document is known

The empty host lies in no domain that a rule can name. So nothing is decided there, and the rules
apply that include no domain, among them those that only exclude some.
-/

namespace AdFilter

namespace HidingRule

/-- The rule names the domain, as one to apply on (`true`) or one to keep away from (`false`). -/
def Names (r : HidingRule) (included : Bool) (name : List Char) : Prop :=
  ∃ list ∈ r.domain, Restriction.NamedBy (Restriction.tokens ',' list) included name

/-- The rule names no domain to apply on. -/
def IncludesNone (r : HidingRule) : Prop :=
  ∀ name, ¬ r.Names true name

/-- The rule names no domain at all. -/
def IsGeneral (r : HidingRule) : Prop :=
  ∀ included name, ¬ r.Names included name

/-- The rule names domains to keep away from and none to apply on. -/
def ExcludesOnly (r : HidingRule) : Prop :=
  r.IncludesNone ∧ ∃ name, r.Names false name

theorem includesNone_iff {r : HidingRule} :
    r.IncludesNone ↔ r.IsGeneral ∨ r.ExcludesOnly := by
  constructor
  · intro includes
    by_cases excludes : ∃ name, r.Names false name
    · exact .inr ⟨includes, excludes⟩
    · refine .inl (Bool.forall_bool.mpr ⟨?_, includes⟩)
      exact not_exists.mp excludes
  · rintro (general | only)
    · exact general true
    · exact only.1

theorem isActiveOn_empty (r : HidingRule) :
    r.restriction.isActiveOn "" = true ↔ r.IncludesNone := by
  unfold restriction IncludesNone Names
  cases r.domain with
  | none => simp [Restriction.isActiveOn, Restriction.isUnrestricted]
  | some list =>
      have unnamed : ∀ domain included, Host.LiesIn (Restriction.plain "") domain →
          ¬ Restriction.NamedBy (Restriction.tokens ',' list) included domain := by
        rintro domain included within ⟨token, -, names⟩
        have empty : domain = [] := by
          rcases within with rfl | ⟨-, front, cut⟩
          · rfl
          · cases front <;> cases cut
        cases names with
        | included nonempty => exact nonempty empty
        | excluded nonempty => exact nonempty empty
      simp [Restriction.isActiveOn_of_unnamed unnamed]

end HidingRule

namespace HideSet

/-- A member that is switched on offers the selector by a rule with the property. -/
def Offered (s : Store) (actions : List Action) (P : HidingRule → Prop) (sel : String) : Prop :=
  ∃ place id, AddedAt s actions place id ∧ Offers (after s actions).store P sel id

section Offered

variable {s : Store} {actions : List Action} {P Q : HidingRule → Prop} {sel : String}
variable {id : FilterId}

theorem Offers.imp (offers : Offers s P sel id) (imp : ∀ r, P r → Q r) : Offers s Q sel id := by
  obtain ⟨f, r, stored, enabled, hides, holds, has⟩ := offers
  exact ⟨f, r, stored, enabled, hides, imp r holds, has⟩

theorem Offered.imp (offered : Offered s actions P sel) (imp : ∀ r, P r → Q r) :
    Offered s actions Q sel := by
  obtain ⟨place, id, stands, offers⟩ := offered
  exact ⟨place, id, stands, offers.imp imp⟩

theorem offered_includesNone : Offered s actions HidingRule.IncludesNone sel ↔
    Offered s actions HidingRule.IsGeneral sel ∨ Offered s actions HidingRule.ExcludesOnly sel := by
  constructor
  · rintro ⟨place, id, stands, f, r, stored, enabled, hides, includes, has⟩
    rcases HidingRule.includesNone_iff.mp includes with general | only
    · exact .inl ⟨place, id, stands, f, r, stored, enabled, hides, general, has⟩
    · exact .inr ⟨place, id, stands, f, r, stored, enabled, hides, only, has⟩
  · rintro (offered | offered)
    · exact offered.imp fun r general => general true
    · exact offered.imp fun r only => only.1

theorem mem_selectors_empty :
    sel ∈ (after s actions).selectors "" ↔ Offered s actions HidingRule.IncludesNone sel := by
  simp only [mem_selectors_after, Offered, Shows, HidingRule.isActiveOn_empty]

theorem exists_offers {domain : Option String}
    (found : (s.get? id).any (fun f => !f.isDisabled &&
      f.rule.hiding?.any fun r => r.domain == domain && r.selector == sel) = true) :
    ∃ r, r.domain = domain ∧ Offers s (· = r) sel id := by
  obtain ⟨f, stored, both⟩ := (Option.any_eq_true _ _).mp found
  obtain ⟨enabled, hidden⟩ := Bool.and_eq_true_iff.mp both
  obtain ⟨r, hides, same⟩ := (Option.any_eq_true _ _).mp hidden
  obtain ⟨sameDomain, has⟩ := Bool.and_eq_true_iff.mp same
  refine ⟨r, beq_iff_eq.mp sameDomain, f, r, stored, by simpa using enabled, ?_, rfl,
    beq_iff_eq.mp has⟩
  exact Rule.eq_hide_of_hiding? hides

/-- Where no document is known the selectors are those of the members that are switched on and
    include no domain. Those of the general members are among them, and no others are exactly if
    each selector of a member that only excludes domains is one of a general member as well. -/
theorem selectors_without_document_iff (s : Store) (actions : List Action) :
    let n := after s actions
    (∀ sel, sel ∈ n.selectors "" ↔ Offered s actions HidingRule.IncludesNone sel) ∧
    (∀ sel, Offered s actions HidingRule.IsGeneral sel → sel ∈ n.selectors "") ∧
    ((∀ sel ∈ n.selectors "", Offered s actions HidingRule.IsGeneral sel) ↔
      ∀ sel, Offered s actions HidingRule.ExcludesOnly sel →
        Offered s actions HidingRule.IsGeneral sel) := by
  intro n
  refine ⟨fun sel => mem_selectors_empty, fun sel general => ?_, forall_congr' fun sel => ?_⟩
  · exact mem_selectors_empty.mpr (offered_includesNone.mpr (.inl general))
  · rw [mem_selectors_empty, offered_includesNone, or_imp, and_iff_right]
    exact fun general => general

/-- A member without domains offers its selector where no document is known. -/
theorem selectors_without_document_iff_general :
    let s := ((Interning.start .lenient).after [.ofText "##.x"]).store
    Offered s [.call (.add 0)] HidingRule.IsGeneral ".x" ∧
      ".x" ∈ (after s [.call (.add 0)]).selectors "" := by
  intro s
  obtain ⟨-, general, -⟩ := selectors_without_document_iff s [.call (.add 0)]
  obtain ⟨r, everywhere, offers⟩ :
      ∃ r, r.domain = none ∧ Offers (after s [.call (.add 0)]).store (· = r) ".x" 0 :=
    exists_offers (by decide +kernel)
  have offered : Offered s [.call (.add 0)] HidingRule.IsGeneral ".x" := by
    refine ⟨0, 0, ⟨rfl, by decide +kernel, by decide⟩, offers.imp ?_⟩
    rintro r' rfl included name ⟨list, isList, -⟩
    rw [everywhere] at isList
    cases isList
  exact ⟨offered, general ".x" offered⟩

/-- The only member keeps away from a domain, and its selector is offered where no document is
    known. -/
theorem not_general_of_excluding :
    let s := ((Interning.start .lenient).after [.ofText "~example.com##.x"]).store
    ".x" ∈ (after s [.call (.add 0)]).selectors "" ∧
      ¬ Offered s [.call (.add 0)] HidingRule.IsGeneral ".x" := by
  intro s
  refine ⟨by decide +kernel, ?_⟩
  rintro ⟨place, id, stands, f, r, stored, -, hides, general, -⟩
  obtain ⟨-, rfl⟩ : place = 0 ∧ 0 = id := by
    simpa [List.getElem?_singleton] using stands.adds
  obtain ⟨_, isList, g, r', stored', -, hides', rfl, -⟩ : ∃ r,
      r.domain = some "~example.com" ∧ Offers (after s [.call (.add 0)]).store (· = r) ".x" 0 :=
    exists_offers (by decide +kernel)
  obtain rfl : f = g := Option.some.inj (stored.symm.trans stored')
  obtain rfl : r = r' := Rule.hide.inj (hides.symm.trans hides')
  refine general false "EXAMPLE.COM".toList ⟨"~example.com", isList, _, ?_, .excluded (by decide)⟩
  decide

end Offered

end HideSet

end AdFilter
