import AdFilter.Proofs.OrderedMap
import AdFilter.Proofs.Record.Giving
import AdFilter.Proofs.Text.Decimal

/-! # What is read from the record of a filter

A record leaves out what a new filter has, and reading it fills in the same again. So each part of
a filter is found in its record.
-/

namespace AdFilter

open OrderedMap Text

namespace Record

theorem parse?_field {bound : Nat} {number : Option Nat} (small : ∀ n ∈ number, n < bound) :
    (number.map toString).bind (Decimal.parse? bound) = number := by
  cases number with
  | none => rfl
  | some n =>
      rw [Option.map_some, Option.bind_some]
      exact Decimal.parse?_toString (small n rfl)

theorem bool?_of_get? {r : Record} {key : String} {b : Option Bool}
    (field : r.get? key = b.map ofBool) : r.bool? key = b := by
  unfold bool?
  rw [field]
  match b with
  | none => rfl
  | some true => rfl
  | some false => rfl

section Activity

variable {r : Record} {a : Activity}

theorem setDisabled_of_get? {b : Bool} (field : r.get? "disabled" = if b then some "true" else none)
    (fresh : a.disabled = false) : r.setDisabled a = { a with disabled := b } := by
  obtain ⟨disabled, hits, lastHit⟩ := a
  cases fresh
  unfold setDisabled contains
  cases b with
  | false => simp [field]
  | true => simp [field, bool?]

theorem number?_of_get? {key : String} {w : UInt64} (field : r.get? key = some (toString w.toNat)) :
    r.number? UInt64.size key = some w.toNat := by
  rw [number?, field, Option.bind_some]
  exact Decimal.parse?_toString w.toNat_lt

theorem setHits_of_get? {w : UInt64}
    (field : r.get? "hitCount" = if w = 0 then none else some (toString w.toNat))
    (fresh : a.hits = 0) : r.setHits a = { a with hits := w } := by
  unfold setHits contains
  by_cases zero : w = 0
  · simp [field, zero, ← fresh]
  · rw [if_neg zero] at field
    simp [field, number?_of_get? field]

theorem setLastHit_of_get? {w : UInt64}
    (field : r.get? "lastHit" = if w = 0 then none else some (toString w.toNat))
    (fresh : a.lastHit = 0) : r.setLastHit a = { a with lastHit := w } := by
  unfold setLastHit contains
  by_cases zero : w = 0
  · simp [field, zero, ← fresh]
  · rw [if_neg zero] at field
    simp [field, number?_of_get? field]

end Activity

end Record

namespace Filter

theorem get?_writeActivity (a : Activity) (r : Record) (key : String) :
    (writeActivity a r).get? key =
      if key = "lastHit" then
        (if a.lastHit = 0 then none else some (toString a.lastHit.toNat)).or (r.get? key)
      else if key = "hitCount" then
        (if a.hits = 0 then none else some (toString a.hits.toNat)).or (r.get? key)
      else if key = "disabled" then (if a.disabled then some "true" else none).or (r.get? key)
      else r.get? key := by
  simp only [writeActivity, get?_insert?]
  grind

theorem get?_writeRequest (q : RequestRule) (r : Record) (key : String) :
    (writeRequest q r).get? key =
      if key = "thirdParty" then (q.conditions.thirdParty.map Record.ofBool).or (r.get? key)
      else if key = "domains" then q.conditions.domains.or (r.get? key)
      else if key = "matchCase" then
        (if q.conditions.matchCase then some "true" else none).or (r.get? key)
      else if key = "contentType" then
        (q.conditions.types.map fun m => toString m.toNat).or (r.get? key)
      else if key = "shortcut" then q.shortcut.or (r.get? key)
      else if key = "regexp" then some q.source
      else r.get? key := by
  simp only [writeRequest, get?_insert?, get?_insert]
  grind

theorem get?_writeHiding (h : HidingRule) (r : Record) (key : String) :
    (writeHiding h r).get? key =
      if key = "selector" then some h.selector
      else if key = "domain" then h.domain.or (r.get? key)
      else r.get? key := by
  simp only [writeHiding, get?_insert?, get?_insert]

def beginRecord (f : Filter) : Record :=
  writeActivity f.activity ((∅ : Record).insert "text" f.text)

theorem get?_beginRecord (f : Filter) (key : String) :
    f.beginRecord.get? key =
      if key = "lastHit" then
        if f.activity.lastHit = 0 then none else some (toString f.activity.lastHit.toNat)
      else if key = "hitCount" then
        if f.activity.hits = 0 then none else some (toString f.activity.hits.toNat)
      else if key = "disabled" then if f.activity.disabled then some "true" else none
      else if key = "text" then some f.text
      else none := by
  rw [beginRecord, get?_writeActivity, get?_insert, get?_empty]
  grind

section Fields

variable {f : Filter}

theorem get?_toRecord_idle (idle : f.rule.isActive = false) (key : String) :
    f.toRecord.get? key =
      if key = "type" then some f.rule.kind else if key = "text" then some f.text else none := by
  cases h : f.rule with
  | invalid | comment => simp [toRecord, writeRule, h]
  | blocking | exception | hide =>
      rw [h] at idle
      cases idle

theorem get?_toRecord_request {q : RequestRule} (request : f.rule.request? = some q)
    (key : String) :
    f.toRecord.get? key =
      if key = "type" then some f.rule.kind
      else if key = "collapse" then f.rule.collapse?.map Record.ofBool
      else (writeRequest q f.beginRecord).get? key := by
  cases h : f.rule with
  | blocking q' collapse =>
      rw [h] at request
      cases request
      simp only [toRecord, writeRule, h, get?_insert, get?_insert?, Rule.collapse?, beginRecord]
      split
      · rfl
      · split
        · rename_i collapses
          subst collapses
          simp [get?_writeRequest, get?_writeActivity]
        · rfl
  | exception q' =>
      rw [h] at request
      cases request
      simp only [toRecord, writeRule, h, get?_insert, Rule.collapse?, beginRecord]
      split
      · rfl
      · split
        · rename_i collapses
          subst collapses
          simp [get?_writeRequest, get?_writeActivity]
        · rfl
  | invalid | comment | hide =>
      rw [h] at request
      cases request

theorem get?_toRecord_hide {rule : HidingRule} (hides : f.rule = .hide rule) (key : String) :
    f.toRecord.get? key =
      if key = "type" then some "elemhide"
      else if key = "selector" then some rule.selector
      else if key = "domain" then rule.domain
      else f.beginRecord.get? key := by
  simp only [toRecord, writeRule, hides, get?_insert, get?_writeHiding]
  split
  · rfl
  · split
    · rfl
    · split
      · rename_i domain
        subst domain
        simp [get?_writeActivity]
      · rfl

@[simp] theorem text_toRecord (f : Filter) : f.toRecord.get? "text" = some f.text := by
  cases h : f.rule with
  | invalid | comment => simp [get?_toRecord_idle, h, Rule.isActive]
  | blocking q collapse =>
      simp [get?_toRecord_request (f := f) (q := q) (by rw [h]; rfl), get?_writeRequest,
        get?_beginRecord]
  | exception q =>
      simp [get?_toRecord_request (f := f) (q := q) (by rw [h]; rfl), get?_writeRequest,
        get?_beginRecord]
  | hide rule => simp [get?_toRecord_hide h, get?_beginRecord]

@[simp] theorem type_toRecord (f : Filter) : f.toRecord.get? "type" = some f.rule.kind := by
  simp [toRecord]

theorem conditions_toRecord {q : RequestRule} (request : f.rule.request? = some q) :
    f.toRecord.conditions = q.conditions := by
  have field := get?_toRecord_request request
  have types : (f.toRecord.number? UInt32.size "contentType").map (BitVec.ofNat 32) =
      q.conditions.types := by
    have written : f.toRecord.get? "contentType" =
        (q.conditions.types.map BitVec.toNat).map toString := by
      simp [field, get?_writeRequest, get?_beginRecord, Function.comp_def]
    have small : ∀ n ∈ q.conditions.types.map BitVec.toNat, n < UInt32.size := by
      intro n member
      obtain ⟨m, -, rfl⟩ := Option.map_eq_some_iff.mp member
      exact m.isLt
    rw [Record.number?, written, Record.parse?_field small, Option.map_map]
    cases q.conditions.types with
    | none => rfl
    | some m =>
        have same : BitVec.ofNat 32 m.toNat = m := by simp
        exact congrArg some same
  have matchCase : f.toRecord.bool? "matchCase" =
      if q.conditions.matchCase then some true else none := by
    refine Record.bool?_of_get? ?_
    cases h : q.conditions.matchCase with
    | false => simp [field, get?_writeRequest, get?_beginRecord, h]
    | true => simp [field, get?_writeRequest, h, Record.ofBool]
  have domains : f.toRecord.get? "domains" = q.conditions.domains := by
    simp [field, get?_writeRequest, get?_beginRecord]
  have thirdParty : f.toRecord.bool? "thirdParty" = q.conditions.thirdParty := by
    refine Record.bool?_of_get? ?_
    simp [field, get?_writeRequest, get?_beginRecord]
  unfold Record.conditions
  rw [types, matchCase, domains, thirdParty]
  obtain ⟨types, matchCase, domains, thirdParty⟩ := q.conditions
  cases matchCase with
  | false => rfl
  | true => rfl

theorem get?_toRecord_active (active : f.rule.isActive = true) {key : String}
    (ofActivity : key ∈ ["disabled", "hitCount", "lastHit"]) :
    f.toRecord.get? key = f.beginRecord.get? key := by
  simp only [List.mem_cons, List.not_mem_nil, or_false] at ofActivity
  cases h : f.rule with
  | invalid | comment =>
      rw [h] at active
      cases active
  | blocking q =>
      rw [get?_toRecord_request (q := q) (by rw [h]; rfl)]
      rcases ofActivity with rfl | rfl | rfl <;> simp [get?_writeRequest]
  | exception q =>
      rw [get?_toRecord_request (q := q) (by rw [h]; rfl)]
      rcases ofActivity with rfl | rfl | rfl <;> simp [get?_writeRequest]
  | hide rule =>
      rw [get?_toRecord_hide h]
      rcases ofActivity with rfl | rfl | rfl <;> simp

theorem setActivity_toRecord (active : f.rule.isActive = true) :
    f.toRecord.setActivity {} = f.activity := by
  have disabled : f.toRecord.get? "disabled" = if f.activity.disabled then some "true" else none := by
    rw [get?_toRecord_active active (by decide), get?_beginRecord]
    simp
  have hits : f.toRecord.get? "hitCount" =
      if f.activity.hits = 0 then none else some (toString f.activity.hits.toNat) := by
    rw [get?_toRecord_active active (by decide), get?_beginRecord]
    simp
  have lastHit : f.toRecord.get? "lastHit" =
      if f.activity.lastHit = 0 then none else some (toString f.activity.lastHit.toNat) := by
    rw [get?_toRecord_active active (by decide), get?_beginRecord]
    simp
  rw [Record.setActivity, Record.setDisabled_of_get? disabled rfl, Record.setHits_of_get? hits rfl,
    Record.setLastHit_of_get? lastHit rfl]

end Fields

end Filter

end AdFilter
