import AdFilter.Proofs.Registry.Identity
import AdFilter.Proofs.Registry.Restoring
import Mathlib.Logic.Function.Iterate

/-! # Interleaved calls on a registry

Several callers can be under way at once. Each goes through its call in steps: a look-up, an
insertion, or a change of one field of a filter is one step, and between two steps of a caller the
others may take any number of theirs. In particular a filter is compiled after its text was looked
up and before it is put into place.
-/

namespace AdFilter

open Text

/-- How far a caller has come with its call. -/
inductive Stage where
  /-- Nothing has been done yet. -/
  | called
  /-- The text was not known, and its filter has been compiled. -/
  | compiled (f : Filter)
  /-- The filter is known, and these changes of its switch and its counters are left. -/
  | settling (id : FilterId) (changes : List (Activity → Activity))
  | returned (result : Option FilterId)

def Stage.result? : Stage → Option (Option FilterId)
  | .returned result => some result
  | _ => none

/-- The text of a record of a known kind. -/
def Record.text? (r : Record) : Option String :=
  (r.get? "text").bind fun text => (r.get? "type").bind fun kind =>
    if kind ∈ kinds then some text else none

namespace Call

/-- How a call goes on with the filter that it has found. -/
def found : Call → FilterId → Stage
  | .ofRecord _ r, id => .settling id [r.setDisabled, r.setHits, r.setLastHit]
  | _, id => .returned (some id)

/-- Looks a text up, and compiles its filter if it is not known. -/
def look (call : Call) (n : Interning) (text : String) : Stage :=
  if blank text then .returned none
  else
    match n.registry.get? text with
    | some id => call.found id
    | none => .compiled (n.registry.compile text)

def begin (n : Interning) : Call → Stage × Interning
  | .ofText text => (look (.ofText text) n text, n)
  | .ofRecord version r =>
    match r.given? version with
    | some f => (found (.ofRecord version r) (n.replace f).1, (n.replace f).2)
    | none => ((r.text?.map (look (.ofRecord version r) n)).getD (.returned none), n)
  | .get text => (.returned (n.registry.get? text), n)
  | .clear => (.returned none, n.clear)
  | .update id change => (.returned none, { n with store := n.store.modifyActivity id change })

end Call

/-- A call under way. -/
structure Caller where
  call : Call
  stage : Stage := .called

def Caller.step (n : Interning) (c : Caller) : Caller × Interning :=
  match c.stage with
  | .called => ({ c with stage := (c.call.begin n).1 }, (c.call.begin n).2)
  | .compiled f => ({ c with stage := c.call.found (n.intern f).1 }, (n.intern f).2)
  | .settling id (change :: changes) =>
    ({ c with stage := .settling id changes },
      { n with store := n.store.modifyActivity id change })
  | .settling id [] => ({ c with stage := .returned (some id) }, n)
  | .returned _ => (c, n)

/-- A registry and all that ever called on it, in the order in which they came. -/
structure Race where
  interning : Interning
  callers : List Caller := []

/-- What happens next. A thread that makes several calls is a caller for each of them. -/
inductive Event where
  /-- Another caller comes with a call. -/
  | arrive (call : Call)
  /-- The caller takes its next step. -/
  | step (k : Nat)

namespace Event

def run (s : Race) : Event → Race
  | .arrive call => { s with callers := s.callers ++ [{ call }] }
  | .step k =>
    match s.callers[k]? with
    | some c => ⟨(c.step s.interning).2, s.callers.set k (c.step s.interning).1⟩
    | none => s

def call? : Event → Option Call
  | .arrive call => some call
  | .step _ => none

def isStepOf (k : Nat) : Event → Bool
  | .arrive _ => false
  | .step j => j == k

theorem run_step {s : Race} {k : Nat} {c : Caller} (present : s.callers[k]? = some c) :
    (Event.step k).run s =
      ⟨(c.step s.interning).2, s.callers.set k (c.step s.interning).1⟩ := by
  unfold run
  simp only [present]

theorem run_step_of_none {s : Race} {k : Nat} (absent : s.callers[k]? = none) :
    (Event.step k).run s = s := by
  unfold run
  simp only [absent]

end Event

def Race.after (s : Race) (events : List Event) : Race :=
  events.foldl Event.run s

section Alone

/-! ### A caller without others -/

theorem Filter.updateActivity_updateActivity (f : Filter) (change change' : Activity → Activity) :
    (f.updateActivity change).updateActivity change' = f.updateActivity (change' ∘ change) := by
  cases active : f.rule.isActive with
  | false => simp only [updateActivity_of_idle active]
  | true =>
      have again := updateActivity_of_active (f := { f with activity := change f.activity }) active
        change'
      rw [updateActivity_of_active active, again, updateActivity_of_active active]
      rfl

theorem Store.modifyActivity_modifyActivity (s : Store) (id : FilterId)
    (change change' : Activity → Activity) :
    (s.modifyActivity id change).modifyActivity id change' =
      s.modifyActivity id (change' ∘ change) := by
  have same (i : FilterId) : ((s.modifyActivity id change).modifyActivity id change').get? i =
      (s.modifyActivity id (change' ∘ change)).get? i := by
    simp only [modifyActivity, get?_modify]
    split
    · rw [Option.map_map]
      exact congrArg (fun g => (s.get? i).map g)
        (funext fun f => f.updateActivity_updateActivity change change')
    · rfl
  exact congrArg Store.mk (Array.ext_getElem? same)

theorem Interning.found?_eq_text? (n : Interning) (version : Nat) (r : Record) :
    n.found? version r =
      match r.given? version with
      | some f => some (n.replace f)
      | none => r.text?.bind n.ofText? := by
  rw [found?_eq, Record.text?]
  cases hasText : r.get? "text" with
  | none => simp [Record.given?, hasText]
  | some text =>
      cases hasKind : r.get? "type" with
      | none => simp [Record.given?, hasText, hasKind]
      | some kind =>
          by_cases known : kind ∈ Record.kinds
          · cases r.given? version with
            | none => simp [known]
            | some f => simp [known]
          · have unaided : r.given? version = none := by
              simp only [Record.kinds, List.mem_cons, List.not_mem_nil, or_false, not_or] at known
              simp [Record.given?, hasText, hasKind, known]
            simp [unaided, known]

namespace Caller

/-- A step of a caller with nobody else there. -/
def advance (alone : Caller × Interning) : Caller × Interning :=
  alone.1.step alone.2

theorem advance_returned (call : Call) (result : Option FilterId) (n : Interning) (steps : Nat) :
    advance^[steps] (⟨call, .returned result⟩, n) = (⟨call, .returned result⟩, n) :=
  Function.iterate_fixed rfl steps

theorem advance_settling (call : Call) (id : FilterId) (r : Record) (n : Interning) :
    advance^[4] (⟨call, .settling id [r.setDisabled, r.setHits, r.setLastHit]⟩, n) =
      (⟨call, .returned (some id)⟩,
        { n with store := n.store.modifyActivity id r.setActivity }) := by
  have composed : r.setActivity = r.setLastHit ∘ r.setHits ∘ r.setDisabled := rfl
  rw [composed, ← Store.modifyActivity_modifyActivity, ← Store.modifyActivity_modifyActivity]
  rfl

theorem advance_look (call : Call) (settled : FilterId → Interning → Interning)
    (finishes : ∀ id n, advance^[4] (⟨call, call.found id⟩, n) =
      (⟨call, .returned (some id)⟩, settled id n)) (n : Interning) (text : String) :
    advance^[5] (⟨call, call.look n text⟩, n) =
      match n.ofText? text with
      | some (id, n') => (⟨call, .returned (some id)⟩, settled id n')
      | none => (⟨call, .returned none⟩, n) := by
  unfold Call.look
  cases solid : blank text with
  | true =>
      rw [Interning.ofText?_of_blank solid, if_pos rfl]
      exact advance_returned call none n 5
  | false =>
      rw [if_neg Bool.false_ne_true]
      cases known : n.registry.get? text with
      | some id =>
          rw [Interning.ofText?_of_known solid known, Function.iterate_succ_apply']
          simp only [finishes]
          rfl
      | none =>
          have made : n.intern (n.registry.compile text) = n.replace (n.registry.compile text) :=
            Interning.intern_of_unknown (by rwa [Registry.text_compile])
          rw [Interning.ofText?_of_unknown solid known, Function.iterate_succ_apply, ← made]
          exact finishes _ _

/-- A caller that nobody interrupts does in its steps what the call does at once. -/
theorem advance_eq_run (call : Call) (n : Interning) :
    advance^[6] (⟨call, .called⟩, n) = (⟨call, .returned (call.run n).1⟩, (call.run n).2) := by
  rw [Function.iterate_succ_apply]
  cases call with
  | ofText text =>
      have looked := advance_look (.ofText text) (fun _ n => n)
        (fun id n => advance_returned _ (some id) n 4) n text
      refine Eq.trans looked ?_
      rw [Call.run]
      cases n.ofText? text <;> rfl
  | ofRecord version r =>
      have finishes (id : FilterId) (n : Interning) := advance_settling (.ofRecord version r) id r n
      have begun : advance (⟨.ofRecord version r, .called⟩, n) =
          (⟨.ofRecord version r, ((Call.ofRecord version r).begin n).1⟩,
            ((Call.ofRecord version r).begin n).2) := rfl
      rw [begun, Call.run, Interning.ofRecord?, Interning.found?_eq_text?, Call.begin]
      cases r.given? version with
      | some f =>
          simp only [Option.map_some]
          rw [Function.iterate_succ_apply', Call.found, finishes]
          rfl
      | none =>
          cases r.text? with
          | none => exact advance_returned _ none n 5
          | some text =>
              simp only [Option.map_some, Option.getD_some, Option.bind_some]
              refine Eq.trans (advance_look _ _ finishes n text) ?_
              cases n.ofText? text <;> rfl
  | get text => exact advance_returned _ _ n 5
  | clear => exact advance_returned _ _ _ 5
  | update id change => exact advance_returned _ _ _ 5

end Caller

end Alone

end AdFilter
