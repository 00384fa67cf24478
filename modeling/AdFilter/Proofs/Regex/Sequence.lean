import AdFilter.Proofs.Regex.Reading
import AdFilter.Proofs.Regex.Search
import Mathlib.Data.List.Forall2

/-! # What sequences of expressions describe

The meaning of each kind of expression is stated as an equivalence, and a list of expressions is
put together to one that describes what they describe one after the other.
-/

namespace AdFilter.Regex

section Sets

variable {a b : CharSet} {c d lo hi : Char}

theorem mem_range :
    (CharSet.range lo hi).mem c = true ↔ lo.toNat ≤ c.toNat ∧ c.toNat ≤ hi.toNat := by
  simp only [CharSet.mem, Bool.and_eq_true, decide_eq_true_eq, Char.le_def, UInt32.le_iff_toNat_le]
  rfl

@[simp] theorem mem_single : (CharSet.single d).mem c = true ↔ c = d := by
  rw [CharSet.single, mem_range, ← Char.toNat_inj]
  omega

@[simp] theorem mem_union : (CharSet.union a b).mem c = true ↔ a.mem c = true ∨ b.mem c = true := by
  rw [CharSet.mem, Bool.or_eq_true]

@[simp] theorem mem_compl : (CharSet.compl a).mem c = true ↔ ¬ a.mem c = true := by
  rw [CharSet.mem, Bool.not_eq_true', Bool.not_eq_true]

@[simp] theorem mem_space : CharSet.space.mem c = true ↔ AdFilter.Text.isBlank c = true := by
  simp only [CharSet.space, CharSet.ranges, List.map_cons, List.map_nil, CharSet.unions, mem_union,
    mem_range, Text.isBlank, Bool.or_eq_true, Bool.and_eq_true, decide_eq_true_eq, beq_iff_eq,
    Char.reduceToNat]
  omega

end Sets

variable {before part after : List Char}

@[simp] theorem matches_empty : Matches .empty before part after ↔ part = [] := by
  constructor
  · intro h
    cases h
    rfl
  · rintro rfl
    exact .empty

@[simp] theorem matches_chars {s : CharSet} :
    Matches (.chars s) before part after ↔ ∃ c, part = [c] ∧ s.mem c = true := by
  constructor
  · intro h
    cases h with
    | chars member => exact ⟨_, rfl, member⟩
  · rintro ⟨c, rfl, member⟩
    exact .chars member

theorem matches_look {l : Look} :
    Matches (.look l) before part after ↔ part = [] ∧ l.holds (placeOf before after) = true := by
  constructor
  · intro h
    cases h with
    | look holds => exact ⟨rfl, holds⟩
  · rintro ⟨rfl, holds⟩
    exact .look holds

@[simp] theorem matches_startText :
    Matches (.look .startText) before part after ↔ part = [] ∧ before = [] := by
  simp [matches_look, Look.holds, placeOf]

@[simp] theorem matches_endText :
    Matches (.look .endText) before part after ↔ part = [] ∧ after = [] := by
  simp [matches_look, Look.holds, placeOf]

@[simp] theorem matches_seq {a b : Regex} :
    Matches (.seq a b) before part after ↔ ∃ x y, part = x ++ y ∧
      Matches a before x (y ++ after) ∧ Matches b (before ++ x) y after := by
  constructor
  · intro h
    cases h with
    | seq first second => exact ⟨_, _, rfl, first, second⟩
  · rintro ⟨x, y, rfl, first, second⟩
    exact .seq first second

@[simp] theorem matches_alt {a b : Regex} :
    Matches (.alt a b) before part after ↔
      Matches a before part after ∨ Matches b before part after := by
  constructor
  · intro h
    cases h with
    | altLeft h => exact .inl h
    | altRight h => exact .inr h
  · rintro (h | h)
    · exact .altLeft h
    · exact .altRight h

theorem matches_rep_chars {s : CharSet} {min : Nat} :
    Matches (.rep (.chars s) min none) before part after ↔
      min ≤ part.length ∧ ∀ c ∈ part, s.mem c = true := by
  constructor
  · intro h
    generalize whole : Regex.rep (.chars s) min none = q at h
    induction h generalizing min with
    | empty | chars | look | seq | altLeft | altRight => cases whole
    | repDone => cases whole; simp
    | repMore _ first _ _ ih =>
        cases whole
        obtain ⟨c, rfl, member⟩ := matches_chars.mp first
        obtain ⟨long, members⟩ := ih rfl
        refine ⟨?_, ?_⟩
        · simp only [List.singleton_append, List.length_cons]
          omega
        · simpa [member] using members
  · rintro ⟨long, members⟩
    induction part generalizing min before with
    | nil =>
        obtain rfl : min = 0 := Nat.le_zero.mp long
        exact .repDone
    | cons c part ih =>
        have long' : min - 1 ≤ part.length := by
          simp only [List.length_cons] at long
          omega
        have rest : Matches (.rep (.chars s) (min - 1) none) (before ++ [c]) part after :=
          ih long' fun d member => members d (List.mem_cons_of_mem c member)
        exact .repMore (x := [c]) (by simp) (.chars (members c List.mem_cons_self)) rest

@[simp] theorem matches_optional {r : Regex} :
    Matches (.rep r 0 (some 1)) before part after ↔ part = [] ∨ Matches r before part after := by
  constructor
  · intro h
    cases h with
    | repDone => exact .inl rfl
    | repMore _ first rest =>
        right
        cases rest with
        | repDone => simpa using first
        | repMore exhausted => exact absurd rfl exhausted
  · rintro (rfl | h)
    · exact .repDone
    · rw [← List.append_nil part] at h ⊢
      exact .repMore (by simp) (by simpa using h) .repDone

/-- Any number of an expression to which the surroundings make no difference describe the texts that
    consist of what it describes. -/
theorem matches_star {r : Regex} {describes : List Char → Prop}
    (plain : ∀ before part after, Matches r before part after ↔ describes part) :
    Matches (.rep r 0 none) before part after ↔
      ∃ rounds : List (List Char), part = rounds.flatten ∧ ∀ round ∈ rounds, describes round := by
  constructor
  · intro h
    generalize whole : Regex.rep r 0 none = q at h
    induction h with
    | empty | chars | look | seq | altLeft | altRight => cases whole
    | repDone => exact ⟨[], rfl, by simp⟩
    | repMore _ first _ _ ih =>
        cases whole
        obtain ⟨rounds, rfl, all⟩ := ih rfl
        exact ⟨_ :: rounds, rfl, List.forall_mem_cons.mpr ⟨(plain _ _ _).mp first, all⟩⟩
  · rintro ⟨rounds, rfl, all⟩
    induction rounds generalizing before with
    | nil => exact .repDone
    | cons round rounds ih =>
        obtain ⟨first, others⟩ := List.forall_mem_cons.mp all
        exact .repMore (by simp) ((plain _ _ _).mpr first) (ih others)

def chain : List Regex → Regex
  | [] => .empty
  | [r] => r
  | r :: rest => .seq r (chain rest)

@[simp] theorem matches_chain_nil : Matches (chain []) before part after ↔ part = [] :=
  matches_empty

@[simp] theorem matches_chain_cons {r : Regex} {rest : List Regex} :
    Matches (chain (r :: rest)) before part after ↔ ∃ x y, part = x ++ y ∧
      Matches r before x (y ++ after) ∧ Matches (chain rest) (before ++ x) y after := by
  cases rest with
  | nil =>
      simp only [chain, matches_empty]
      constructor
      · intro h
        exact ⟨part, [], by simp, by simpa using h, rfl⟩
      · rintro ⟨x, y, rfl, h, rfl⟩
        simpa using h
  | cons s rest => exact matches_seq

@[simp] theorem matches_chain_append {first second : List Regex} :
    Matches (chain (first ++ second)) before part after ↔ ∃ x y, part = x ++ y ∧
      Matches (chain first) before x (y ++ after) ∧
        Matches (chain second) (before ++ x) y after := by
  induction first generalizing before part with
  | nil => simp [matches_chain_nil]
  | cons r first ih =>
      simp only [List.cons_append, matches_chain_cons, ih]
      constructor
      · rintro ⟨x, y, rfl, here, u, v, rfl, middle, last⟩
        exact ⟨x ++ u, v, by simp, ⟨x, u, rfl, by simpa using here, middle⟩, by simpa using last⟩
      · rintro ⟨x, y, rfl, ⟨u, v, rfl, here, middle⟩, last⟩
        exact ⟨u, v ++ y, by simp, by simpa using here, v, y, rfl, middle, by simpa using last⟩

theorem ordered_chain {rs : List Regex} (ordered : ∀ r ∈ rs, r.Ordered) :
    (chain rs).Ordered := by
  match rs with
  | [] => trivial
  | [r] => exact ordered r (by simp)
  | r :: s :: rest =>
      exact ⟨ordered r (by simp), ordered_chain fun t member => ordered t (by simp [member])⟩

theorem resolve_combine {parts : List (Nested Node)} {rs : List Regex}
    (each : List.Forall₂ (fun part r => part.part.resolve = .ok r) parts rs) :
    (Nested.combine .empty .seq parts.reverse).part.resolve = .ok (chain rs) := by
  induction each with
  | nil => rfl
  | @cons a r _ _ h each ih =>
      cases each with
      | nil => exact h
      | cons h' each =>
          rw [Nested.part_combine_reverse, Node.resolve, h, ih]
          rfl

end AdFilter.Regex
