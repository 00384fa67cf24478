import AdFilter.Regex.Search
import Mathlib.Logic.Function.Iterate

/-! # The search finds what an expression describes

The search takes sets of places to sets of places, whereas the meaning of an expression speaks of
a part of a text and its surroundings. Both are read here as one relation between the place where
a part begins and the place where it ends. An unlimited repetition needs no more rounds than there
are places, as a round that goes nowhere can be left out.
-/

namespace AdFilter.Regex

/-- Every repetition allows at least as many rounds as it asks for. -/
def Ordered : Regex → Prop
  | .empty | .chars _ | .look _ => True
  | .seq a b | .alt a b => a.Ordered ∧ b.Ordered
  | .rep r min max => r.Ordered ∧ ∀ m ∈ max, min ≤ m

/-- The expression describes the part of the text between two places. -/
def Spans (text : List Char) (r : Regex) (i j : Nat) : Prop :=
  ∃ before part after, text = before ++ part ++ after ∧ i = before.length ∧
    j = i + part.length ∧ r.Matches before part after

/-- So many steps of a relation lead from one place to another. -/
inductive Rounds (R : Nat → Nat → Prop) : Nat → Nat → Nat → Prop where
  | zero {i} : Rounds R 0 i i
  | succ {n i k j} : R i k → Rounds R n k j → Rounds R (n + 1) i j

namespace Rounds

variable {R : Nat → Nat → Prop}

theorem zero_iff {i j : Nat} : Rounds R 0 i j ↔ i = j := by
  constructor
  · intro h
    cases h
    rfl
  · rintro rfl
    exact .zero

theorem succ_iff {n i j : Nat} : Rounds R (n + 1) i j ↔ ∃ k, R i k ∧ Rounds R n k j := by
  constructor
  · intro h
    cases h with
    | succ first rest => exact ⟨_, first, rest⟩
  · rintro ⟨k, first, rest⟩
    exact .succ first rest

theorem add_iff {m n i j : Nat} :
    Rounds R (m + n) i j ↔ ∃ k, Rounds R m i k ∧ Rounds R n k j := by
  induction m generalizing i with
  | zero => simp [zero_iff]
  | succ m ih =>
      rw [Nat.succ_add, succ_iff]
      simp only [ih, succ_iff]
      constructor
      · rintro ⟨k, first, l, middle, last⟩
        exact ⟨l, ⟨k, first, middle⟩, last⟩
      · rintro ⟨l, ⟨k, first, middle⟩, last⟩
        exact ⟨k, first, l, middle, last⟩

theorem le (forward : ∀ i j, R i j → i ≤ j) {n i j : Nat} (h : Rounds R n i j) : i ≤ j := by
  induction h with
  | zero => exact Nat.le_refl _
  | succ first _ ih => exact Nat.le_trans (forward _ _ first) ih

theorem bounded {last : Nat} (bounded : ∀ i j, i ≤ last → R i j → j ≤ last) {n i j : Nat}
    (h : Rounds R n i j) (inside : i ≤ last) : j ≤ last := by
  induction h with
  | zero => exact inside
  | succ first _ ih => exact ih (bounded _ _ inside first)

theorem exists_short (forward : ∀ i j, R i j → i ≤ j) {n i j : Nat} (h : Rounds R n i j) :
    ∃ k ≤ j - i, Rounds R k i j := by
  induction h with
  | zero => exact ⟨0, Nat.zero_le _, .zero⟩
  | @succ n i k j first rest ih =>
      obtain ⟨l, short, rounds⟩ := ih
      have onward := rest.le forward
      rcases Nat.lt_or_eq_of_le (forward i k first) with moved | rfl
      · exact ⟨l + 1, by omega, .succ first rounds⟩
      · exact ⟨l, short, rounds⟩

/-- Steps that may also stay in place lead as far as any smaller number of proper steps. -/
theorem lazy_iff {n i j : Nat} :
    Rounds (fun a b => a = b ∨ R a b) n i j ↔ ∃ k ≤ n, Rounds R k i j := by
  induction n generalizing i with
  | zero => simp [zero_iff]
  | succ n ih =>
      simp only [succ_iff, ih]
      constructor
      · rintro ⟨m, rfl | step, k, short, rounds⟩
        · exact ⟨k, by omega, rounds⟩
        · exact ⟨k + 1, by omega, .succ step rounds⟩
      · rintro ⟨k, short, rounds⟩
        cases rounds with
        | zero => exact ⟨_, .inl rfl, 0, Nat.zero_le _, .zero⟩
        | @succ k _ m _ first rest => exact ⟨m, .inr first, k, by omega, rest⟩

end Rounds

section Spans

variable {text : List Char}

theorem Spans.le {r : Regex} {i j : Nat} (h : Spans text r i j) : i ≤ j ∧ j ≤ text.length := by
  obtain ⟨before, part, after, rfl, rfl, rfl, -⟩ := h
  simp

theorem align {before part after before' part' after' : List Char}
    (first : text = before ++ part ++ after) (second : text = before' ++ part' ++ after')
    (next : before'.length = before.length + part.length) :
    before' = before ++ part ∧ after = part' ++ after' := by
  have same : before' ++ (part' ++ after') = (before ++ part) ++ after := by
    rw [← first, second, List.append_assoc]
  obtain ⟨left, right⟩ := List.append_inj same (by simpa using next)
  exact ⟨left, right.symm⟩

theorem spans_empty {i j : Nat} : Spans text .empty i j ↔ i = j ∧ i ≤ text.length := by
  constructor
  · rintro ⟨before, part, after, rfl, rfl, rfl, h⟩
    cases h
    simp
  · rintro ⟨rfl, inside⟩
    exact ⟨text.take i, [], text.drop i, by simp, by simp [inside], by simp, .empty⟩

theorem spans_chars {s : CharSet} {i j : Nat} :
    Spans text (.chars s) i j ↔ j = i + 1 ∧ (text[i]?).any s.mem = true := by
  constructor
  · rintro ⟨before, part, after, rfl, rfl, rfl, h⟩
    cases h with
    | chars member => simp [member]
  · rintro ⟨rfl, h⟩
    obtain ⟨c, found, member⟩ := (Option.any_eq_true _ _).mp h
    obtain ⟨inside, rfl⟩ := List.getElem?_eq_some_iff.mp found
    refine ⟨text.take i, [text[i]], text.drop (i + 1), ?_, ?_, rfl, .chars member⟩
    · simp
    · simp [Nat.le_of_lt inside]

theorem spans_look {l : Look} {i j : Nat} :
    Spans text (.look l) i j ↔
      i = j ∧ i ≤ text.length ∧ l.holds (placeOf (text.take i) (text.drop i)) = true := by
  constructor
  · rintro ⟨before, part, after, rfl, rfl, rfl, h⟩
    cases h with
    | look holds => simpa using holds
  · rintro ⟨rfl, inside, holds⟩
    exact ⟨text.take i, [], text.drop i, by simp, by simp [inside], by simp, .look holds⟩

theorem spans_seq {a b : Regex} {i j : Nat} :
    Spans text (.seq a b) i j ↔ ∃ k, Spans text a i k ∧ Spans text b k j := by
  constructor
  · rintro ⟨before, part, after, rfl, rfl, rfl, h⟩
    cases h with
    | @seq _ _ _ x y _ first second =>
        refine ⟨before.length + x.length, ⟨before, x, y ++ after, ?_, rfl, rfl, first⟩,
          ⟨before ++ x, y, after, ?_, ?_, ?_, second⟩⟩ <;> simp [Nat.add_assoc]
  · rintro ⟨k, ⟨before, x, rest, split, rfl, rfl, first⟩,
      ⟨before', y, after, split', next, rfl, second⟩⟩
    obtain ⟨rfl, rfl⟩ := align split split' next.symm
    exact ⟨before, x ++ y, after, by simp [split], rfl, by simp [Nat.add_assoc], .seq first second⟩

theorem spans_alt {a b : Regex} {i j : Nat} :
    Spans text (.alt a b) i j ↔ Spans text a i j ∨ Spans text b i j := by
  constructor
  · rintro ⟨before, part, after, split, start, stop, h⟩
    cases h with
    | altLeft h => exact .inl ⟨before, part, after, split, start, stop, h⟩
    | altRight h => exact .inr ⟨before, part, after, split, start, stop, h⟩
  · rintro (⟨before, part, after, split, start, stop, h⟩ |
      ⟨before, part, after, split, start, stop, h⟩)
    · exact ⟨before, part, after, split, start, stop, .altLeft h⟩
    · exact ⟨before, part, after, split, start, stop, .altRight h⟩

theorem spans_rep {r : Regex} {min : Nat} {max : Option Nat} {i j : Nat} :
    Spans text (.rep r min max) i j ↔
      i ≤ text.length ∧ ∃ n, min ≤ n ∧ (∀ m ∈ max, n ≤ m) ∧ Rounds (Spans text r) n i j := by
  constructor
  · rintro ⟨before, part, after, split, start, stop, h⟩
    generalize whole : Regex.rep r min max = q at h
    induction h generalizing min max i j with
    | empty | chars | look | seq | altLeft | altRight => cases whole
    | repDone =>
        cases whole
        have here : i = j := by simp [stop]
        exact ⟨by simp [split, start], 0, Nat.le_refl _, fun m _ => Nat.zero_le m,
          Rounds.zero_iff.mpr here⟩
    | @repMore _ _ _ before x y after open' first _ _ ih =>
        cases whole
        obtain ⟨-, n, enough, limited, rounds⟩ := ih (i := i + x.length) (j := j) (by simp [split])
          (by simp [start]) (by simp [stop, Nat.add_assoc]) rfl
        refine ⟨by simp [split, start], n + 1, by omega, ?_, .succ ?_ rounds⟩
        · rintro m rfl
          have positive : m ≠ 0 := fun zero => open' (by rw [zero])
          have := limited (m - 1) rfl
          omega
        · exact ⟨before, x, y ++ after, by simp [split], start, rfl, first⟩
  · rintro ⟨inside, n, enough, limited, rounds⟩
    induction n generalizing min max i with
    | zero =>
        obtain rfl := Rounds.zero_iff.mp rounds
        obtain rfl := Nat.le_zero.mp enough
        exact ⟨text.take i, [], text.drop i, by simp, by simp [inside], by simp, .repDone⟩
    | succ n ih =>
        obtain ⟨k, first, rest⟩ := Rounds.succ_iff.mp rounds
        have enough' : min - 1 ≤ n := by omega
        have limited' : ∀ m ∈ max.map (· - 1), n ≤ m := by
          intro m member
          obtain ⟨m', member', rfl⟩ := Option.map_eq_some_iff.mp member
          have := limited m' member'
          omega
        obtain ⟨before', y, after, split', next, rfl, second⟩ :=
          ih first.le.2 enough' limited' rest
        obtain ⟨before, x, rest', split, rfl, rfl, first⟩ := first
        obtain ⟨rfl, rfl⟩ := align split split' next.symm
        have open' : max ≠ some 0 := by
          rintro rfl
          exact absurd (limited 0 rfl) (by omega)
        exact ⟨before, x ++ y, after, by simp [split], rfl, by simp [Nat.add_assoc],
          .repMore open' first second⟩

end Spans

theorem iterate_eq (f : Nat → Nat) (n set : Nat) : iterate f n set = f^[n] set := by
  induction n generalizing set with
  | zero => rfl
  | succ n ih =>
      unfold iterate
      split
      · rename_i fixed
        exact (Function.iterate_fixed fixed (n + 1)).symm
      · rw [ih, Function.iterate_succ_apply]

/-- The function takes a set of places to those that the relation leads to from them, as long as
    no place lies behind the end of the text. -/
def Follows (last : Nat) (R : Nat → Nat → Prop) (f : Nat → Nat) : Prop :=
  ∀ set : Nat, (∀ i, set.testBit i = true → i ≤ last) →
    ∀ j, (f set).testBit j = true ↔ ∃ i, set.testBit i = true ∧ R i j

namespace Follows

variable {last : Nat} {R Q : Nat → Nat → Prop} {f g : Nat → Nat}

theorem congr (h : Follows last R f) (same : ∀ i j, i ≤ last → (R i j ↔ Q i j)) :
    Follows last Q f := by
  intro set small j
  rw [h set small]
  constructor
  · rintro ⟨i, member, step⟩
    exact ⟨i, member, (same i j (small i member)).mp step⟩
  · rintro ⟨i, member, step⟩
    exact ⟨i, member, (same i j (small i member)).mpr step⟩

theorem inside (h : Follows last R f) (bounded : ∀ i j, i ≤ last → R i j → j ≤ last) {set : Nat}
    (small : ∀ i, set.testBit i = true → i ≤ last) :
    ∀ j, (f set).testBit j = true → j ≤ last := by
  intro j found
  obtain ⟨i, member, step⟩ := (h set small j).mp found
  exact bounded i j (small i member) step

theorem comp (h : Follows last R f) (h' : Follows last Q g)
    (bounded : ∀ i j, i ≤ last → R i j → j ≤ last) :
    Follows last (fun i j => ∃ k, R i k ∧ Q k j) (g ∘ f) := by
  intro set small j
  rw [Function.comp_apply, h' (f set) (h.inside bounded small)]
  simp only [h set small]
  constructor
  · rintro ⟨k, ⟨i, member, first⟩, second⟩
    exact ⟨i, member, k, first, second⟩
  · rintro ⟨i, member, k, first, second⟩
    exact ⟨k, ⟨i, member, first⟩, second⟩

theorem union (h : Follows last R f) (h' : Follows last Q g) :
    Follows last (fun i j => R i j ∨ Q i j) (fun set => f set ||| g set) := by
  intro set small j
  rw [Nat.testBit_or, Bool.or_eq_true, h set small, h' set small]
  constructor
  · rintro (⟨i, member, step⟩ | ⟨i, member, step⟩)
    · exact ⟨i, member, .inl step⟩
    · exact ⟨i, member, .inr step⟩
  · rintro ⟨i, member, step | step⟩
    · exact .inl ⟨i, member, step⟩
    · exact .inr ⟨i, member, step⟩

theorem stay : Follows last (fun i j => i = j) id := by
  intro set _ j
  simp

theorem iterate (h : Follows last R f) (bounded : ∀ i j, i ≤ last → R i j → j ≤ last) (n : Nat) :
    Follows last (Rounds R n) (iterate f n) := by
  intro set small j
  rw [iterate_eq]
  induction n generalizing set with
  | zero => simp [Rounds.zero_iff]
  | succ n ih =>
      rw [Function.iterate_succ_apply, ih (f set) (h.inside bounded small)]
      simp only [h set small, Rounds.succ_iff]
      constructor
      · rintro ⟨k, ⟨i, member, first⟩, rest⟩
        exact ⟨i, member, k, first, rest⟩
      · rintro ⟨i, member, k, first, rest⟩
        exact ⟨k, ⟨i, member, first⟩, rest⟩

end Follows

theorem testBit_placeSet (p : Place → Bool) (ps : List Place) (i : Nat) :
    (placeSet p ps).testBit i = (ps[i]?).any p := by
  induction ps generalizing i with
  | nil => simp [placeSet]
  | cons place ps ih =>
      have unfolded : placeSet p (place :: ps) = 2 * placeSet p ps + (p place).toNat := rfl
      cases i with
      | zero => cases h : p place <;> simp [unfolded, h]
      | succ i =>
          have halved : (2 * placeSet p ps + (p place).toNat) / 2 = placeSet p ps := by
            have bit := Bool.toNat_lt (p place)
            omega
          rw [unfolded, Nat.testBit_succ, halved, ih, List.getElem?_cons_succ]

theorem getElem?_placesFrom (before cs : List Char) (i : Nat) :
    (placesFrom before.getLast? cs)[i]? =
      if i ≤ cs.length then some (placeOf (before ++ cs.take i) (cs.drop i)) else none := by
  induction cs generalizing before i with
  | nil => cases i <;> simp [placesFrom, placeOf]
  | cons c cs ih =>
      cases i with
      | zero => simp [placesFrom, placeOf]
      | succ i =>
          have step := ih (before ++ [c]) i
          rw [List.getLast?_concat] at step
          simp only [placesFrom, List.getElem?_cons_succ, step, List.length_cons,
            Nat.succ_le_succ_iff, List.take_succ_cons, List.drop_succ_cons, List.append_assoc,
            List.singleton_append]

theorem getElem?_places (text : List Char) (i : Nat) :
    (places text)[i]? =
      if i ≤ text.length then some (placeOf (text.take i) (text.drop i)) else none :=
  getElem?_placesFrom [] text i

theorem length_placesFrom (before : Option Char) (cs : List Char) :
    (placesFrom before cs).length = cs.length + 1 := by
  induction cs generalizing before with
  | nil => rfl
  | cons c cs ih => simp [placesFrom, ih]

theorem length_places (text : List Char) : (places text).length = text.length + 1 :=
  length_placesFrom none text

theorem follows_chars (text : List Char) (s : CharSet) (bound : Nat) :
    Follows text.length (Spans text (.chars s)) ((plan (places text) (.chars s)).ends bound) := by
  intro set small j
  simp only [plan, Plan.ends, Nat.testBit_shiftLeft, Nat.testBit_and, testBit_placeSet,
    Bool.and_eq_true, decide_eq_true_eq, spans_chars]
  constructor
  · rintro ⟨positive, member, found⟩
    refine ⟨j - 1, member, by omega, ?_⟩
    rw [getElem?_places, if_pos (small _ member)] at found
    simpa [placeOf] using found
  · rintro ⟨i, member, rfl, found⟩
    refine ⟨by omega, member, ?_⟩
    rw [Nat.add_sub_cancel, getElem?_places, if_pos (small _ member)]
    simpa [placeOf] using found

theorem follows_look (text : List Char) (l : Look) (bound : Nat) :
    Follows text.length (Spans text (.look l)) ((plan (places text) (.look l)).ends bound) := by
  intro set small j
  simp only [plan, Plan.ends, Nat.testBit_and, testBit_placeSet, Bool.and_eq_true, spans_look]
  constructor
  · rintro ⟨member, found⟩
    rw [getElem?_places, if_pos (small _ member)] at found
    exact ⟨j, member, rfl, small _ member, by simpa using found⟩
  · rintro ⟨i, member, rfl, inside, holds⟩
    refine ⟨member, ?_⟩
    rw [getElem?_places, if_pos inside]
    simpa using holds

/-- With enough rounds for unlimited repetitions, the plan of an expression leads from the start
    of every part that the expression describes to its end, and nowhere else. -/
theorem follows_ends {text : List Char} {bound : Nat} (enough : text.length ≤ bound) {r : Regex}
    (ordered : r.Ordered) :
    Follows text.length (Spans text r) ((plan (places text) r).ends bound) := by
  induction r with
  | empty =>
      intro set small j
      simp only [plan, Plan.ends, spans_empty]
      exact ⟨fun member => ⟨j, member, rfl, small j member⟩,
        fun ⟨i, member, same, _⟩ => same ▸ member⟩
  | chars s => exact follows_chars text s bound
  | look l => exact follows_look text l bound
  | seq a b iha ihb =>
      have both := (iha ordered.1).comp (ihb ordered.2) fun _ _ _ step => step.le.2
      exact both.congr fun i j _ => spans_seq.symm
  | alt a b iha ihb =>
      have either := (iha ordered.1).union (ihb ordered.2)
      exact either.congr fun i j _ => spans_alt.symm
  | rep r min max ih =>
      have round := ih ordered.1
      have forward : ∀ i j, Spans text r i j → i ≤ j := fun _ _ step => step.le.1
      have bounded : ∀ i j, i ≤ text.length → Spans text r i j → j ≤ text.length :=
        fun _ _ _ step => step.le.2
      have lazyBounded : ∀ i j, i ≤ text.length → i = j ∨ Spans text r i j → j ≤ text.length := by
        rintro i j inside (rfl | step)
        · exact inside
        · exact step.le.2
      have needed := round.iterate bounded min
      have extra := (Follows.stay.union round).iterate lazyBounded ((max.map (· - min)).getD bound)
      have stays : ∀ i j, i ≤ text.length → Rounds (Spans text r) min i j → j ≤ text.length :=
        fun _ _ inside rounds => rounds.bounded bounded inside
      refine (needed.comp extra stays).congr fun i j inside => ?_
      simp only [Rounds.lazy_iff, spans_rep]
      constructor
      · rintro ⟨k, first, n, few, rest⟩
        refine ⟨inside, min + n, by omega, ?_, Rounds.add_iff.mpr ⟨k, first, rest⟩⟩
        rintro m rfl
        have := ordered.2 m rfl
        simp only [Option.map_some, Option.getD_some] at few
        omega
      · rintro ⟨-, n, enough', limited, rounds⟩
        obtain ⟨e, rfl⟩ := Nat.exists_eq_add_of_le enough'
        obtain ⟨k, first, rest⟩ := Rounds.add_iff.mp rounds
        cases max with
        | none =>
            obtain ⟨n, short, rest'⟩ := rest.exists_short forward
            have within := stays i k inside first
            have ending := rest.bounded bounded within
            exact ⟨k, first, n, by simp only [Option.map_none, Option.getD_none]; omega, rest'⟩
        | some m =>
            have := limited m rfl
            exact ⟨k, first, e, by simp only [Option.map_some, Option.getD_some]; omega, rest⟩

/-- A search finds a part that the expression describes if and only if there is one. -/
theorem isMatch_iff_occurs {r : Regex} (ordered : r.Ordered) (text : List Char) :
    isMatch r text = true ↔ r.Occurs text := by
  have follows : Follows text.length (Spans text r)
      ((plan (places text) r).ends (places text).length) :=
    follows_ends (by rw [length_places]; omega) ordered
  have all (i : Nat) : (1 <<< (places text).length - 1).testBit i = true ↔ i ≤ text.length := by
    rw [Nat.one_shiftLeft, Nat.testBit_two_pow_sub_one, length_places, decide_eq_true_eq]
    omega
  have found := follows _ fun i => (all i).mp
  simp only [isMatch, bne_iff_ne]
  constructor
  · intro nonempty
    obtain ⟨j, member⟩ := Nat.exists_testBit_of_ne_zero nonempty
    obtain ⟨i, -, before, part, after, split, -, -, h⟩ := (found j).mp member
    exact ⟨before, part, after, split, h⟩
  · rintro ⟨before, part, after, split, h⟩ empty
    have start : before.length ≤ text.length := by
      simp only [split, List.length_append]
      omega
    have member := (found (before.length + part.length)).mpr
      ⟨before.length, (all _).mpr start, before, part, after, split, rfl, rfl, h⟩
    rw [empty] at member
    simp at member

end AdFilter.Regex
