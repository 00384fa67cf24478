import AdFilter.Regex.Compile

/-! # Reading expressions part by part

Outside of verbose mode the reader takes one part after the other. `ReadsAs` says that characters
are read as certain parts wherever they stand. Only a question mark behind them could still belong
to the last of them, as it would make a repetition reluctant. Of bracketed classes those are
treated here that hold no other brackets and no operations.
-/

namespace AdFilter.Regex

open AdFilter.Text

section Plain

variable {m : Mode} (plain : m.verbose = false)

include plain

theorem skip_plain (cs : List Char) : m.skip cs = cs := by
  simp [Mode.skip, plain]

theorem peek_plain (cs : List Char) : m.peek cs = cs.head? := by
  simp [Mode.peek, plain]

theorem readOpenBracket_plain {c : Char} {cs : List Char} (notNegated : c ≠ '^')
    (notHyphen : c ≠ '-') (notEnd : c ≠ ']') :
    readOpenBracket m (c :: cs) = .ok ({}, c :: cs) := by
  simp [readOpenBracket, readNegation, skip_plain plain, readHyphens, notNegated, notHyphen, notEnd]

theorem readOpenBracket_negated {c : Char} {cs : List Char} (notHyphen : c ≠ '-')
    (notEnd : c ≠ ']') :
    readOpenBracket m ('^' :: c :: cs) = .ok ({ negated := true }, c :: cs) := by
  simp [readOpenBracket, readNegation, skip_plain plain, readHyphens, notHyphen, notEnd]

theorem readBracketFrom_end (b : OpenBracket) (cs : List Char) :
    readBracketFrom m b [] (']' :: cs) = .ok (b, cs) := by
  rw [readBracketFrom]
  split
  · rename_i h
    simp [skip_plain plain] at h
  · rename_i h
    rw [skip_plain plain] at h
    cases h
    rfl

theorem readBracketFrom_item {b : OpenBracket} {outer : List OpenBracket} {c : Char}
    {cs rest : List Char} {item : Nested ClassNode} (notOpen : c ≠ '[') (notEnd : c ≠ ']')
    (noOp : setOp? c cs = none) (read : readClassItem m (c :: cs) = .ok (item, rest)) :
    readBracketFrom m b outer (c :: cs) = readBracketFrom m (b.push item) outer rest := by
  rw [readBracketFrom]
  split
  · rename_i h
    simp [skip_plain plain] at h
  · rename_i h
    rw [skip_plain plain] at h
    cases h
    simp only [notOpen, notEnd, if_false]
    split
    · rename_i o h
      rw [noOp] at h
      cases h
    · split
      · rename_i h
        rw [read] at h
        cases h
        rfl
      · rename_i h
        rw [read] at h
        cases h

theorem readClassItem_single {c : Char} {cs rest : List Char} {a : Atom}
    (read : readClassAtom m cs = .ok (a, c :: rest)) (notHyphen : c ≠ '-') :
    readClassItem m cs = a.classItem.map (·, c :: rest) := by
  simp [readClassItem, read, skip_plain plain, notHyphen, bind, Except.bind]

theorem readClassItem_range {c : Char} {cs rest rest' : List Char} {a b : Atom}
    (first : readClassAtom m cs = .ok (a, '-' :: c :: rest)) (notEnd : c ≠ ']')
    (notHyphen : c ≠ '-') (last : readClassAtom m (c :: rest) = .ok (b, rest')) :
    readClassItem m cs = (classRange a b).map (·, rest') := by
  simp [readClassItem, first, last, skip_plain plain, peek_plain plain, notEnd, notHyphen, bind,
    Except.bind]

theorem readClassAtom_hex {a b : Char} (rest : List Char) (ha : (Hex.digit? a).isSome = true)
    (hb : (Hex.digit? b).isSome = true) (unbraced : a ≠ '\x7B')
    (valid : (Hex.value [a, b]).isValidChar) :
    readClassAtom m ('\\' :: 'x' :: a :: b :: rest) =
      .ok (.literal ⟨Char.ofNat (Hex.value [a, b]), true⟩, rest) := by
  have unfolded : readClassAtom m ('\\' :: 'x' :: a :: b :: rest) = readHex m 2 (a :: b :: rest) :=
    rfl
  have digits : readHexDigits m 2 (a :: b :: rest) = .ok ([a, b], rest) := by
    simp only [readHexDigits, skip_plain plain, ha, hb, if_true, Except.map]
  have literal : hexLiteral true [a, b] =
      .ok (.literal ⟨Char.ofNat (Hex.value [a, b]), true⟩) := by
    simp only [hexLiteral, List.isEmpty_cons, charOf, if_pos valid]
    rfl
  rw [unfolded]
  unfold readHex
  simp only [skip_plain plain]
  rw [if_neg unbraced, digits]
  simp only [bind, Except.bind]
  exact congrArg _ literal

end Plain

theorem readBracket_eq {m : Mode} {b : OpenBracket} {cs rest : List Char}
    (opened : readOpenBracket m cs = .ok (b, rest)) :
    readBracket m cs = readBracketFrom m b [] rest := by
  rw [readBracket, opened]
  rfl

theorem readAll_nil (p : Progress) : readAll p [] = .ok p := by
  have unskipped : p.mode.skip [] = [] :=
    List.length_eq_zero_iff.mp (Nat.le_zero.mp (p.mode.length_skip_le []))
  rw [readAll]
  split
  · rfl
  · rename_i h
    rw [unskipped] at h
    cases h

theorem readAll_step {p q : Progress} {c : Char} {cs rest : List Char}
    (plain : p.mode.verbose = false) (read : readPart p c cs = .ok (q, rest)) :
    readAll p (c :: cs) = readAll q rest := by
  rw [readAll]
  split
  · rename_i h
    rw [skip_plain plain] at h
    cases h
  · rename_i h
    rw [skip_plain plain] at h
    cases h
    split
    · rename_i h
      rw [read] at h
      cases h
      rfl
    · rename_i h
      rw [read] at h
      cases h

theorem isDigit_of_isMeta {c : Char} (h : isMeta c = true) : c.isDigit = false := by
  have all : (['\\', '.', '+', '*', '?', '(', ')', '|', '[', ']', '\x7B', '\x7D', '^', '$', '#', '&',
      '-', '~'].all fun c => !c.isDigit) = true := by decide
  simpa using List.all_eq_true.mp all c (List.contains_iff_mem.mp h)

theorem isMeta_of_isSpecial {c : Char} (h : isSpecial c = true) : isMeta c = true := by
  have all : (['\\', '.', '+', '*', '?', '(', ')', '|', '[', '\x7B', '^', '$'].all isMeta) = true := by
    decide
  exact List.all_eq_true.mp all c (List.contains_iff_mem.mp h)

theorem readPart_ordinary {p : Progress} {c : Char} (ordinary : isSpecial c = false)
    (cs : List Char) :
    readPart p c cs = .ok (p.pushLeaf (.atom (.literal ⟨c, false⟩) p.mode), cs) := by
  simp [readPart, ordinary]

theorem readPart_escaped {p : Progress} {c : Char} (escapable : isMeta c = true)
    (cs : List Char) :
    readPart p '\\' (c :: cs) = .ok (p.pushLeaf (.atom (.literal ⟨c, false⟩) p.mode), cs) := by
  have unfolded : readPart p '\\' (c :: cs) =
      (readEscape p.mode (c :: cs)).map fun r => (p.pushLeaf (.atom r.1 p.mode), r.2) := rfl
  have read : readEscape p.mode (c :: cs) = .ok (.literal ⟨c, false⟩, cs) := by
    simp [readEscape, isDigit_of_isMeta escapable, isEscapable, escapable]
  rw [unfolded, read]
  rfl

theorem readPart_group {p : Progress} (plain : p.mode.verbose = false) (cs : List Char) :
    readPart p '(' ('?' :: ':' :: cs) = .ok (p.openGroup p.mode, cs) := by
  have unfolded : readPart p '(' ('?' :: ':' :: cs) =
      (readOpening p.mode p.names ('?' :: ':' :: cs)).map fun r => (p.opened r.1, r.2) := rfl
  have read : readOpening p.mode p.names ('?' :: ':' :: cs) = .ok (.inside p.mode, cs) := by
    unfold readOpening
    rw [skip_plain plain]
    rfl
  rw [unfolded, read]
  rfl

theorem readPart_bracket {p : Progress} {b : OpenBracket} {cs rest : List Char}
    (read : readBracket p.mode cs = .ok (b, rest)) :
    readPart p '[' cs =
      .ok (p.push ⟨.bracket b.negated b.body.part p.mode, b.body.depth + 1⟩, rest) := by
  have unfolded : readPart p '[' cs = (readBracket p.mode cs).map fun r =>
      (p.push ⟨.bracket r.1.negated r.1.body.part p.mode, r.1.body.depth + 1⟩, r.2) := rfl
  rw [unfolded, read]
  rfl

theorem dropReluctance_of_head? {cs : List Char} (h : cs.head? ≠ some '?') :
    dropReluctance cs = cs := by
  unfold dropReluctance
  split
  · simp at h
  · rfl

/-- The characters are read as the parts, whatever was read before and whatever follows, as long
    as that does not begin with a question mark. -/
def ReadsAs (m : Mode) (cs : List Char) (parts : List (Nested Node)) : Prop :=
  ∀ (p : Progress) (rest : List Char), p.mode = m → rest.head? ≠ some '?' →
    readAll p (cs ++ rest) = readAll { p with items := parts.reverse ++ p.items } rest

namespace ReadsAs

variable {m : Mode} {cs cs' : List Char} {parts parts' : List (Nested Node)}

theorem nil (m : Mode) : ReadsAs m [] [] := fun _ _ _ _ => rfl

theorem append (first : ReadsAs m cs parts) (second : ReadsAs m cs' parts')
    (begins : cs'.head? ≠ some '?') : ReadsAs m (cs ++ cs') (parts ++ parts') := by
  intro p rest mode follows
  have between : (cs' ++ rest).head? ≠ some '?' := by
    cases cs' with
    | nil => exact follows
    | cons c cs' => exact begins
  rw [List.append_assoc, first p _ mode between]
  have next := second { p with items := parts.reverse ++ p.items } rest mode follows
  rw [next, List.reverse_append, List.append_assoc]

theorem literal (plain : m.verbose = false) (c : Char) :
    ReadsAs m (escapeChar c) [⟨.atom (.literal ⟨c, false⟩) m, 0⟩] := by
  rintro p rest rfl -
  unfold escapeChar
  split
  · rename_i special
    exact readAll_step plain (readPart_escaped special rest)
  · rename_i notMeta
    have ordinary : isSpecial c = false := by
      cases h : isSpecial c with
      | false => rfl
      | true => exact absurd (isMeta_of_isSpecial h) notMeta
    exact readAll_step plain (readPart_ordinary ordinary rest)

end ReadsAs

namespace Nested

variable {α : Type} {none : α} {two : α → α → α}

theorem part_combine (a : Nested α) (rest : List (Nested α)) :
    (combine none two (a :: rest)).part = rest.foldl (fun acc b => two b.part acc) a.part := by
  cases rest <;> rfl

theorem part_combine_reverse (a b : Nested α) (rest : List (Nested α)) :
    (combine none two (a :: b :: rest).reverse).part =
      two a.part (combine none two (b :: rest).reverse).part := by
  rw [List.reverse_cons]
  cases h : (b :: rest).reverse with
  | nil => exact absurd h (by simp)
  | cons x xs => simp [part_combine]

theorem depth_combine_le {items : List (Nested α)} {n : Nat} (shallow : ∀ a ∈ items, a.depth ≤ n) :
    (combine none two items).depth ≤ n + 1 := by
  have deepest : ∀ (rest : List (Nested α)) (d : Nat), d ≤ n → (∀ a ∈ rest, a.depth ≤ n) →
      rest.foldl (fun d b => max d b.depth) d ≤ n := by
    intro rest
    induction rest with
    | nil => exact fun d small _ => small
    | cons a rest ih =>
        intro d small all
        exact ih _ (Nat.max_le.mpr ⟨small, all a (by simp)⟩) fun b member => all b (by simp [member])
  match items with
  | [] => exact Nat.zero_le _
  | [a] => exact Nat.le_succ_of_le (shallow a (by simp))
  | a :: b :: rest =>
      exact Nat.succ_le_succ (deepest _ _ (shallow a (by simp)) fun c member =>
        shallow c (List.mem_cons_of_mem a member))

end Nested

/-- Characters that are read as parts are an expression, unless that is nested too deep. -/
theorem parse_of_readsAs {m : Mode} {cs : List Char} {parts : List (Nested Node)}
    (read : ReadsAs m cs parts) (shallow : ∀ part ∈ parts, part.depth < nestLimit) :
    parse m cs = .ok (Nested.combine .empty .seq parts.reverse).part := by
  have all : readAll { mode := m } cs = .ok { mode := m, items := parts.reverse } := by
    have whole := read { mode := m } [] rfl (by simp)
    rw [List.append_nil, readAll_nil] at whole
    simpa using whole
  have depth : (Nested.combine .empty .seq parts.reverse).depth ≤ nestLimit := by
    have few : (Nested.combine .empty .seq parts.reverse).depth ≤ nestLimit - 1 + 1 := by
      refine Nested.depth_combine_le fun part member => ?_
      have := shallow part (List.mem_reverse.mp member)
      omega
    simpa [nestLimit] using few
  rw [parse, all]
  exact if_pos depth

end AdFilter.Regex
