import AdFilter.Text.Json

/-! # JSON strings read back

Whatever a text is, its written form is read as that text, and nothing behind it is touched.
-/

namespace AdFilter.Text.Json

theorem skipSpace_cons {c : Char} (token : c ∉ [' ', '\n', '\t', '\r']) (cs : List Char) :
    skipSpace (c :: cs) = c :: cs := by
  simp only [List.mem_cons, List.not_mem_nil, or_false, not_or] at token
  simp [skipSpace, token]

theorem readUnit?_digits {n : Nat} (small : n < 0x20) (rest : List Char) :
    readUnit? (Hex.digits 4 n ++ rest) = some (n, rest) := by
  have digits : ((List.range 0x20).all fun n =>
      (Hex.digits 4 n).all (fun c => (Hex.digit? c).isSome) && Hex.value (Hex.digits 4 n) == n) =
        true := by
    decide
  have each := List.all_eq_true.mp digits n (List.mem_range.mpr small)
  rw [Bool.and_eq_true, beq_iff_eq] at each
  obtain ⟨valid, value⟩ := each
  simp only [Hex.digits, List.nil_append, List.cons_append] at valid value ⊢
  rw [readUnit?, if_pos valid, value]

theorem readCode?_digits {n : Nat} (small : n < 0x20) (rest : List Char) :
    readCode? (Hex.digits 4 n ++ rest) = some (Char.ofNat n, rest) := by
  have noHigh : ¬ (0xD800 ≤ n ∧ n ≤ 0xDBFF) := by omega
  have noLow : ¬ (0xDC00 ≤ n ∧ n ≤ 0xDFFF) := by omega
  rw [readCode?, readUnit?_digits small, Option.bind_some]
  simp only [if_neg noHigh, if_neg noLow]

theorem readString?_escape {cs rest : List Char} {d : Char}
    (read : readEscape? cs = some (d, rest)) :
    readString? ('\\' :: cs) = (readString? rest).map fun (s, rest) => (d :: s, rest) := by
  rw [readString?, if_neg (by decide), if_pos rfl]
  split
  · rename_i read'
    rw [read] at read'
    cases read'
    rfl
  · rename_i read'
    rw [read] at read'
    cases read'

theorem readString?_writeChar (c : Char) (rest : List Char) :
    readString? (writeChar c ++ rest) = (readString? rest).map fun (s, rest) => (c :: s, rest) := by
  unfold writeChar
  split
  · rename_i letter d found
    have same : d = c := by simpa using List.find?_some found
    have escape : (letter, d) ∈ shortEscapes := List.mem_of_find?_eq_some found
    subst same
    refine readString?_escape ?_
    simp only [shortEscapes, List.mem_cons, List.not_mem_nil, or_false, Prod.mk.injEq] at escape
    rcases escape with ⟨rfl, rfl⟩ | ⟨rfl, rfl⟩ | ⟨rfl, rfl⟩ | ⟨rfl, rfl⟩ | ⟨rfl, rfl⟩ | ⟨rfl, rfl⟩ |
      ⟨rfl, rfl⟩ <;> rfl
  · rename_i notFound
    have plain : ∀ e ∈ shortEscapes, e.2 ≠ c := by simpa using List.find?_eq_none.mp notFound
    split
    · rename_i control
      refine readString?_escape ?_
      have read := readCode?_digits control rest
      rw [Char.ofNat_toNat] at read
      exact read
    · rename_i noControl
      have noQuote : c ≠ '"' := fun h => plain ('"', '"') (by decide) h.symm
      have noBackslash : c ≠ '\\' := fun h => plain ('\\', '\\') (by decide) h.symm
      rw [List.singleton_append, readString?, if_neg noQuote, if_neg noBackslash, if_neg noControl]

theorem readString?_writeChars (cs rest : List Char) :
    readString? (cs.flatMap writeChar ++ '"' :: rest) = some (cs, rest) := by
  induction cs with
  | nil => rw [List.flatMap_nil, List.nil_append, readString?, if_pos rfl]
  | cons c cs ih =>
      rw [List.flatMap_cons, List.append_assoc, readString?_writeChar, ih]
      rfl

end AdFilter.Text.Json
