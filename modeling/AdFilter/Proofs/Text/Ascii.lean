import AdFilter.Text.Ascii
import AdFilter.Text.Blank

/-! # ASCII characters and their case

What is said of all ASCII characters is checked on a table of them; characters beyond ASCII have
no other case here.
-/

namespace AdFilter.Text

variable {c d : Char}

theorem of_isAscii {p : Char → Prop} (table : ∀ n < 0x80, p (Char.ofNat n))
    (ascii : isAscii c = true) : p c := by
  have entry := table c.toNat (of_decide_eq_true ascii)
  rwa [Char.ofNat_toNat] at entry

theorem isAscii_of_isAlphanum (alphanum : c.isAlphanum = true) : isAscii c = true := by
  have bound {hi : UInt32} (small : hi.toNat < 0x80) (le : c.val ≤ hi) : isAscii c = true :=
    decide_eq_true (Nat.lt_of_le_of_lt (UInt32.le_iff_toNat_le.mp le) small)
  unfold Char.isAlphanum Char.isAlpha Char.isUpper Char.isLower Char.isDigit at alphanum
  simp only [Bool.or_eq_true, Bool.and_eq_true, decide_eq_true_eq] at alphanum
  rcases alphanum with (⟨-, below⟩ | ⟨-, below⟩) | ⟨-, below⟩
  · exact bound (by decide) below
  · exact bound (by decide) below
  · exact bound (by decide) below

theorem isAscii_of_isNameChar (isName : isNameChar c = true) : isAscii c = true := by
  simp only [isNameChar, Bool.or_eq_true, beq_iff_eq] at isName
  rcases isName with (alphanum | rfl) | rfl
  · exact isAscii_of_isAlphanum alphanum
  · decide
  · decide

theorem isBlank_of_isNameChar (isName : isNameChar c = true) : isBlank c = false := by
  have table : ∀ n < 0x80, isNameChar (Char.ofNat n) = true → isBlank (Char.ofNat n) = false := by
    decide
  exact of_isAscii (p := fun c => isNameChar c = true → isBlank c = false) table
    (isAscii_of_isNameChar isName) isName

theorem toUpper_of_beyond (beyond : isAscii c = false) : c.toUpper = c := by
  have large : 0x80 ≤ c.val.toNat := Nat.le_of_not_lt (of_decide_eq_false beyond)
  unfold Char.toUpper
  rw [dif_neg]
  rintro ⟨-, below⟩
  have := UInt32.le_iff_toNat_le.mp below
  exact absurd (Nat.le_trans large this) (by decide)

theorem toLower_of_beyond (beyond : isAscii c = false) : c.toLower = c := by
  have large : 0x80 ≤ c.val.toNat := Nat.le_of_not_lt (of_decide_eq_false beyond)
  unfold Char.toLower
  rw [dif_neg]
  rintro ⟨-, below⟩
  have := UInt32.le_iff_toNat_le.mp below
  exact absurd (Nat.le_trans large this) (by decide)

/-- What holds of `toUpper` and `toLower`: only letters are changed, and only to letters. -/
def ChangesLetters (f : Char → Char) : Prop :=
  ∀ c, f c = c ∨ c.isAlpha = true ∧ (f c).isAlpha = true

theorem changesLetters_of_table {f : Char → Char}
    (table : ∀ n < 0x80, f (Char.ofNat n) = Char.ofNat n ∨
      (Char.ofNat n).isAlpha = true ∧ (f (Char.ofNat n)).isAlpha = true)
    (beyond : ∀ c, isAscii c = false → f c = c) : ChangesLetters f := by
  intro c
  cases inside : isAscii c with
  | true =>
      exact of_isAscii (p := fun c => f c = c ∨ c.isAlpha = true ∧ (f c).isAlpha = true)
        table inside
  | false => exact .inl (beyond c inside)

theorem ChangesLetters.eq_iff {f : Char → Char} (changes : ChangesLetters f)
    (noLetter : d.isAlpha = false) : f c = d ↔ c = d := by
  rcases changes c with same | ⟨letter, letter'⟩
  · rw [same]
  · constructor
    · rintro rfl
      rw [letter'] at noLetter
      cases noLetter
    · rintro rfl
      rw [letter] at noLetter
      cases noLetter

theorem changesLetters_toUpper : ChangesLetters Char.toUpper := by
  apply changesLetters_of_table
  · decide +kernel
  · exact fun _ => toUpper_of_beyond

theorem changesLetters_toLower : ChangesLetters Char.toLower := by
  apply changesLetters_of_table
  · decide +kernel
  · exact fun _ => toLower_of_beyond

theorem toUpper_eq_iff (noLetter : d.isAlpha = false) : c.toUpper = d ↔ c = d :=
  changesLetters_toUpper.eq_iff noLetter

theorem toLower_eq_iff (noLetter : d.isAlpha = false) : c.toLower = d ↔ c = d :=
  changesLetters_toLower.eq_iff noLetter

theorem toLower_of_isDigit (digit : c.isDigit = true) : c.toLower = c := by
  have table : ∀ n < 0x80, (Char.ofNat n).isDigit = true → (Char.ofNat n).toLower = Char.ofNat n := by
    decide +kernel
  have ascii : isAscii c = true := isAscii_of_isAlphanum (by simp [Char.isAlphanum, digit])
  exact of_isAscii (p := fun c => c.isDigit = true → c.toLower = c) table ascii digit

theorem isAscii_toLower (c : Char) : isAscii c.toLower = isAscii c := by
  have table : ∀ n < 0x80, isAscii (Char.ofNat n).toLower = isAscii (Char.ofNat n) := by
    decide +kernel
  cases inside : isAscii c with
  | true =>
      have same := of_isAscii (p := fun c => isAscii c.toLower = isAscii c) table inside
      rw [same, inside]
  | false => rw [toLower_of_beyond inside, inside]

theorem toLower_toLower (c : Char) : c.toLower.toLower = c.toLower := by
  have table : ∀ n < 0x80, (Char.ofNat n).toLower.toLower = (Char.ofNat n).toLower := by
    decide +kernel
  cases inside : isAscii c with
  | true => exact of_isAscii (p := fun c => c.toLower.toLower = c.toLower) table inside
  | false => rw [toLower_of_beyond inside, toLower_of_beyond inside]

end AdFilter.Text
