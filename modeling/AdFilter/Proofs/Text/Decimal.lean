import AdFilter.Proofs.Text.Trimming
import AdFilter.Text.Decimal

/-! # Decimal numbers read back

A number that is written in decimal digits is read back if it fits.
-/

namespace AdFilter.Text.Decimal

theorem digitsFrom?_of_digits {cs : List Char} (digits : ∀ c ∈ cs, c.isDigit = true) (value : Nat) :
    digitsFrom? value cs = some (Nat.ofDigitChars 10 cs value) := by
  induction cs generalizing value with
  | nil => rw [digitsFrom?, Nat.ofDigitChars_nil]
  | cons c cs ih =>
      have digit : digit? c = some (c.toNat - '0'.toNat) := if_pos (digits c List.mem_cons_self)
      have rest := ih fun d member => digits d (List.mem_cons_of_mem c member)
      rw [digitsFrom?, digit, Option.bind_some, rest, Nat.ofDigitChars_cons, Nat.mul_comm]

theorem isBlank_of_isDigit {c : Char} (digit : c.isDigit = true) : isBlank c = false := by
  rw [Char.isDigit_iff_toNat] at digit
  simp only [Char.reduceToNat] at digit
  simp only [isBlank, Bool.or_eq_false_iff, Bool.and_eq_false_iff, decide_eq_false_iff_not,
    beq_eq_false_iff_ne]
  omega

theorem parse?_toString {bound n : Nat} (small : n < bound) :
    parse? bound (toString n) = some n := by
  have digits : ∀ c ∈ Nat.toDigits 10 n, c.isDigit = true := fun c member =>
    Nat.isDigit_of_mem_toDigits (by decide) (by decide) member
  have trimmed : trimList (Nat.toDigits 10 n) = Nat.toDigits 10 n :=
    trimList_eq_self fun c member => isBlank_of_isDigit (digits c member)
  have plain : unsigned (Nat.toDigits 10 n) = Nat.toDigits 10 n := by
    unfold unsigned
    split
    · rename_i plus
      have digit := digits '+' (by rw [plus]; exact List.mem_cons_self)
      cases digit
    · rfl
  have value : digits? (Nat.toDigits 10 n) = some n := by
    have some_ : (Nat.toDigits 10 n).isEmpty = false := by
      rw [List.isEmpty_eq_false_iff]
      exact Nat.toDigits_ne_nil
    rw [digits?, some_, if_neg Bool.false_ne_true, digitsFrom?_of_digits digits,
      Nat.ofDigitChars_ten_toDigits]
  have written : (toString n).toList = Nat.toDigits 10 n := Nat.toList_repr
  rw [parse?, written, trimmed, plain, value, Option.filter_some, if_pos (by simpa using small)]

end AdFilter.Text.Decimal
