import AdFilter.Proofs.Pattern.Meaning
import AdFilter.Proofs.Text.Ascii
import AdFilter.Proofs.Unicode.CaseMates

/-! # What counts as an ASCII character

Where case does not count, two characters beyond ASCII count as ASCII letters. All others count as
an ASCII character only if they are the same in lower case.
-/

namespace AdFilter.Pattern

open Regex Text Unicode

variable {matchCase : Bool} {c d : Char}

theorem caseMates_of_noLetter (ascii : isAscii c = true) (noLetter : c.isAlpha = false) :
    caseMates c = [] := by
  have table : ∀ n < 0x80, (Char.ofNat n).isAlpha = false → asciiCaseMates (Char.ofNat n) = [] := by
    decide +kernel
  rw [caseMates, if_pos ascii]
  exact of_isAscii (p := fun c => c.isAlpha = false → asciiCaseMates c = []) table ascii noLetter

theorem eq_of_agrees (ascii : isAscii c = true) (noLetter : c.isAlpha = false)
    (agrees : Agrees matchCase d c) : d = c := by
  rcases agrees with same | ⟨-, mate⟩
  · exact same.symm
  · rw [caseMates_of_noLetter ascii noLetter] at mate
    cases mate

theorem not_isSeparator_of_agrees (plain : ¬ IsSeparator d) (agrees : Agrees matchCase d c) :
    ¬ IsSeparator c := by
  intro separates
  obtain rfl := eq_of_agrees separates.1 separates.isAlpha agrees
  exact plain separates

/-- The two characters beyond ASCII that count as ASCII letters where case does not count. -/
def IsLetterSign (c : Char) : Prop :=
  c = '\u212A' ∨ c = '\u017F'

theorem asciiCaseMates_toLower (ascii : isAscii c = true) :
    ((asciiCaseMates c).all fun d => !isAscii d || d.toLower == c.toLower) = true ∧
      (c.toLower = c ∨ c.toLower ∈ asciiCaseMates c) ∧
      (c.toLower.toUpper = c ∨ c.toLower.toUpper ∈ asciiCaseMates c) ∧
      (c = c.toLower ∨ c = c.toLower.toUpper) := by
  refine of_isAscii (p := fun c =>
    ((asciiCaseMates c).all fun d => !isAscii d || d.toLower == c.toLower) = true ∧
      (c.toLower = c ∨ c.toLower ∈ asciiCaseMates c) ∧
      (c.toLower.toUpper = c ∨ c.toLower.toUpper ∈ asciiCaseMates c) ∧
      (c = c.toLower ∨ c = c.toLower.toUpper)) ?_ ascii
  decide +kernel

theorem agrees_iff_toLower (ascii : isAscii d = true) (noSign : ¬ IsLetterSign c) :
    Agrees false d c ↔ c.toLower = d.toLower := by
  cases inside : isAscii c with
  | false =>
      have other : c ≠ d := fun same => by simp [same, ascii] at inside
      constructor
      · rintro (same | ⟨-, mate⟩)
        · exact absurd same other
        · exact absurd (eq_of_ascii_mem_caseMates inside ascii mate) noSign
      · intro same
        have : isAscii c = isAscii d := by rw [← isAscii_toLower c, same, isAscii_toLower]
        rw [inside, ascii] at this
        cases this
  | true =>
      have mates : caseMates c = asciiCaseMates c := by rw [caseMates, if_pos inside]
      obtain ⟨same, lower, upper, -⟩ := asciiCaseMates_toLower inside
      obtain ⟨-, -, -, cases⟩ := asciiCaseMates_toLower ascii
      rw [Agrees, mates]
      constructor
      · rintro (rfl | ⟨-, mate⟩)
        · rfl
        · have sameLower := List.all_eq_true.mp same d mate
          simp only [ascii, Bool.not_true, Bool.false_or, beq_iff_eq] at sameLower
          exact sameLower.symm
      · intro sameLower
        -- An ASCII character is its own lower case or the upper case of that.
        rw [← sameLower] at cases
        rcases cases with isLower | isUpper
        · rw [isLower]
          exact lower.imp Eq.symm fun mate => ⟨rfl, mate⟩
        · rw [isUpper]
          exact upper.imp Eq.symm fun mate => ⟨rfl, mate⟩

theorem isSchemeChar_iff (ascii : isAscii c = true) :
    IsSchemeChar matchCase c ↔ isNameChar c = true := by
  have table : ∀ n < 0x80, (CharSet.asciiWord.mem (Char.ofNat n) = true ∨ Char.ofNat n = '-') ↔
      isNameChar (Char.ofNat n) = true := by
    decide +kernel
  have nameChar := of_isAscii (p := fun c =>
    (CharSet.asciiWord.mem c = true ∨ c = '-') ↔ isNameChar c = true) table ascii
  have word : CharSet.word.mem c = CharSet.asciiWord.mem c := by
    have inRange : (CharSet.range '\x00' '\x7F').mem c = true := by
      have below : c ≤ '\x7F' :=
        UInt32.le_iff_toNat_le.mpr (Nat.le_of_lt_succ (of_decide_eq_true ascii))
      simp [CharSet.mem, below, Char.le_def]
    rw [CharSet.word, CharSet.mem, CharSet.beyondAscii, CharSet.mem, inRange]
    simp
  constructor
  · rintro ⟨d, isWord, agrees⟩
    by_cases letter : c.isAlpha = true
    · simp [isNameChar, Char.isAlphanum, letter]
    · obtain rfl := eq_of_agrees ascii (by simpa using letter) agrees
      rw [word] at isWord
      exact nameChar.mp isWord
  · intro isName
    rw [← nameChar, ← word] at isName
    exact ⟨c, isName, .inl rfl⟩

end AdFilter.Pattern
