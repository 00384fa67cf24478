import AdFilter.Regex.Reading
import AdFilter.Regex.Mode
import AdFilter.Text.Decimal

/-! # Counted repetitions -/

namespace AdFilter.Regex

open AdFilter.Text

/-- How often something is repeated: at least and at most. -/
structure Count where
  min : Nat
  max : Option Nat
  deriving Repr, DecidableEq

def readDigits (m : Mode) : List Char → List Char × List Char
  | [] => ([], [])
  | c :: cs =>
    if c.isDigit then
      let (ds, rest) := readDigits m (m.skip cs)
      (c :: ds, rest)
    else ([], c :: cs)
termination_by cs => cs.length
decreasing_by
  have := m.length_skip_le cs
  simp only [List.length_cons]
  omega

/-- The number that digits give; it must fit 32 bits. -/
def countOf (ds : List Char) : Except Fault Nat :=
  match Decimal.digits? ds with
  | none => .error .countEmpty
  | some n => if n < UInt32.size then .ok n else .error .countOverflow

/-- Reads a number between blanks. Whether it is one is told apart from what is left, as a fault
in it can be of less weight than a missing end. -/
def readNumber (m : Mode) (cs : List Char) : Except Fault Nat × List Char :=
  let (ds, rest) := readDigits m (cs.dropWhile isBlank)
  (countOf ds, m.skip (rest.dropWhile isBlank))

def closeCount (m : Mode) (n : Count) : List Char → Except Fault (Count × List Char)
  | '}' :: cs =>
    if n.max.any (· < n.min) then .error .countInvalid
    else
      match m.skip cs with
      | '?' :: rest => .ok (n, rest)
      | rest => .ok (n, rest)
  | _ => .error .countUnclosed

def readUpper (m : Mode) (low : Except Fault Nat) (cs : List Char) :
    Except Fault (Count × List Char) :=
  match m.skip cs with
  | [] => .error .countUnclosed
  | c :: rest =>
    low >>= fun min =>
      if c = '}' then closeCount m ⟨min, none⟩ (c :: rest)
      else
        (readNumber m (c :: rest)).1 >>= fun max =>
          closeCount m ⟨min, some max⟩ (readNumber m (c :: rest)).2

def readCount (m : Mode) (cs : List Char) : Except Fault (Count × List Char) :=
  if (m.skip cs).isEmpty then .error .countUnclosed
  else
    let (low, rest) := readNumber m (m.skip cs)
    match rest with
    | [] => .error .countUnclosed
    | c :: rest =>
      if c = ',' then readUpper m low rest
      else low >>= fun n => closeCount m ⟨n, some n⟩ (c :: rest)

theorem length_readDigits_le (m : Mode) (cs : List Char) :
    (readDigits m cs).2.length ≤ cs.length := by
  fun_induction readDigits m cs <;> grind

theorem length_readNumber_le (m : Mode) (cs : List Char) :
    (readNumber m cs).2.length ≤ cs.length := by
  have h₁ := (List.dropWhile_sublist isBlank (l := cs)).length_le
  have h₂ := length_readDigits_le m (cs.dropWhile isBlank)
  have h₃ := (List.dropWhile_sublist isBlank
    (l := (readDigits m (cs.dropWhile isBlank)).2)).length_le
  have h₄ := m.length_skip_le ((readDigits m (cs.dropWhile isBlank)).2.dropWhile isBlank)
  simp only [readNumber]
  omega

grind_pattern length_readNumber_le => readNumber m cs

@[grind →] theorem length_of_closeCount {m : Mode} {n k : Count} {cs rest : List Char}
    (h : closeCount m n cs = .ok (k, rest)) : rest.length ≤ cs.length := by
  unfold closeCount at h
  grind

@[grind →] theorem length_of_readUpper {m : Mode} {low : Except Fault Nat} {k : Count}
    {cs rest : List Char} (h : readUpper m low cs = .ok (k, rest)) :
    rest.length ≤ cs.length := by
  unfold readUpper at h
  grind

@[grind →] theorem length_of_readCount {m : Mode} {k : Count} {cs rest : List Char}
    (h : readCount m cs = .ok (k, rest)) : rest.length ≤ cs.length := by
  unfold readCount at h
  grind

end AdFilter.Regex
