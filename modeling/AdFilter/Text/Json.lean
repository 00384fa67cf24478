import AdFilter.Text.Hex

/-! # JSON strings

Writing escapes quotes, backslashes and control characters only. Reading is strict: control
characters must be escaped, and the halves of a surrogate pair must come together.
-/

namespace AdFilter.Text.Json

/-- The escape letters and the characters they stand for. -/
def shortEscapes : List (Char × Char) :=
  [('"', '"'), ('\\', '\\'), ('b', '\x08'), ('f', '\x0c'), ('n', '\n'), ('r', '\r'),
    ('t', '\t')]

def writeChar (c : Char) : List Char :=
  match shortEscapes.find? (·.2 == c) with
  | some (letter, _) => ['\\', letter]
  | none => if c.toNat < 0x20 then ['\\', 'u'] ++ Hex.digits 4 c.toNat else [c]

def writeString (s : String) : List Char :=
  '"' :: s.toList.flatMap writeChar ++ ['"']

def skipSpace (cs : List Char) : List Char :=
  cs.dropWhile fun c => c == ' ' || c == '\n' || c == '\t' || c == '\r'

def readUnit? : List Char → Option (Nat × List Char)
  | a :: b :: c :: d :: rest =>
    if [a, b, c, d].all fun x => (Hex.digit? x).isSome then some (Hex.value [a, b, c, d], rest)
    else none
  | _ => none

def readLowHalf? (high : Nat) : List Char → Option (Char × List Char)
  | '\\' :: 'u' :: rest =>
    (readUnit? rest).bind fun (low, rest) =>
      if 0xDC00 ≤ low ∧ low ≤ 0xDFFF then
        some (Char.ofNat (0x10000 + (high - 0xD800) * 0x400 + (low - 0xDC00)), rest)
      else none
  | _ => none

def readCode? (cs : List Char) : Option (Char × List Char) :=
  (readUnit? cs).bind fun (unit, rest) =>
    if 0xD800 ≤ unit ∧ unit ≤ 0xDBFF then readLowHalf? unit rest
    else if 0xDC00 ≤ unit ∧ unit ≤ 0xDFFF then none
    else some (Char.ofNat unit, rest)

def readEscape? : List Char → Option (Char × List Char)
  | [] => none
  | c :: rest =>
    if c = 'u' then readCode? rest
    else if c = '/' then some ('/', rest)
    else (shortEscapes.lookup c).map (·, rest)

@[grind →] theorem length_of_readUnit? {cs rest : List Char} {n : Nat}
    (h : readUnit? cs = some (n, rest)) : rest.length ≤ cs.length := by
  unfold readUnit? at h
  grind

@[grind →] theorem length_of_readLowHalf? {high : Nat} {cs rest : List Char} {c : Char}
    (h : readLowHalf? high cs = some (c, rest)) : rest.length ≤ cs.length := by
  unfold readLowHalf? at h
  grind [Option.bind_eq_some_iff]

@[grind →] theorem length_of_readCode? {cs rest : List Char} {c : Char}
    (h : readCode? cs = some (c, rest)) : rest.length ≤ cs.length := by
  unfold readCode? at h
  grind [Option.bind_eq_some_iff]

@[grind →] theorem length_of_readEscape? {cs rest : List Char} {c : Char}
    (h : readEscape? cs = some (c, rest)) : rest.length ≤ cs.length := by
  unfold readEscape? at h
  grind [Option.map_eq_some_iff]

def readString? : List Char → Option (List Char × List Char)
  | [] => none
  | c :: cs =>
    if c = '"' then some ([], cs)
    else if c = '\\' then
      match _h : readEscape? cs with
      | some (d, rest) => (readString? rest).map fun (s, rest) => (d :: s, rest)
      | none => none
    else if c.toNat < 0x20 then none
    else (readString? cs).map fun (s, rest) => (c :: s, rest)
termination_by cs => cs.length
decreasing_by
  · have := length_of_readEscape? _h
    simp only [List.length_cons]
    omega
  · simp

@[grind →]
theorem length_of_readString? {cs s rest : List Char} (h : readString? cs = some (s, rest)) :
    rest.length < cs.length := by
  fun_induction readString? cs generalizing s <;>
    grind [Option.map_eq_some_iff]

end AdFilter.Text.Json
