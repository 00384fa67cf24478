import AdFilter.Regex.Reading
import AdFilter.Regex.Node
import AdFilter.Text.Ascii
import AdFilter.Text.Hex

/-! # Escape sequences

Each reader takes what follows the characters that led to it and gives back what it has read and
what is left. What is left is never longer than what was given.
-/

namespace AdFilter.Regex

open AdFilter.Text

/-- Characters with a meaning of their own. -/
def isMeta (c : Char) : Bool :=
  ['\\', '.', '+', '*', '?', '(', ')', '|', '[', ']', '{', '}', '^', '$', '#', '&', '-',
    '~'].contains c

/-- Characters that stand for themselves behind a backslash. -/
def isEscapable (c : Char) : Bool :=
  isMeta c || (isAscii c && !c.isAlphanum && c != '<' && c != '>')

def charOf (n : Nat) : Except Fault Char :=
  if n.isValidChar then .ok (Char.ofNat n) else .error .hexNoCharacter

def readHexDigits (m : Mode) : Nat → List Char → Except Fault (List Char × List Char)
  | 0, cs => .ok ([], cs)
  | _ + 1, [] => .error .escapeUnfinished
  | n + 1, c :: cs =>
    if (Hex.digit? c).isSome then
      (readHexDigits m n (m.skip cs)).map fun (ds, rest) => (c :: ds, rest)
    else .error .hexDigitInvalid

def readHexBraced (m : Mode) (cs : List Char) : Except Fault (List Char × List Char) :=
  match _h : m.skip cs with
  | [] => .error .escapeUnfinished
  | c :: rest =>
    if c = '}' then .ok ([], m.skip rest)
    else if (Hex.digit? c).isSome then
      (readHexBraced m rest).map fun (ds, rest) => (c :: ds, rest)
    else .error .hexDigitInvalid
termination_by cs.length
decreasing_by
  have := m.length_skip_le cs
  rw [_h, List.length_cons] at this
  omega

def hexLiteral (byte : Bool) (ds : List Char) : Except Fault Atom :=
  if ds.isEmpty then .error .hexEmpty
  else (charOf (Hex.value ds)).map fun c => .literal ⟨c, byte⟩

def readHex (m : Mode) (width : Nat) (cs : List Char) : Except Fault (Atom × List Char) :=
  match m.skip cs with
  | [] => .error .escapeUnfinished
  | c :: rest =>
    if c = '{' then
      readHexBraced m rest >>= fun (ds, rest) => (hexLiteral false ds).map (·, rest)
    else
      readHexDigits m width (c :: rest) >>= fun (ds, rest) =>
        (hexLiteral (width = 2) ds).map (·, rest)

def readPropertyName (m : Mode) (cs : List Char) : Except Fault (List Char × List Char) :=
  match _h : m.skip cs with
  | [] => .error .escapeUnfinished
  | c :: rest =>
    if c = '}' then .ok ([], rest)
    else (readPropertyName m rest).map fun (name, rest) => (c :: name, rest)
termination_by cs.length
decreasing_by
  have := m.length_skip_le cs
  rw [_h, List.length_cons] at this
  omega

/-- Cuts a text at the first place where `sep` stands. -/
def cutAt? (sep : List Char) : List Char → Option (List Char × List Char)
  | [] => none
  | c :: cs =>
    if sep.isPrefixOf (c :: cs) then some ([], (c :: cs).drop sep.length)
    else (cutAt? sep cs).map fun (a, b) => (c :: a, b)

/-- What a property name between braces asks for, and whether for the opposite. -/
def propertyQuery (name : List Char) : PropertyQuery × Bool :=
  match cutAt? ['!', '='] name with
  | some (p, v) => (.valued p v, true)
  | none =>
    match (cutAt? [':'] name).or (cutAt? ['='] name) with
    | some (p, v) => (.valued p v, false)
    | none => (.bare name, false)

def readProperty (m : Mode) (negated : Bool) (cs : List Char) :
    Except Fault (Atom × List Char) :=
  match m.skip cs with
  | [] => .error .escapeUnfinished
  | c :: rest =>
    if c = '{' then
      (readPropertyName m rest).map fun (name, rest) =>
        (.property (propertyQuery name).1 (negated != (propertyQuery name).2), rest)
    else if c = '\\' then .error .propertyLetterInvalid
    else .ok (.property (.bare [c]) negated, m.skip rest)

/-- Characters in the name of a word boundary. -/
def isBoundaryChar (c : Char) : Bool :=
  c.isAlpha || c == '-'

def readBoundaryName (m : Mode) : List Char → List Char × List Char
  | [] => ([], [])
  | c :: cs =>
    if isBoundaryChar c then
      let (name, rest) := readBoundaryName m (m.skip cs)
      (c :: name, rest)
    else ([], c :: cs)
termination_by cs => cs.length
decreasing_by
  have := m.length_skip_le cs
  simp only [List.length_cons]
  omega

def boundaryNamed? (name : List Char) : Option Atom :=
  [("start", .wordStart), ("end", .wordEnd), ("start-half", .wordStartHalf),
    ("end-half", .wordEndHalf)].lookup (String.ofList name)

/-- Reads a word boundary behind its letter. Braces that do not begin with a name are left, as
they count a repetition. -/
def readBoundary (m : Mode) (cs : List Char) : Except Fault (Atom × List Char) :=
  match cs with
  | '{' :: inner =>
    match m.skip inner with
    | [] => .error .boundaryUnfinished
    | c :: rest =>
      if isBoundaryChar c then
        match readBoundaryName m (c :: rest) with
        | (name, '}' :: rest) =>
          match boundaryNamed? name with
          | some atom => .ok (atom, rest)
          | none => .error .boundaryInvalid
        | _ => .error .boundaryUnclosed
      else .ok (.wordBoundary, cs)
  | _ => .ok (.wordBoundary, cs)

def letterEscape? (c : Char) : Option Atom :=
  [('a', .literal ⟨'\x07', false⟩), ('f', .literal ⟨'\x0c', false⟩),
    ('t', .literal ⟨'\t', false⟩), ('n', .literal ⟨'\n', false⟩),
    ('r', .literal ⟨'\r', false⟩), ('v', .literal ⟨'\x0b', false⟩),
    ('d', .shorthand .digit false), ('D', .shorthand .digit true),
    ('s', .shorthand .space false), ('S', .shorthand .space true),
    ('w', .shorthand .word false), ('W', .shorthand .word true),
    ('A', .startText), ('z', .endText), ('B', .noWordBoundary), ('<', .wordStart),
    ('>', .wordEnd)].lookup c

def hexWidth? : Char → Option Nat
  | 'x' => some 2
  | 'u' => some 4
  | 'U' => some 8
  | _ => none

def readEscape (m : Mode) : List Char → Except Fault (Atom × List Char)
  | [] => .error .escapeUnfinished
  | c :: cs =>
    if c.isDigit then .error .backreference
    else if isEscapable c then .ok (.literal ⟨c, false⟩, cs)
    else if c = 'p' ∨ c = 'P' then readProperty m (c = 'P') cs
    else if c = 'b' then readBoundary m cs
    else match hexWidth? c with
      | some width => readHex m width cs
      | none =>
        match letterEscape? c with
        | some atom => .ok (atom, cs)
        | none => .error .escapeUnknown

/-! What is left is never longer than what was given. -/

@[grind →] theorem length_of_readHexDigits {m : Mode} {n : Nat} {cs ds rest : List Char}
    (h : readHexDigits m n cs = .ok (ds, rest)) : rest.length ≤ cs.length := by
  fun_induction readHexDigits m n cs generalizing ds <;> grind

@[grind →] theorem length_of_readHexBraced {m : Mode} {cs ds rest : List Char}
    (h : readHexBraced m cs = .ok (ds, rest)) : rest.length ≤ cs.length := by
  fun_induction readHexBraced m cs generalizing ds <;> grind

@[grind →] theorem length_of_readHex {m : Mode} {n : Nat} {cs rest : List Char} {a : Atom}
    (h : readHex m n cs = .ok (a, rest)) : rest.length ≤ cs.length := by
  unfold readHex at h
  grind

@[grind →] theorem length_of_readPropertyName {m : Mode} {cs name rest : List Char}
    (h : readPropertyName m cs = .ok (name, rest)) : rest.length ≤ cs.length := by
  fun_induction readPropertyName m cs generalizing name <;> grind

@[grind →] theorem length_of_readProperty {m : Mode} {b : Bool} {cs rest : List Char} {a : Atom}
    (h : readProperty m b cs = .ok (a, rest)) : rest.length ≤ cs.length := by
  unfold readProperty at h
  grind

theorem length_readBoundaryName_le (m : Mode) (cs : List Char) :
    (readBoundaryName m cs).2.length ≤ cs.length := by
  fun_induction readBoundaryName m cs <;> grind

grind_pattern length_readBoundaryName_le => readBoundaryName m cs

@[grind →] theorem length_of_readBoundary {m : Mode} {cs rest : List Char} {a : Atom}
    (h : readBoundary m cs = .ok (a, rest)) : rest.length ≤ cs.length := by
  unfold readBoundary at h
  grind

@[grind →] theorem length_of_readEscape {m : Mode} {cs rest : List Char} {a : Atom}
    (h : readEscape m cs = .ok (a, rest)) : rest.length ≤ cs.length := by
  unfold readEscape at h
  grind

end AdFilter.Regex
