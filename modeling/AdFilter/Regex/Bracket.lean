import AdFilter.Regex.Escape

/-! # Bracketed classes

A class lists characters, ranges, named classes and further brackets. Set operations inside a
bracket have one precedence and are taken from left to right.
-/

namespace AdFilter.Regex

open AdFilter.Text

/-- A bracket whose end has not been read. -/
structure OpenBracket where
  negated : Bool := false
  /-- What the operand being read consists of so far, last first. -/
  items : List (Nested ClassNode) := []
  /-- An operation that waits for its right operand. -/
  pending : Option (SetOp × Nested ClassNode) := none

namespace OpenBracket

def push (b : OpenBracket) (item : Nested ClassNode) : OpenBracket :=
  { b with items := item :: b.items }

/-- The set that everything read so far stands for. -/
def body (b : OpenBracket) : Nested ClassNode :=
  let right := Nested.combine .empty .union b.items
  match b.pending with
  | none => right
  | some (o, left) => ⟨.op o left.part right.part, max left.depth right.depth + 1⟩

/-- Ends the operand being read; the operation takes the next one as well. -/
def operate (b : OpenBracket) (o : SetOp) : OpenBracket :=
  { b with items := [], pending := some (o, b.body) }

def close (b : OpenBracket) : Nested ClassNode :=
  ⟨.bracket b.negated b.body.part, b.body.depth + 1⟩

end OpenBracket

/-- Reads the hyphens that stand for themselves at the start of a class, last first. -/
def readHyphens (m : Mode) : List Char → List (Nested ClassNode) × List Char
  | [] => ([], [])
  | c :: cs =>
    if c = '-' then
      let (hyphens, rest) := readHyphens m (m.skip cs)
      (⟨.literal ⟨'-', false⟩, 0⟩ :: hyphens, rest)
    else ([], c :: cs)
termination_by cs => cs.length
decreasing_by
  have := m.length_skip_le cs
  simp only [List.length_cons]
  omega

def readNegation (m : Mode) (cs : List Char) : Bool × List Char :=
  match m.skip cs with
  | '^' :: rest => (true, m.skip rest)
  | rest => (false, rest)

/-- Reads the start of a class behind its opening bracket. A closing bracket at the very start
stands for itself. -/
def readOpenBracket (m : Mode) (cs : List Char) : Except Fault (OpenBracket × List Char) :=
  let (negated, cs) := readNegation m cs
  match readHyphens m cs with
  | (_, []) => .error .classUnclosed
  | (hyphens, c :: rest) =>
    if hyphens.isEmpty ∧ c = ']' then
      if (m.skip rest).isEmpty then .error .classUnclosed
      else .ok ({ negated, items := [⟨.literal ⟨']', false⟩, 0⟩] }, m.skip rest)
    else .ok ({ negated, items := hyphens }, c :: rest)

def readClassAtom (m : Mode) : List Char → Except Fault (Atom × List Char)
  | [] => .error .classUnclosed
  | c :: cs => if c = '\\' then readEscape m cs else .ok (.literal ⟨c, false⟩, cs)

def Atom.classItem : Atom → Except Fault (Nested ClassNode)
  | .literal l => .ok ⟨.literal l, 0⟩
  | .shorthand s negated => .ok ⟨.shorthand s negated, 0⟩
  | .property q negated => .ok ⟨.property q negated, 0⟩
  | _ => .error .classEscapeInvalid

def Atom.rangeEnd : Atom → Except Fault Literal
  | .literal l => .ok l
  | _ => .error .classRangeLiteral

def classRange (first last : Atom) : Except Fault (Nested ClassNode) :=
  first.rangeEnd >>= fun lo => last.rangeEnd >>= fun hi =>
    if lo.char ≤ hi.char then .ok ⟨.range lo hi, 0⟩ else .error .classRangeInvalid

def readClassItem (m : Mode) (cs : List Char) :
    Except Fault (Nested ClassNode × List Char) :=
  readClassAtom m cs >>= fun (first, rest) =>
    match m.skip rest with
    | [] => .error .classUnclosed
    | c :: rest =>
      if c ≠ '-' ∨ m.peek rest = some ']' ∨ m.peek rest = some '-' then
        first.classItem.map (·, c :: rest)
      else
        readClassAtom m (m.skip rest) >>= fun (last, rest) =>
          (classRange first last).map (·, rest)

def readAsciiName? (negated : Bool) (cs : List Char) : Option (Nested ClassNode × List Char) :=
  match cs.dropWhile (· != ':') with
  | ':' :: ']' :: rest =>
    (AsciiClass.ofName? (cs.takeWhile (· != ':'))).map fun k => (⟨.ascii k negated, 0⟩, rest)
  | _ => none

/-- Reads a named class of ASCII characters behind its opening bracket; `none` if the bracket
opens a class of another kind. -/
def readAsciiClass? : List Char → Option (Nested ClassNode × List Char)
  | ':' :: '^' :: cs => readAsciiName? true cs
  | ':' :: cs => readAsciiName? false cs
  | _ => none

/-- The operation that a doubled character stands for. -/
def setOp? (c : Char) (rest : List Char) : Option SetOp :=
  if rest.head? = some c then
    [('&', SetOp.inter), ('-', .diff), ('~', .symmDiff)].lookup c
  else none

theorem length_readHyphens_le (m : Mode) (cs : List Char) :
    (readHyphens m cs).2.length ≤ cs.length := by
  fun_induction readHyphens m cs <;> grind

grind_pattern length_readHyphens_le => readHyphens m cs

theorem length_readNegation_le (m : Mode) (cs : List Char) :
    (readNegation m cs).2.length ≤ cs.length := by
  unfold readNegation
  grind

grind_pattern length_readNegation_le => readNegation m cs

@[grind →] theorem length_of_readOpenBracket {m : Mode} {cs rest : List Char} {b : OpenBracket}
    (h : readOpenBracket m cs = .ok (b, rest)) : rest.length ≤ cs.length := by
  unfold readOpenBracket at h
  grind

@[grind →] theorem length_of_readClassAtom {m : Mode} {cs rest : List Char} {a : Atom}
    (h : readClassAtom m cs = .ok (a, rest)) : rest.length < cs.length := by
  unfold readClassAtom at h
  grind

@[grind →] theorem length_of_readClassItem {m : Mode} {cs rest : List Char} {n : Nested ClassNode}
    (h : readClassItem m cs = .ok (n, rest)) : rest.length < cs.length := by
  unfold readClassItem at h
  grind

@[grind →] theorem length_of_readAsciiName? {negated : Bool} {cs rest : List Char}
    {n : Nested ClassNode} (h : readAsciiName? negated cs = some (n, rest)) :
    rest.length ≤ cs.length := by
  have := (List.dropWhile_sublist (· != ':') (l := cs)).length_le
  unfold readAsciiName? at h
  split at h
  · rename_i r hr
    rw [hr] at this
    obtain ⟨_, _, h⟩ := Option.map_eq_some_iff.1 h
    cases h
    simp only [List.length_cons] at this
    omega
  · simp at h

@[grind →] theorem length_of_readAsciiClass? {cs rest : List Char} {n : Nested ClassNode}
    (h : readAsciiClass? cs = some (n, rest)) : rest.length ≤ cs.length := by
  unfold readAsciiClass? at h
  grind

/-- Reads the rest of the class `b`, which lies in the classes `outer`, innermost first. -/
def readBracketFrom (m : Mode) (b : OpenBracket) (outer : List OpenBracket) (cs : List Char) :
    Except Fault (OpenBracket × List Char) :=
  match _h : m.skip cs with
  | [] => .error .classUnclosed
  | c :: rest =>
    if c = '[' then
      match _ha : readAsciiClass? rest with
      | some (item, rest) => readBracketFrom m (b.push item) outer rest
      | none =>
        match _ho : readOpenBracket m rest with
        | .ok (inner, rest) => readBracketFrom m inner (b :: outer) rest
        | .error e => .error e
    else if c = ']' then
      match outer with
      | [] => .ok (b, rest)
      | up :: outer => readBracketFrom m (up.push b.close) outer rest
    else
      match setOp? c rest with
      | some o => readBracketFrom m (b.operate o) outer (rest.drop 1)
      | none =>
        match _hi : readClassItem m (c :: rest) with
        | .ok (item, rest) => readBracketFrom m (b.push item) outer rest
        | .error e => .error e
termination_by cs.length
decreasing_by
  all_goals grind

def readBracket (m : Mode) (cs : List Char) : Except Fault (OpenBracket × List Char) :=
  readOpenBracket m cs >>= fun (b, rest) => readBracketFrom m b [] rest

@[grind →]
theorem length_of_readBracketFrom {m : Mode} {b b' : OpenBracket} {outer : List OpenBracket}
    {cs rest : List Char} (h : readBracketFrom m b outer cs = .ok (b', rest)) :
    rest.length ≤ cs.length := by
  fun_induction readBracketFrom m b outer cs <;>
    grind

@[grind →] theorem length_of_readBracket {m : Mode} {b : OpenBracket} {cs rest : List Char}
    (h : readBracket m cs = .ok (b, rest)) : rest.length ≤ cs.length := by
  unfold readBracket at h
  grind

end AdFilter.Regex
