import AdFilter.Regex.Bracket
import AdFilter.Regex.Count
import AdFilter.Regex.Group

/-! # Reading regular expressions

The reader goes from left to right over the characters and keeps what it has read of the sequence
it is in, the finished alternatives of the group that the sequence belongs to, and the groups
around it.
-/

namespace AdFilter.Regex

/-- A group whose end has not been read, as it was when an inner group began. -/
structure OpenGroup where
  mode : Mode
  items : List (Nested Node)
  branches : List (Nested Node)

/-- What has been read so far. -/
structure Progress where
  mode : Mode
  /-- The parts of the sequence being read, last first. -/
  items : List (Nested Node) := []
  /-- The finished alternatives of the innermost group, last first. -/
  branches : List (Nested Node) := []
  /-- The groups around the innermost one, innermost first. -/
  outer : List OpenGroup := []
  /-- The group names that are taken. -/
  names : List (List Char) := []

namespace Progress

def push (p : Progress) (n : Nested Node) : Progress :=
  { p with items := n :: p.items }

def pushLeaf (p : Progress) (n : Node) : Progress :=
  p.push ⟨n, 0⟩

def sequence (p : Progress) : Nested Node :=
  Nested.combine .empty .seq p.items

/-- Everything read since the innermost group began. -/
def body (p : Progress) : Nested Node :=
  Nested.combine .empty .alt (p.sequence :: p.branches)

def nextBranch (p : Progress) : Progress :=
  { p with items := [], branches := p.sequence :: p.branches }

def openGroup (p : Progress) (inside : Mode) : Progress :=
  { p with
    mode := inside, items := [], branches := [],
    outer := ⟨p.mode, p.items, p.branches⟩ :: p.outer }

def closeGroup (p : Progress) : Except Fault Progress :=
  match p.outer with
  | [] => .error .groupUnopened
  | up :: outer =>
    .ok { p with
      mode := up.mode, items := ⟨.group p.body.part, p.body.depth + 1⟩ :: up.items,
      branches := up.branches, outer }

def repeatLast (p : Progress) (n : Count) : Except Fault Progress :=
  match p.items with
  | [] => .error .repetitionMissing
  | last :: items =>
    if last.part = .flags then .error .repetitionMissing
    else .ok { p with items := ⟨.repeated last.part n.min n.max, last.depth + 1⟩ :: items }

def opened (p : Progress) : Opening → Progress
  | .capture name => { p.openGroup p.mode with names := name.toList ++ p.names }
  | .inside m => p.openGroup m
  | .onwards m => { p.pushLeaf .flags with mode := m }

/-- The expression, if nothing is left open and it is not nested too deep. -/
def finish (p : Progress) : Except Fault Node :=
  if p.outer.isEmpty then
    if p.body.depth ≤ nestLimit then .ok p.body.part else .error .nestedTooDeep
  else .error .groupUnclosed

end Progress

/-- How often the sign repeats what stands before it. -/
def countSign? : Char → Option Count
  | '?' => some ⟨0, some 1⟩
  | '*' => some ⟨0, none⟩
  | '+' => some ⟨1, none⟩
  | _ => none

/-- Drops the question mark that makes a repetition reluctant. -/
def dropReluctance : List Char → List Char
  | '?' :: cs => cs
  | cs => cs

def isSpecial (c : Char) : Bool :=
  ['\\', '.', '+', '*', '?', '(', ')', '|', '[', '{', '^', '$'].contains c

/-- Reads a count and repeats the last part as often as it says. -/
def readCounted (p : Progress) (cs : List Char) : Except Fault (Progress × List Char) :=
  p.repeatLast ⟨0, none⟩ >>= fun _ =>
    readCount p.mode cs >>= fun (n, rest) => (p.repeatLast n).map (·, rest)

def readSpecial (p : Progress) (c : Char) (cs : List Char) :
    Except Fault (Progress × List Char) :=
  if c = '\\' then
    (readEscape p.mode cs).map fun (a, rest) => (p.pushLeaf (.atom a p.mode), rest)
  else if c = '(' then
    (readOpening p.mode p.names cs).map fun (o, rest) => (p.opened o, rest)
  else if c = ')' then p.closeGroup.map (·, cs)
  else if c = '|' then .ok (p.nextBranch, cs)
  else if c = '[' then
    (readBracket p.mode cs).map fun (b, rest) =>
      (p.push ⟨.bracket b.negated b.body.part p.mode, b.body.depth + 1⟩, rest)
  else if c = '{' then readCounted p cs
  else if c = '.' then .ok (p.pushLeaf (.dot p.mode), cs)
  else if c = '^' then .ok (p.pushLeaf (.atom .startLine p.mode), cs)
  else .ok (p.pushLeaf (.atom .endLine p.mode), cs)

def readPart (p : Progress) (c : Char) (cs : List Char) :
    Except Fault (Progress × List Char) :=
  if isSpecial c then
    match countSign? c with
    | some n => (p.repeatLast n).map (·, dropReluctance cs)
    | none => readSpecial p c cs
  else .ok (p.pushLeaf (.atom (.literal ⟨c, false⟩) p.mode), cs)

theorem length_dropReluctance_le (cs : List Char) :
    (dropReluctance cs).length ≤ cs.length := by
  unfold dropReluctance
  grind

grind_pattern length_dropReluctance_le => dropReluctance cs

@[grind →] theorem length_of_readCounted {p q : Progress} {cs rest : List Char}
    (h : readCounted p cs = .ok (q, rest)) : rest.length ≤ cs.length := by
  unfold readCounted at h
  grind

@[grind →] theorem length_of_readSpecial {p q : Progress} {c : Char} {cs rest : List Char}
    (h : readSpecial p c cs = .ok (q, rest)) : rest.length ≤ cs.length := by
  unfold readSpecial at h
  repeat' split at h
  all_goals grind

@[grind →] theorem length_of_readPart {p q : Progress} {c : Char} {cs rest : List Char}
    (h : readPart p c cs = .ok (q, rest)) : rest.length ≤ cs.length := by
  unfold readPart at h
  grind

def readAll (p : Progress) (cs : List Char) : Except Fault Progress :=
  match _h : p.mode.skip cs with
  | [] => .ok p
  | c :: rest =>
    match _hp : readPart p c rest with
    | .ok (p, rest) => readAll p rest
    | .error e => .error e
termination_by cs.length
decreasing_by
  grind

def parse (m : Mode) (cs : List Char) : Except Fault Node :=
  readAll { mode := m } cs >>= Progress.finish

end AdFilter.Regex
