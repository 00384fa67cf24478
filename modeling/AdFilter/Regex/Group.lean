import AdFilter.Regex.CharSet
import AdFilter.Regex.Reading
import AdFilter.Regex.Mode

/-! # The opening of a group

A group may be named, may set flags for its inside, or may do nothing but set flags for what
follows it.
-/

namespace AdFilter.Regex

/-- What an opening parenthesis turned out to begin. -/
inductive Opening where
  /-- A group, with the name it captures under. -/
  | capture (name : Option (List Char))
  /-- A group whose inside is read in another mode. -/
  | inside (m : Mode)
  /-- No group: what follows is read in another mode. -/
  | onwards (m : Mode)

def isGroupNameChar (first : Bool) (c : Char) : Bool :=
  if first then c == '_' || CharSet.isAlphabetic c
  else ['_', '.', '[', ']'].contains c || CharSet.isAlphanumeric c

def readGroupName (first : Bool) : List Char → Except Fault (List Char × List Char)
  | [] => .error .groupNameUnclosed
  | c :: cs =>
    if c = '>' then .ok ([], cs)
    else if isGroupNameChar first c then
      (readGroupName false cs).map fun (name, rest) => (c :: name, rest)
    else .error .groupNameInvalid

def readNamed (names : List (List Char)) (cs : List Char) :
    Except Fault (Opening × List Char) :=
  readGroupName true cs >>= fun (name, rest) =>
    if name.isEmpty then .error .groupNameEmpty
    else if names.contains name then .error .groupNameDuplicate
    else .ok (.capture (some name), rest)

/-- A list of flags, last first; `none` is the sign that those after it are switched off. -/
abbrev FlagList := List (Option Flag)

def FlagList.apply (fs : FlagList) (m : Mode) : Mode :=
  (fs.foldr (fun f (acc : Mode × Bool) =>
    match f with
    | some f => (acc.1.set acc.2 f, acc.2)
    | none => (acc.1, false)) (m, true)).1

/-- Reads flags up to a colon or a closing parenthesis; tells whether it was a colon. -/
def readFlags (seen : FlagList) : List Char → Except Fault ((FlagList × Bool) × List Char)
  | [] => .error .flagUnfinished
  | c :: cs =>
    if c = ':' ∨ c = ')' then
      if seen.head? = some none then .error .flagDangling else .ok ((seen, c = ':'), cs)
    else if c = '-' then
      if seen.contains none then .error .flagNegatedTwice else readFlags (none :: seen) cs
    else
      match Flag.ofChar? c with
      | none => .error .flagUnknown
      | some f =>
        if seen.contains (some f) then .error .flagDuplicate else readFlags (some f :: seen) cs

def readFlagged (m : Mode) (cs : List Char) : Except Fault (Opening × List Char) :=
  if cs.isEmpty then .error .groupUnclosed
  else
    readFlags [] cs >>= fun ((flags, inside), rest) =>
      if inside then .ok (.inside (flags.apply m), rest)
      else if flags.isEmpty then .error .repetitionMissing
      else .ok (.onwards (flags.apply m), rest)

def isLookAround (cs : List Char) : Bool :=
  ["?=", "?!", "?<=", "?<!"].any fun sign => sign.toList.isPrefixOf cs

/-- Reads the opening of a group behind its parenthesis; `names` are those already taken. -/
def readOpening (m : Mode) (names : List (List Char)) (cs : List Char) :
    Except Fault (Opening × List Char) :=
  if isLookAround (m.skip cs) then .error .lookAround
  else
    match m.skip cs with
    | '?' :: 'P' :: '<' :: rest => readNamed names rest
    | '?' :: '<' :: rest => readNamed names rest
    | '?' :: rest => readFlagged m rest
    | rest => .ok (.capture none, rest)

@[grind →] theorem length_of_readGroupName {first : Bool} {cs name rest : List Char}
    (h : readGroupName first cs = .ok (name, rest)) : rest.length ≤ cs.length := by
  fun_induction readGroupName first cs generalizing name <;> grind

@[grind →]
theorem length_of_readNamed {names : List (List Char)} {cs rest : List Char} {o : Opening}
    (h : readNamed names cs = .ok (o, rest)) : rest.length ≤ cs.length := by
  unfold readNamed at h
  grind

@[grind →] theorem length_of_readFlags {seen : FlagList} {cs rest : List Char} {r : FlagList × Bool}
    (h : readFlags seen cs = .ok (r, rest)) : rest.length ≤ cs.length := by
  fun_induction readFlags seen cs <;> grind

@[grind →] theorem length_of_readFlagged {m : Mode} {cs rest : List Char} {o : Opening}
    (h : readFlagged m cs = .ok (o, rest)) : rest.length ≤ cs.length := by
  unfold readFlagged at h
  grind

@[grind →] theorem length_of_readOpening {m : Mode} {names : List (List Char)} {cs rest : List Char}
    {o : Opening} (h : readOpening m names cs = .ok (o, rest)) : rest.length ≤ cs.length := by
  unfold readOpening at h
  grind

end AdFilter.Regex
