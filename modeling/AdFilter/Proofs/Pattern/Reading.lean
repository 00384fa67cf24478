import AdFilter.Proofs.Regex.Reading
import AdFilter.Rule.Pattern

/-! # Reading the translation of a pattern

The regular expression of a glob is put together from a few fixed texts and escaped characters.
Each of them is read as parts of its own, so the whole is read as their sequence.
-/

namespace AdFilter.Pattern

open Regex Text

def letterPart (m : Mode) (c : Char) : Nested Node :=
  ⟨.atom (.literal ⟨c, false⟩) m, 0⟩

def starPart (m : Mode) : Nested Node :=
  ⟨.repeated (.dot m) 0 none, 1⟩

def byteLiteral (n : Nat) : Literal :=
  ⟨Char.ofNat n, true⟩

def separatorClass : ClassNode :=
  .union (.range (byteLiteral 0x00) (byteLiteral 0x24))
    (.union (.range (byteLiteral 0x26) (byteLiteral 0x2C))
      (.union (.literal (byteLiteral 0x2F))
        (.union (.range (byteLiteral 0x3A) (byteLiteral 0x40))
          (.union (.range (byteLiteral 0x5B) (byteLiteral 0x5E))
            (.union (.literal (byteLiteral 0x60))
              (.range (byteLiteral 0x7B) (byteLiteral 0x7F)))))))

/-- A separator or the end of the URL. -/
def separatorPart (m : Mode) : Nested Node :=
  ⟨.group (.alt (.bracket false separatorClass m) (.atom .endLine m)), 4⟩

def schemeClass : ClassNode :=
  .union (.shorthand .word false) (.literal ⟨'-', false⟩)

/-- The parts of what ties a pattern to a host. -/
def hostParts (m : Mode) : List (Nested Node) :=
  [⟨.atom .startLine m, 0⟩, ⟨.repeated (.bracket false schemeClass m) 1 none, 3⟩,
    letterPart m ':', ⟨.repeated (letterPart m '/').part 1 none, 1⟩,
    ⟨.repeated (.group (.seq
      (.repeated (.bracket true (.literal ⟨'/', false⟩) m) 1 none) (letterPart m '.').part))
      0 (some 1), 5⟩]

def charPart (m : Mode) (c : Char) : Nested Node :=
  if c = '*' then starPart m else if c = '^' then separatorPart m else letterPart m c

def anchorParts (m : Mode) : Anchor → List (Nested Node)
  | .none => []
  | .start => [⟨.atom .startLine m, 0⟩]
  | .host => hostParts m

/-- The parts of what ties a pattern to the end. -/
def endParts (m : Mode) (toEnd : Bool) : List (Nested Node) :=
  if toEnd then [⟨.atom .endLine m, 0⟩] else []

def Glob.ownParts (m : Mode) (g : Glob) : List (Nested Node) :=
  anchorParts m g.anchor ++ g.essence.map (charPart m) ++ endParts m g.toEnd

def Glob.parts (m : Mode) (g : Glob) : List (Nested Node) :=
  if (g.ownParts m).isEmpty then [starPart m] else g.ownParts m

theorem toList_separator : separator.toList =
    ['(', '?', ':', '[', '\\', 'x', '0', '0', '-', '\\', 'x', '2', '4', '\\', 'x', '2', '6', '-',
      '\\', 'x', '2', 'C', '\\', 'x', '2', 'F', '\\', 'x', '3', 'A', '-', '\\', 'x', '4', '0',
      '\\', 'x', '5', 'B', '-', '\\', 'x', '5', 'E', '\\', 'x', '6', '0', '\\', 'x', '7', 'B',
      '-', '\\', 'x', '7', 'F', ']', '|', '$', ')'] :=
  (String.toList_ofList : (String.ofList _).toList = _)

theorem toList_hostAnchor : hostAnchor.toList =
    ['^', '[', '\\', 'w', '\\', '-', ']', '+', ':', '/', '+', '(', '?', ':', '[', '^', '/', ']',
      '+', '\\', '.', ')', '?'] :=
  (String.toList_ofList : (String.ofList _).toList = _)

theorem toList_anything : anything.toList = ['.', '*'] :=
  (String.toList_ofList : (String.ofList _).toList = _)

section Plain

variable {m : Mode} (plain : m.verbose = false)

include plain

theorem readsAs_star : ReadsAs m anything.toList [starPart m] := by
  rintro p rest rfl follows
  have dot : readPart p '.' ('*' :: rest) = .ok (p.pushLeaf (.dot p.mode), '*' :: rest) := rfl
  have star : readPart (p.pushLeaf (.dot p.mode)) '*' rest =
      .ok (p.push (starPart p.mode), dropReluctance rest) := rfl
  rw [dropReluctance_of_head? follows] at star
  rw [toList_anything]
  exact (readAll_step plain dot).trans (readAll_step plain star)

theorem readsAs_startLine : ReadsAs m ['^'] [⟨.atom .startLine m, 0⟩] := by
  rintro p rest rfl -
  exact readAll_step (q := p.pushLeaf (.atom .startLine p.mode)) plain rfl

theorem readsAs_endLine : ReadsAs m ['$'] [⟨.atom .endLine m, 0⟩] := by
  rintro p rest rfl -
  exact readAll_step (q := p.pushLeaf (.atom .endLine p.mode)) plain rfl

theorem readClassItem_bytes (lo hi : Nat) {a b c d : Char} (rest : List Char)
    (low : Hex.value [a, b] = lo) (high : Hex.value [c, d] = hi)
    (digits : [a, b, c, d].all fun x => (Hex.digit? x).isSome)
    (unbraced : a ≠ '\x7B' ∧ c ≠ '\x7B') (valid : lo.isValidChar ∧ hi.isValidChar)
    (ordered : Char.ofNat lo ≤ Char.ofNat hi) :
    readClassItem m ('\\' :: 'x' :: a :: b :: '-' :: '\\' :: 'x' :: c :: d :: rest) =
      .ok (⟨.range (byteLiteral lo) (byteLiteral hi), 0⟩, rest) := by
  subst low high
  simp only [List.all_cons, List.all_nil, Bool.and_true, Bool.and_eq_true] at digits
  obtain ⟨ha, hb, hc, hd⟩ := digits
  have first := readClassAtom_hex plain ('-' :: '\\' :: 'x' :: c :: d :: rest) ha hb unbraced.1
    valid.1
  have last := readClassAtom_hex plain rest hc hd unbraced.2 valid.2
  rw [readClassItem_range plain first (by decide) (by decide) last]
  have range : classRange (.literal (byteLiteral (Hex.value [a, b])))
      (.literal (byteLiteral (Hex.value [c, d]))) =
        .ok ⟨.range (byteLiteral (Hex.value [a, b])) (byteLiteral (Hex.value [c, d])), 0⟩ :=
    if_pos ordered
  exact congrArg _ range

theorem readClassItem_byte {a b c : Char} (rest : List Char) {n : Nat}
    (value : Hex.value [a, b] = n) (digits : [a, b].all fun x => (Hex.digit? x).isSome)
    (unbraced : a ≠ '\x7B') (valid : n.isValidChar) (notHyphen : c ≠ '-') :
    readClassItem m ('\\' :: 'x' :: a :: b :: c :: rest) =
      .ok (⟨.literal (byteLiteral n), 0⟩, c :: rest) := by
  subst value
  simp only [List.all_cons, List.all_nil, Bool.and_true, Bool.and_eq_true] at digits
  exact readClassItem_single plain
    (readClassAtom_hex plain (c :: rest) digits.1 digits.2 unbraced valid) notHyphen

theorem readBracketFrom_escape {b : OpenBracket} {cs rest : List Char}
    {item : Nested ClassNode} (read : readClassItem m ('\\' :: 'x' :: cs) = .ok (item, rest)) :
    readBracketFrom m b [] ('\\' :: 'x' :: cs) = readBracketFrom m (b.push item) [] rest :=
  readBracketFrom_item plain (by decide) (by decide) rfl read

theorem readBracket_separator (rest : List Char) :
    readBracket m ('\\' :: 'x' :: '0' :: '0' :: '-' :: '\\' :: 'x' :: '2' :: '4' ::
      '\\' :: 'x' :: '2' :: '6' :: '-' :: '\\' :: 'x' :: '2' :: 'C' ::
      '\\' :: 'x' :: '2' :: 'F' ::
      '\\' :: 'x' :: '3' :: 'A' :: '-' :: '\\' :: 'x' :: '4' :: '0' ::
      '\\' :: 'x' :: '5' :: 'B' :: '-' :: '\\' :: 'x' :: '5' :: 'E' ::
      '\\' :: 'x' :: '6' :: '0' ::
      '\\' :: 'x' :: '7' :: 'B' :: '-' :: '\\' :: 'x' :: '7' :: 'F' :: ']' :: rest) =
      .ok ({ items := [⟨.range (byteLiteral 0x7B) (byteLiteral 0x7F), 0⟩,
        ⟨.literal (byteLiteral 0x60), 0⟩, ⟨.range (byteLiteral 0x5B) (byteLiteral 0x5E), 0⟩,
        ⟨.range (byteLiteral 0x3A) (byteLiteral 0x40), 0⟩, ⟨.literal (byteLiteral 0x2F), 0⟩,
        ⟨.range (byteLiteral 0x26) (byteLiteral 0x2C), 0⟩,
        ⟨.range (byteLiteral 0x00) (byteLiteral 0x24), 0⟩] }, rest) := by
  have opened (cs : List Char) : readOpenBracket m ('\\' :: cs) = .ok ({}, '\\' :: cs) :=
    readOpenBracket_plain plain (by decide) (by decide) (by decide)
  rw [readBracket_eq (opened _),
    readBracketFrom_escape plain (readClassItem_bytes plain 0x00 0x24 _ rfl rfl
      (by decide) (by decide) (by decide) (by decide)),
    readBracketFrom_escape plain (readClassItem_bytes plain 0x26 0x2C _ rfl rfl
      (by decide) (by decide) (by decide) (by decide)),
    readBracketFrom_escape plain (readClassItem_byte (n := 0x2F) plain _ rfl (by decide)
      (by decide) (by decide) (by decide)),
    readBracketFrom_escape plain (readClassItem_bytes plain 0x3A 0x40 _ rfl rfl
      (by decide) (by decide) (by decide) (by decide)),
    readBracketFrom_escape plain (readClassItem_bytes plain 0x5B 0x5E _ rfl rfl
      (by decide) (by decide) (by decide) (by decide)),
    readBracketFrom_escape plain (readClassItem_byte (n := 0x60) plain _ rfl (by decide)
      (by decide) (by decide) (by decide)),
    readBracketFrom_escape plain (readClassItem_bytes plain 0x7B 0x7F _ rfl rfl
      (by decide) (by decide) (by decide) (by decide)),
    readBracketFrom_end plain]
  rfl

theorem readBracket_scheme (rest : List Char) :
    readBracket m ('\\' :: 'w' :: '\\' :: '-' :: ']' :: rest) =
      .ok ({ items := [⟨.literal ⟨'-', false⟩, 0⟩, ⟨.shorthand .word false, 0⟩] }, rest) := by
  have word : readClassItem m ('\\' :: 'w' :: '\\' :: '-' :: ']' :: rest) =
      .ok (⟨.shorthand .word false, 0⟩, '\\' :: '-' :: ']' :: rest) :=
    readClassItem_single plain (a := .shorthand .word false) rfl (by decide)
  have hyphen : readClassItem m ('\\' :: '-' :: ']' :: rest) =
      .ok (⟨.literal ⟨'-', false⟩, 0⟩, ']' :: rest) :=
    readClassItem_single plain (a := .literal ⟨'-', false⟩) rfl (by decide)
  have opened : readOpenBracket m ('\\' :: 'w' :: '\\' :: '-' :: ']' :: rest) =
      .ok ({}, '\\' :: 'w' :: '\\' :: '-' :: ']' :: rest) :=
    readOpenBracket_plain plain (by decide) (by decide) (by decide)
  rw [readBracket_eq opened, readBracketFrom_item plain (by decide) (by decide) rfl word,
    readBracketFrom_item plain (by decide) (by decide) rfl hyphen, readBracketFrom_end plain]
  rfl

theorem readBracket_noSlash (rest : List Char) :
    readBracket m ('^' :: '/' :: ']' :: rest) =
      .ok ({ negated := true, items := [⟨.literal ⟨'/', false⟩, 0⟩] }, rest) := by
  have slash : readClassItem m ('/' :: ']' :: rest) = .ok (⟨.literal ⟨'/', false⟩, 0⟩, ']' :: rest) :=
    readClassItem_single plain (a := .literal ⟨'/', false⟩) rfl (by decide)
  have opened : readOpenBracket m ('^' :: '/' :: ']' :: rest) =
      .ok ({ negated := true }, '/' :: ']' :: rest) :=
    readOpenBracket_negated plain (by decide) (by decide)
  rw [readBracket_eq opened, readBracketFrom_item plain (by decide) (by decide) rfl slash,
    readBracketFrom_end plain]
  rfl

theorem readsAs_separator : ReadsAs m separator.toList [separatorPart m] := by
  rintro p rest rfl -
  let inside := p.openGroup p.mode
  let first := inside.push ⟨.bracket false separatorClass p.mode, 2⟩
  let second := first.nextBranch.pushLeaf (.atom .endLine p.mode)
  rw [toList_separator]
  calc
    readAll p _ = readAll inside _ := readAll_step plain (readPart_group plain _)
    _ = readAll first ('|' :: '$' :: ')' :: rest) :=
      readAll_step plain (readPart_bracket (p := inside) (readBracket_separator plain _))
    _ = readAll first.nextBranch ('$' :: ')' :: rest) := readAll_step plain rfl
    _ = readAll second (')' :: rest) := readAll_step plain rfl
    _ = readAll (p.push (separatorPart p.mode)) rest := readAll_step plain rfl

theorem readsAs_hostAnchor : ReadsAs m hostAnchor.toList (hostParts m) := by
  rintro p rest rfl follows
  let start := p.pushLeaf (.atom .startLine p.mode)
  let class₁ := start.push ⟨.bracket false schemeClass p.mode, 2⟩
  let scheme := start.push ⟨.repeated (.bracket false schemeClass p.mode) 1 none, 3⟩
  let colon := scheme.push (letterPart p.mode ':')
  let slash := colon.push (letterPart p.mode '/')
  let slashes := colon.push ⟨.repeated (letterPart p.mode '/').part 1 none, 1⟩
  let inside := slashes.openGroup p.mode
  let class₂ := inside.push ⟨.bracket true (.literal ⟨'/', false⟩) p.mode, 1⟩
  let label := inside.push ⟨.repeated (.bracket true (.literal ⟨'/', false⟩) p.mode) 1 none, 2⟩
  let dot := label.push (letterPart p.mode '.')
  let group := slashes.push ⟨.group (.seq
    (.repeated (.bracket true (.literal ⟨'/', false⟩) p.mode) 1 none) (letterPart p.mode '.').part),
    4⟩
  have last : readPart group '?' rest =
      .ok ({ p with items := (hostParts p.mode).reverse ++ p.items }, dropReluctance rest) := rfl
  rw [dropReluctance_of_head? follows] at last
  rw [toList_hostAnchor]
  calc
    readAll p _ = readAll start _ := readAll_step plain rfl
    _ = readAll class₁ _ :=
      readAll_step plain (readPart_bracket (p := start) (readBracket_scheme plain _))
    _ = readAll scheme _ := readAll_step plain rfl
    _ = readAll colon _ := readAll_step plain rfl
    _ = readAll slash _ := readAll_step plain rfl
    _ = readAll slashes _ := readAll_step plain rfl
    _ = readAll inside _ := readAll_step plain (readPart_group (p := slashes) plain _)
    _ = readAll class₂ _ :=
      readAll_step plain (readPart_bracket (p := inside) (readBracket_noSlash plain _))
    _ = readAll label _ := readAll_step plain rfl
    _ = readAll dot _ := readAll_step plain (readPart_escaped (p := label) (by decide) _)
    _ = readAll group _ := readAll_step plain rfl
    _ = _ := readAll_step plain last

theorem readsAs_char (c : Char) : ReadsAs m (charSource c) [charPart m c] := by
  unfold charSource charPart
  split
  · exact readsAs_star plain
  · split
    · exact readsAs_separator plain
    · exact .literal plain c

end Plain

theorem charSource_begins (c : Char) : ∃ d rest, charSource c = d :: rest ∧ d ≠ '?' := by
  unfold charSource
  split
  · exact ⟨'.', ['*'], toList_anything, by decide⟩
  · split
    · exact ⟨'(', _, toList_separator, by decide⟩
    · unfold escapeChar
      split
      · exact ⟨'\\', [c], rfl, by decide⟩
      · rename_i notMeta
        exact ⟨c, [], rfl, fun question => notMeta (question ▸ by decide)⟩

theorem head?_chars (cs : List Char) : (cs.flatMap charSource).head? ≠ some '?' := by
  cases cs with
  | nil => simp
  | cons c cs =>
      obtain ⟨d, rest, begins, notQuestion⟩ := charSource_begins c
      simpa [List.flatMap_cons, begins] using notQuestion

theorem readsAs_chars {m : Mode} (plain : m.verbose = false) (cs : List Char) :
    ReadsAs m (cs.flatMap charSource) (cs.map (charPart m)) := by
  induction cs with
  | nil => exact .nil m
  | cons c cs ih =>
      rw [List.flatMap_cons, List.map_cons, ← List.singleton_append]
      exact (readsAs_char plain c).append ih (head?_chars cs)

theorem readsAs_anchor {m : Mode} (plain : m.verbose = false) (a : Anchor) :
    ReadsAs m a.source (anchorParts m a) := by
  cases a with
  | none => exact .nil m
  | start => exact readsAs_startLine plain
  | host => exact readsAs_hostAnchor plain

theorem anchorParts_eq_nil {m : Mode} {a : Anchor} : anchorParts m a = [] ↔ a.source = [] := by
  cases a with
  | none | start => simp [anchorParts, Anchor.source]
  | host => simp [anchorParts, hostParts, Anchor.source, toList_hostAnchor]

theorem charParts_eq_nil {m : Mode} {cs : List Char} :
    cs.map (charPart m) = [] ↔ cs.flatMap charSource = [] := by
  cases cs with
  | nil => simp
  | cons c cs =>
      obtain ⟨d, rest, begins, -⟩ := charSource_begins c
      simp [List.flatMap_cons, begins]

theorem endParts_eq_nil {m : Mode} {toEnd : Bool} :
    endParts m toEnd = [] ↔ (if toEnd then ['$'] else []) = [] := by
  cases toEnd <;> simp [endParts]

theorem readsAs_end {m : Mode} (plain : m.verbose = false) (toEnd : Bool) :
    ReadsAs m (if toEnd then ['$'] else []) (endParts m toEnd) := by
  cases toEnd with
  | false => exact .nil m
  | true => exact readsAs_endLine plain

theorem readsAs_glob {m : Mode} (plain : m.verbose = false) (g : Glob) :
    ReadsAs m g.source (g.parts m) := by
  have body := (readsAs_anchor plain g.anchor).append (readsAs_chars plain g.essence)
    (head?_chars g.essence)
  have whole := body.append (readsAs_end plain g.toEnd) (by cases g.toEnd <;> decide)
  have same : g.ownParts m = [] ↔
      (g.anchor.source ++ g.essence.flatMap charSource ++ if g.toEnd then ['$'] else []) = [] := by
    simp only [Glob.ownParts, List.append_eq_nil_iff, anchorParts_eq_nil, charParts_eq_nil,
      endParts_eq_nil]
  simp only [Glob.source, Glob.parts, List.isEmpty_iff]
  by_cases silent : g.ownParts m = []
  · rw [if_pos silent, if_pos (same.mp silent)]
    exact readsAs_star plain
  · rw [if_neg silent, if_neg (mt same.mpr silent)]
    exact whole

theorem depth_charPart (m : Mode) (c : Char) : (charPart m c).depth ≤ 5 := by
  unfold charPart
  split
  · exact Nat.le_of_ble_eq_true rfl
  · split <;> exact Nat.le_of_ble_eq_true rfl

theorem depth_anchorParts {m : Mode} {a : Anchor} :
    ∀ part ∈ anchorParts m a, part.depth ≤ 5 := by
  cases a <;> simp [anchorParts, hostParts, letterPart]

theorem depth_endParts {m : Mode} {toEnd : Bool} :
    ∀ part ∈ endParts m toEnd, part.depth ≤ 5 := by
  cases toEnd <;> simp [endParts]

theorem depth_parts {m : Mode} {g : Glob} : ∀ part ∈ g.parts m, part.depth ≤ 5 := by
  intro part member
  unfold Glob.parts at member
  split at member
  · obtain rfl := List.mem_singleton.mp member
    exact Nat.le_of_ble_eq_true rfl
  · unfold Glob.ownParts at member
    rcases List.mem_append.mp member with member | member
    · rcases List.mem_append.mp member with member | member
      · exact depth_anchorParts part member
      · obtain ⟨c, -, rfl⟩ := List.mem_map.mp member
        exact depth_charPart m c
    · exact depth_endParts part member

/-- The translation of a glob is read as the sequence of its parts. -/
theorem parse_glob {m : Mode} (plain : m.verbose = false) (g : Glob) :
    parse m g.source = .ok (Nested.combine .empty .seq (g.parts m).reverse).part :=
  parse_of_readsAs (readsAs_glob plain g) fun part member =>
    Nat.lt_of_le_of_lt (depth_parts part member) (by decide)

end AdFilter.Pattern
