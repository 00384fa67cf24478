import AdFilter.Regex.Mode

/-! # Regular expressions as written

A node is a part of a regular expression together with the mode it was read in. What a part
stands for, and whether its class names exist, is decided later.
-/

namespace AdFilter.Regex

/-- The classes that have a letter of their own. -/
inductive Shorthand where
  | digit
  | space
  | word
  deriving Repr, DecidableEq

/-- The named classes of ASCII characters. -/
inductive AsciiClass where
  | alnum
  | alpha
  | ascii
  | blank
  | cntrl
  | digit
  | graph
  | lower
  | print
  | punct
  | space
  | upper
  | word
  | xdigit
  deriving Repr, DecidableEq

def AsciiClass.ofName? (name : List Char) : Option AsciiClass :=
  [("alnum", .alnum), ("alpha", .alpha), ("ascii", .ascii), ("blank", .blank),
    ("cntrl", .cntrl), ("digit", .digit), ("graph", .graph), ("lower", .lower),
    ("print", .print), ("punct", .punct), ("space", .space), ("upper", .upper),
    ("word", .word), ("xdigit", .xdigit)].lookup (String.ofList name)

/-- How a Unicode property is asked for. -/
inductive PropertyQuery where
  /-- A property, a general category or a script. -/
  | bare (name : List Char)
  /-- A value of a property. -/
  | valued (property value : List Char)
  deriving Repr, DecidableEq

/-- A character as written; `byte` tells that it was given by two hexadecimal digits and so may
mean a byte where Unicode is off. -/
structure Literal where
  char : Char
  byte : Bool := false
  deriving Repr, DecidableEq

/-- A part that an escape sequence or a plain character stands for. -/
inductive Atom where
  | literal (l : Literal)
  | shorthand (s : Shorthand) (negated : Bool)
  | property (q : PropertyQuery) (negated : Bool)
  | startLine
  | endLine
  | startText
  | endText
  | wordBoundary
  | noWordBoundary
  | wordStart
  | wordEnd
  | wordStartHalf
  | wordEndHalf
  deriving Repr, DecidableEq

/-- The operations between sets in a class. -/
inductive SetOp where
  | inter
  | diff
  | symmDiff
  deriving Repr, DecidableEq

/-- The inside of a bracketed class. -/
inductive ClassNode where
  | empty
  | literal (l : Literal)
  | range (lo hi : Literal)
  | shorthand (s : Shorthand) (negated : Bool)
  | property (q : PropertyQuery) (negated : Bool)
  | ascii (k : AsciiClass) (negated : Bool)
  | bracket (negated : Bool) (body : ClassNode)
  | union (a b : ClassNode)
  | op (o : SetOp) (a b : ClassNode)
  deriving Repr, DecidableEq

/-- A regular expression as written. -/
inductive Node where
  | empty
  /-- A group that does nothing but set flags. -/
  | flags
  | atom (a : Atom) (m : Mode)
  | dot (m : Mode)
  | bracket (negated : Bool) (body : ClassNode) (m : Mode)
  | repeated (n : Node) (min : Nat) (max : Option Nat)
  | group (n : Node)
  | seq (a b : Node)
  | alt (a b : Node)
  deriving Repr, DecidableEq

/-- A part together with how deep the parts inside it are nested. -/
structure Nested (α : Type) where
  part : α
  depth : Nat := 0
  deriving Repr, DecidableEq

namespace Nested

/-- The parts, given last first, put together; one part stands for itself. -/
def combine {α : Type} (none : α) (two : α → α → α) : List (Nested α) → Nested α
  | [] => ⟨none, 0⟩
  | [a] => a
  | a :: rest =>
    ⟨rest.foldl (fun acc b => two b.part acc) a.part,
      rest.foldl (fun d b => max d b.depth) a.depth + 1⟩

end Nested

end AdFilter.Regex
