import AdFilter.Regex.Basic
import AdFilter.Regex.Property

/-! # What a written expression stands for

Where Unicode is switched off only ASCII characters may be spoken of, and a class must not hold
what is no character. Case is folded before a class is negated and before sets are operated on.
-/

namespace AdFilter.Regex

open AdFilter.Text

namespace Mode

/-- The set with the case mates of its members, if case does not count. -/
def foldCase (m : Mode) (s : CharSet) : CharSet :=
  if m.caseInsensitive then if m.unicode then .fold s else .asciiFold s else s

/-- The set or its complement; there is no complement where Unicode is off. -/
def complement (m : Mode) (negated : Bool) (s : CharSet) : Except Fault CharSet :=
  if negated ∧ !m.unicode then .error .notUtf8 else .ok (s.complIf negated)

/-- One character that is not a line end, or any if the mode says so. -/
def dot (m : Mode) : Except Fault CharSet :=
  if !m.unicode then .error .notUtf8
  else if m.dotAll then .ok .all
  else if m.crlf then .ok (.compl (.union (.single '\r') (.single '\n')))
  else .ok (.compl (.single '\n'))

def startLine (m : Mode) : Look :=
  if !m.multiLine then .startText else if m.crlf then .startLineCrlf else .startLine

def endLine (m : Mode) : Look :=
  if !m.multiLine then .endText else if m.crlf then .endLineCrlf else .endLine

end Mode

def Literal.resolve (m : Mode) (l : Literal) : Except Fault Char :=
  if !m.unicode ∧ l.byte ∧ !isAscii l.char then .error .notUtf8 else .ok l.char

/-- The character of a literal in a class. -/
def Literal.resolveInClass (m : Mode) (l : Literal) : Except Fault Char :=
  l.resolve m >>= fun c => if !m.unicode ∧ !isAscii c then .error .unicodeOff else .ok c

def Shorthand.chars (unicode : Bool) : Shorthand → CharSet
  | .digit => if unicode then .digit else .asciiDigit
  | .space => if unicode then .space else .asciiSpace
  | .word => if unicode then .word else .asciiWord

def AsciiClass.chars : AsciiClass → CharSet
  | .alnum => .ranges [('0', '9'), ('A', 'Z'), ('a', 'z')]
  | .alpha => .ranges [('A', 'Z'), ('a', 'z')]
  | .ascii => .range '\x00' '\x7F'
  | .blank => .ranges [('\t', '\t'), (' ', ' ')]
  | .cntrl => .ranges [('\x00', '\x1F'), ('\x7F', '\x7F')]
  | .digit => .asciiDigit
  | .graph => .range '!' '~'
  | .lower => .range 'a' 'z'
  | .print => .range ' ' '~'
  | .punct => .ranges [('!', '/'), (':', '@'), ('[', '`'), ('\x7B', '~')]
  | .space => .asciiSpace
  | .upper => .range 'A' 'Z'
  | .word => .asciiWord
  | .xdigit => .ranges [('0', '9'), ('A', 'F'), ('a', 'f')]

def PropertyQuery.chars (m : Mode) (negated : Bool) (q : PropertyQuery) : Except Fault CharSet :=
  if !m.unicode then .error .unicodeOff
  else q.resolve.map fun s => (m.foldCase s).complIf negated

def SetOp.apply : SetOp → CharSet → CharSet → CharSet
  | .inter, a, b => .inter a b
  | .diff, a, b => .diff a b
  | .symmDiff, a, b => .symmDiff a b

def ClassNode.resolve (m : Mode) : ClassNode → Except Fault CharSet
  | .empty => .ok .empty
  | .literal l => (l.resolveInClass m).map .single
  | .range lo hi =>
    lo.resolveInClass m >>= fun lo => (hi.resolveInClass m).map fun hi => .range lo hi
  | .shorthand s negated => m.complement negated (s.chars m.unicode)
  | .property q negated => q.chars m negated
  | .ascii k negated => m.complement negated (m.foldCase k.chars)
  | .bracket negated body => body.resolve m >>= fun s => m.complement negated (m.foldCase s)
  | .union a b => a.resolve m >>= fun a => (b.resolve m).map fun b => .union a b
  | .op o a b =>
    a.resolve m >>= fun a => (b.resolve m).map fun b => o.apply (m.foldCase a) (m.foldCase b)

def Atom.resolve (m : Mode) : Atom → Except Fault Regex
  | .literal l => (l.resolve m).map fun c => .chars (m.foldCase (.single c))
  | .shorthand s negated => (m.complement negated (s.chars m.unicode)).map .chars
  | .property q negated => (q.chars m negated).map .chars
  | .startLine => .ok (.look m.startLine)
  | .endLine => .ok (.look m.endLine)
  | .startText => .ok (.look .startText)
  | .endText => .ok (.look .endText)
  | .wordBoundary => .ok (.look (.wordBoundary m.unicode))
  | .noWordBoundary => .ok (.look (.noWordBoundary m.unicode))
  | .wordStart => .ok (.look (.wordStart m.unicode))
  | .wordEnd => .ok (.look (.wordEnd m.unicode))
  | .wordStartHalf => .ok (.look (.wordStartHalf m.unicode))
  | .wordEndHalf => .ok (.look (.wordEndHalf m.unicode))

/-- The expression that a written one stands for. -/
def Node.resolve : Node → Except Fault Regex
  | .empty => .ok .empty
  | .flags => .ok .empty
  | .atom a m => a.resolve m
  | .dot m => m.dot.map .chars
  | .bracket negated body m =>
    body.resolve m >>= fun s => (m.complement negated (m.foldCase s)).map .chars
  | .repeated n min max => n.resolve.map fun r => .rep r min max
  | .group n => n.resolve
  | .seq a b => a.resolve >>= fun a => b.resolve.map fun b => .seq a b
  | .alt a b => a.resolve >>= fun a => b.resolve.map fun b => .alt a b

end AdFilter.Regex
