import AdFilter.Regex.Basic

/-! # The size of an expression

An expression is refused when its compiled form would be too large. The size is reckoned in bytes
of an automaton over UTF-8: a state for each byte of a character, and a chain of states for each
range of a set.
-/

namespace AdFilter.Regex

/-- The largest compiled form that is accepted, in bytes. -/
def sizeLimit : Nat := 10485760

def stateSize : Nat := 32

/-- The size of a transition in a state that has several. -/
def transitionSize : Nat := 8

/-- The size of an alternative in a state that has several. -/
def alternativeSize : Nat := 4

namespace CharSet

/-- About how many ranges the set has. -/
def rangeCount : CharSet → Nat
  | .empty => 0
  | .range _ _ => 1
  | .table r => r.size
  | .union a b => a.rangeCount + b.rangeCount
  | .inter a b => Nat.min a.rangeCount b.rangeCount
  | .diff a b => a.rangeCount + b.rangeCount
  | .compl a => a.rangeCount + 1
  | .fold a => if a.rangeCount ≤ 1 then 2 * a.rangeCount else a.rangeCount + 1
  | .asciiFold a => if a.rangeCount ≤ 1 then 2 * a.rangeCount else a.rangeCount + 1

/-- Whether all members are known to be ASCII characters, case mates set aside. -/
def withinAscii : CharSet → Bool
  | .empty => true
  | .range _ hi => hi.toNat < 0x80
  | .table _ => false
  | .union a b => a.withinAscii && b.withinAscii
  | .inter a b => a.withinAscii || b.withinAscii
  | .diff a _ => a.withinAscii
  | .compl _ => false
  | .fold a => a.withinAscii
  | .asciiFold a => a.withinAscii

/-- About how many bytes the set takes. -/
def footprint : CharSet → Nat
  | .range lo hi => if lo = hi then stateSize * lo.utf8Size else 2 * stateSize
  | s =>
    if s.withinAscii then stateSize + transitionSize * s.rangeCount
    else (stateSize + alternativeSize) * s.rangeCount

end CharSet

/-- Whether nothing but the empty text is described. -/
def onlyEmpty : Regex → Bool
  | .empty => true
  | .chars _ => false
  | .look _ => true
  | .seq a b => onlyEmpty a && onlyEmpty b
  | .alt a b => onlyEmpty a && onlyEmpty b
  | .rep r _ max => max == some 0 || onlyEmpty r

/-- About how many bytes the compiled expression takes. Each round of a counted repetition has
its own copy. -/
def footprint : Regex → Nat
  | .empty => stateSize
  | .chars s => s.footprint
  | .look _ => stateSize
  | .seq a b => footprint a + footprint b
  | .alt a b => footprint a + footprint b + stateSize
  | .rep r min max =>
    let rounds := if onlyEmpty r then 1 else max.getD (Nat.max min 1)
    rounds * footprint r + stateSize * (rounds - min + 1)

end AdFilter.Regex
