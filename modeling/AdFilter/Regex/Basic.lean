import AdFilter.Regex.Look

/-! # Regular expressions

A regular expression describes a part of a text in its surroundings: what stands before and
behind the part matters to the assertions.
-/

namespace AdFilter

open Regex in
/-- A regular expression whose classes and flags are decided. -/
inductive Regex where
  | empty
  /-- One character of a set. -/
  | chars (s : CharSet)
  /-- A place where an assertion holds. -/
  | look (l : Look)
  | seq (a b : Regex)
  | alt (a b : Regex)
  /-- The expression `min` to `max` times in a row; without `max` any number of times. -/
  | rep (r : Regex) (min : Nat) (max : Option Nat)
  deriving Repr

namespace Regex

/-- The place between two parts of a text. -/
def placeOf (before after : List Char) : Place :=
  ⟨before.getLast?, after.head?⟩

/-- `r.Matches before part after`: the expression describes `part` where it stands between
`before` and `after`. -/
inductive Matches : Regex → List Char → List Char → List Char → Prop where
  | empty {before after} : Matches .empty before [] after
  | chars {s c before after} : s.mem c → Matches (.chars s) before [c] after
  | look {l before after} : l.holds (placeOf before after) → Matches (.look l) before [] after
  | seq {a b before x y after} : Matches a before x (y ++ after) →
      Matches b (before ++ x) y after → Matches (.seq a b) before (x ++ y) after
  | altLeft {a b before x after} : Matches a before x after → Matches (.alt a b) before x after
  | altRight {a b before x after} : Matches b before x after → Matches (.alt a b) before x after
  | repDone {r max before after} : Matches (.rep r 0 max) before [] after
  | repMore {r min max before x y after} : max ≠ some 0 → Matches r before x (y ++ after) →
      Matches (.rep r (min - 1) (max.map (· - 1))) (before ++ x) y after →
      Matches (.rep r min max) before (x ++ y) after

/-- The expression describes some part of the text. -/
def Occurs (r : Regex) (text : List Char) : Prop :=
  ∃ before part after, text = before ++ part ++ after ∧ r.Matches before part after

end Regex

end AdFilter
