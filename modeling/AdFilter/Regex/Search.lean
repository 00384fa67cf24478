import AdFilter.Regex.Basic

/-! # Searching a text

The places of a text are numbered from zero, and a set of places is a number whose bits tell
which places are in it. An expression is first resolved against the text: every set of characters
becomes the set of places in front of its members, and every assertion the set of places where it
holds. From there on an expression takes a set of places to the set of places it can end at.
-/

namespace AdFilter.Regex

/-- The places of a text, the first of them behind the character `before`. -/
def placesFrom (before : Option Char) : List Char → List Place
  | [] => [⟨before, none⟩]
  | c :: cs => ⟨before, some c⟩ :: placesFrom (some c) cs

def places (text : List Char) : List Place :=
  placesFrom none text

def placeSet (p : Place → Bool) (ps : List Place) : Nat :=
  ps.foldr (fun place set => 2 * set + (p place).toNat) 0

/-- An expression resolved against a text. -/
inductive Plan where
  | pass
  /-- Steps over a character from any place of the set. -/
  | step (set : Nat)
  /-- Keeps the places of the set. -/
  | keep (set : Nat)
  | seq (a b : Plan)
  | alt (a b : Plan)
  | rep (p : Plan) (min : Nat) (max : Option Nat)
  deriving Repr, DecidableEq

/-- Resolves an expression against the places of a text. -/
def plan (ps : List Place) : Regex → Plan
  | .empty => .pass
  | .chars s => .step (placeSet (fun p => p.after.any s.mem) ps)
  | .look l => .keep (placeSet l.holds ps)
  | .seq a b => .seq (plan ps a) (plan ps b)
  | .alt a b => .alt (plan ps a) (plan ps b)
  | .rep r min max => .rep (plan ps r) min max

/-- Takes the steps of `f` one after the other, up to `n` of them or until nothing changes. -/
def iterate (f : Nat → Nat) : Nat → Nat → Nat
  | 0, set => set
  | n + 1, set => if f set = set then set else iterate f n (f set)

namespace Plan

/-- The places where the expression can end when it begins at a place of `set`. No more than
`bound` rounds of an unlimited repetition can lead to new places. -/
def ends (bound : Nat) : Plan → Nat → Nat
  | .pass, set => set
  | .step s, set => (set &&& s) <<< 1
  | .keep s, set => set &&& s
  | .seq a b, set => b.ends bound (a.ends bound set)
  | .alt a b, set => a.ends bound set ||| b.ends bound set
  | .rep p min max, set =>
    let extra := (max.map (· - min)).getD bound
    iterate (fun set => set ||| p.ends bound set) extra (iterate (p.ends bound) min set)

end Plan

/-- Whether the expression describes some part of the text. -/
def isMatch (r : Regex) (text : List Char) : Bool :=
  let ps := places text
  (plan ps r).ends ps.length (1 <<< ps.length - 1) != 0

end AdFilter.Regex
