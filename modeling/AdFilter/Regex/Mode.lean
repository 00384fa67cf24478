import AdFilter.Text.Blank

/-! # Reading modes

The flags of a regular expression say how what follows is read and what it stands for. In verbose
mode white space and comments between the parts of an expression are skipped.
-/

namespace AdFilter.Regex

open AdFilter.Text

/-- A flag that a group can switch on or off. -/
inductive Flag where
  | caseInsensitive
  | multiLine
  | dotAll
  | swapGreed
  | unicode
  | crlf
  | verbose
  deriving Repr, DecidableEq

def Flag.ofChar? : Char → Option Flag
  | 'i' => some .caseInsensitive
  | 'm' => some .multiLine
  | 's' => some .dotAll
  | 'U' => some .swapGreed
  | 'u' => some .unicode
  | 'R' => some .crlf
  | 'x' => some .verbose
  | _ => none

/-- Which flags are on. Greed has no part in whether a text matches, so it is not kept. -/
structure Mode where
  caseInsensitive : Bool := false
  multiLine : Bool := false
  dotAll : Bool := false
  unicode : Bool := true
  crlf : Bool := false
  verbose : Bool := false
  deriving Repr, DecidableEq

/-- Drops a comment up to and including the end of its line. -/
def skipComment (cs : List Char) : List Char :=
  (cs.dropWhile (· != '\n')).drop 1

theorem length_skipComment_le (cs : List Char) : (skipComment cs).length ≤ cs.length := by
  have h := (List.dropWhile_sublist (· != '\n') (l := cs)).length_le
  simp only [skipComment, List.length_drop]
  omega

/-- Drops white space and comments. -/
def skipLayout : List Char → List Char
  | [] => []
  | c :: cs =>
    if isBlank c then skipLayout cs
    else if c = '#' then skipLayout (skipComment cs)
    else c :: cs
termination_by cs => cs.length
decreasing_by
  · simp
  · have := length_skipComment_le cs
    simp only [List.length_cons]
    omega

theorem length_skipLayout_le (cs : List Char) : (skipLayout cs).length ≤ cs.length := by
  fun_induction skipLayout cs with
  | case1 => simp
  | case2 c cs _ ih => simp only [List.length_cons]; omega
  | case3 cs _ ih =>
    have := length_skipComment_le cs
    simp only [List.length_cons]
    omega
  | case4 => simp

namespace Mode

def set (m : Mode) (on : Bool) : Flag → Mode
  | .caseInsensitive => { m with caseInsensitive := on }
  | .multiLine => { m with multiLine := on }
  | .dotAll => { m with dotAll := on }
  | .swapGreed => m
  | .unicode => { m with unicode := on }
  | .crlf => { m with crlf := on }
  | .verbose => { m with verbose := on }

/-- Drops what stands between two parts of an expression in this mode. -/
def skip (m : Mode) (cs : List Char) : List Char :=
  if m.verbose then skipLayout cs else cs

theorem length_skip_le (m : Mode) (cs : List Char) : (m.skip cs).length ≤ cs.length := by
  unfold skip
  split
  · exact length_skipLayout_le cs
  · exact Nat.le_refl _

grind_pattern length_skip_le => m.skip cs

/-- The first character behind blanks and comment signs. -/
def firstSolid (comment : Bool) : List Char → Option Char
  | [] => none
  | c :: cs =>
    if isBlank c then firstSolid comment cs
    else if c = '#' ∧ !comment then firstSolid true cs
    else some c

/-- The character that decides how a hyphen in front of `cs` is meant: in verbose mode the first
one behind blanks and a comment sign, if there is one. -/
def peek (m : Mode) (cs : List Char) : Option Char :=
  if m.verbose then (firstSolid false cs).or cs.head? else cs.head?

end Mode

end AdFilter.Regex
