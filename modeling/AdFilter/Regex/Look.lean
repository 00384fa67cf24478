import AdFilter.Regex.CharSet

/-! # Assertions about a place in a text

An assertion consumes nothing: it looks at the character before a place and the one after it.
-/

namespace AdFilter.Regex

/-- The characters on both sides of a place; `none` at an end of the text. -/
structure Place where
  before : Option Char
  after : Option Char
  deriving Repr, DecidableEq

/-- A condition on a place. -/
inductive Look where
  | startText
  | endText
  | startLine
  | endLine
  /-- As `startLine`, where a carriage return and a line feed end one line together. -/
  | startLineCrlf
  /-- As `endLine`, where a carriage return and a line feed end one line together. -/
  | endLineCrlf
  | wordBoundary (unicode : Bool)
  | noWordBoundary (unicode : Bool)
  | wordStart (unicode : Bool)
  | wordEnd (unicode : Bool)
  | wordStartHalf (unicode : Bool)
  | wordEndHalf (unicode : Bool)
  deriving Repr, DecidableEq

namespace Look

def isWord (unicode : Bool) (side : Option Char) : Bool :=
  side.any (if unicode then CharSet.word else CharSet.asciiWord).mem

def holds : Look → Place → Bool
  | .startText, p => p.before.isNone
  | .endText, p => p.after.isNone
  | .startLine, p => p.before.all (· == '\n')
  | .endLine, p => p.after.all (· == '\n')
  | .startLineCrlf, p =>
    p.before.all fun c => c == '\n' || (c == '\r' && p.after != some '\n')
  | .endLineCrlf, p =>
    p.after.all fun c => c == '\r' || (c == '\n' && p.before != some '\r')
  | .wordBoundary u, p => isWord u p.before != isWord u p.after
  | .noWordBoundary u, p => isWord u p.before == isWord u p.after
  | .wordStart u, p => !isWord u p.before && isWord u p.after
  | .wordEnd u, p => isWord u p.before && !isWord u p.after
  | .wordStartHalf u, p => !isWord u p.before
  | .wordEndHalf u, p => !isWord u p.after

end Look

end AdFilter.Regex
