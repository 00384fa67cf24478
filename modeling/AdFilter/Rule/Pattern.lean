import AdFilter.Regex.Compile
import AdFilter.Text.Ascii

/-! # Patterns of URLs

A pattern between slashes is a regular expression. Any other is a glob: `*` stands for anything
and `^` for a separator or the end of the URL; a bar at an end ties the pattern to that end, and
two bars in front tie it to the start of a label of the host.
-/

namespace AdFilter.Pattern

open Text

/-- What the start of a glob is tied to. -/
inductive Anchor where
  | none
  | start
  | host
  deriving Repr, DecidableEq

/-- A pattern that is no regular expression. -/
structure Glob where
  anchor : Anchor
  body : List Char
  /-- The pattern is tied to the end of the URL. -/
  toEnd : Bool
  deriving Repr, DecidableEq

/-- The anchor of a pattern, and what follows it. -/
def cutAnchor : List Char → Anchor × List Char
  | '|' :: '|' :: rest => (.host, rest)
  | '|' :: rest => (.start, rest)
  | rest => (.none, rest)

def Glob.ofChars (pattern : List Char) : Glob :=
  let (anchor, rest) := cutAnchor pattern
  if rest.getLast? = some '|' then ⟨anchor, rest.dropLast, true⟩ else ⟨anchor, rest, false⟩

/-- Makes one star of each run of stars. -/
def collapseStars : List Char → List Char
  | [] => []
  | c :: cs => if c = '*' ∧ cs.head? = some '*' then collapseStars cs else c :: collapseStars cs

def dropStar : List Char → List Char
  | '*' :: cs => cs
  | cs => cs

def dropLastStar (cs : List Char) : List Char :=
  if cs.getLast? = some '*' then cs.dropLast else cs

/-- A scheme, slashes, and perhaps labels in front of the host. -/
def hostAnchor : String := r"^[\w\-]+:/+(?:[^/]+\.)?"

/-- An ASCII character that is no letter, digit or one of `_-.%`, or the end of the URL. -/
def separator : String :=
  r"(?:[\x00-\x24\x26-\x2C\x2F\x3A-\x40\x5B-\x5E\x60\x7B-\x7F]|$)"

/-- The regular expression of a URL of any kind. -/
def anything : String := ".*"

def Anchor.source : Anchor → List Char
  | .none => []
  | .start => ['^']
  | .host => hostAnchor.toList

def charSource (c : Char) : List Char :=
  if c = '*' then anything.toList
  else if c = '^' then separator.toList
  else Regex.escapeChar c

namespace Glob

/-- The body with stars that have no effect left out. -/
def essence (g : Glob) : List Char :=
  let body := collapseStars g.body
  let body := if g.anchor = .none then dropStar body else body
  if g.toEnd then body else dropLastStar body

def source (g : Glob) : List Char :=
  let text := g.anchor.source ++ g.essence.flatMap charSource ++ if g.toEnd then ['$'] else []
  if text.isEmpty then anything.toList else text

end Glob

/-- What stands between the slashes of a pattern that begins and ends with one. -/
def literal? : List Char → Option (List Char)
  | '/' :: rest =>
    if rest.isEmpty then some []
    else if rest.getLast? = some '/' then some rest.dropLast
    else none
  | _ => none

def source (pattern : List Char) : List Char :=
  match literal? pattern with
  | some body => if body.isEmpty then anything.toList else body
  | none => (Glob.ofChars pattern).source

/-- Whether the pattern begins with a scheme and a colon, perhaps behind a bar. -/
def startsWithScheme (pattern : List Char) : Bool :=
  let rest := if pattern.head? = some '|' then pattern.drop 1 else pattern
  !(rest.takeWhile isNameChar).isEmpty && (rest.dropWhile isNameChar).head? == some ':'

end AdFilter.Pattern
