import AdFilter.Unicode.CaseMates
import AdFilter.Unicode.Category
import AdFilter.Unicode.Identifier

/-! # Sets of characters

A set is kept as the expression it was built by, and membership is read off that expression.
-/

namespace AdFilter.Regex

open AdFilter.Unicode

/-- A set of characters. -/
inductive CharSet where
  | empty
  /-- The characters from `lo` to `hi`. -/
  | range (lo hi : Char)
  /-- The characters of a table. -/
  | table (ranges : Ranges)
  | union (a b : CharSet)
  | inter (a b : CharSet)
  | diff (a b : CharSet)
  | compl (a : CharSet)
  /-- The set with all case mates of its members. -/
  | fold (a : CharSet)
  /-- The set with the other-case letters of its ASCII letters. -/
  | asciiFold (a : CharSet)
  deriving Repr

namespace CharSet

def mem : CharSet → Char → Bool
  | .empty, _ => false
  | .range lo hi, c => lo ≤ c && c ≤ hi
  | .table r, c => r.contains c.toNat
  | .union a b, c => a.mem c || b.mem c
  | .inter a b, c => a.mem c && b.mem c
  | .diff a b, c => a.mem c && !b.mem c
  | .compl a, c => !a.mem c
  | .fold a, c => a.mem c || (caseMates c).any a.mem
  | .asciiFold a, c => a.mem c || (otherCase? c).any a.mem

def single (c : Char) : CharSet :=
  .range c c

def symmDiff (a b : CharSet) : CharSet :=
  .union (.diff a b) (.diff b a)

def unions : List CharSet → CharSet
  | [] => .empty
  | [a] => a
  | a :: rest => .union a (unions rest)

def ranges (bounds : List (Char × Char)) : CharSet :=
  unions (bounds.map fun b => .range b.1 b.2)

def all : CharSet :=
  .compl .empty

def complIf (negated : Bool) (a : CharSet) : CharSet :=
  if negated then .compl a else a

def beyondAscii (a : CharSet) : CharSet :=
  .diff a (.range '\x00' '\x7F')

def named (tables : List Table) (name : String) : CharSet :=
  unions ((Table.named tables name).map .table)

def asciiDigit : CharSet :=
  .range '0' '9'

def asciiWord : CharSet :=
  ranges [('0', '9'), ('A', 'Z'), ('_', '_'), ('a', 'z')]

/-- The ASCII characters that count as white space. -/
def asciiSpace : CharSet :=
  ranges [('\t', '\r'), (' ', ' ')]

/-- The decimal digits of all scripts. -/
def digit : CharSet :=
  .union asciiDigit (beyondAscii (named categories "nd"))

def space : CharSet :=
  ranges [('\t', '\r'), (' ', ' '), ('\u0085', '\u0085'), ('\u00A0', '\u00A0'),
    ('\u1680', '\u1680'), ('\u2000', '\u200A'), ('\u2028', '\u2029'), ('\u202F', '\u202F'),
    ('\u205F', '\u205F'), ('\u3000', '\u3000')]

/-- Letters, marks, decimal digits, connectors and joiners. -/
def word : CharSet :=
  .union asciiWord (beyondAscii (unions
    (named identifierProperties "alphabetic" ::
      ["mn", "mc", "me", "nd", "pc"].map (named categories) ++ [.range '\u200C' '\u200D'])))

def isAlphabetic (c : Char) : Bool :=
  (named identifierProperties "alphabetic").mem c

def isAlphanumeric (c : Char) : Bool :=
  isAlphabetic c || ["nd", "nl", "no"].any fun name => (named categories name).mem c

end CharSet

end AdFilter.Regex
