import AdFilter.Regex.Footprint
import AdFilter.Regex.Parser
import AdFilter.Regex.Resolve

/-! # From text to expression -/

namespace AdFilter.Regex

/-- The expression of a text, its size set aside. -/
def ofChars (matchCase : Bool) (source : List Char) : Except Fault Regex :=
  parse { caseInsensitive := !matchCase } source >>= Node.resolve

def compile (matchCase : Bool) (source : List Char) : Except Error Regex :=
  match ofChars matchCase source with
  | .error fault => .error (.malformed fault)
  | .ok r => if footprint r ≤ sizeLimit then .ok r else .error (.tooLarge sizeLimit)

/-- The text that stands for the character and nothing else. -/
def escapeChar (c : Char) : List Char :=
  if isMeta c then ['\\', c] else [c]

end AdFilter.Regex
