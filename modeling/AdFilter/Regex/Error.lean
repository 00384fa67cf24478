/-! # Why a regular expression is refused -/

namespace AdFilter.Regex

/-- A fault in the text of a regular expression. -/
inductive Fault where
  | backreference
  | boundaryInvalid
  | boundaryUnclosed
  | boundaryUnfinished
  | classEscapeInvalid
  | classRangeInvalid
  | classRangeLiteral
  | classUnclosed
  | countEmpty
  | countInvalid
  | countOverflow
  | countUnclosed
  | escapeUnfinished
  | escapeUnknown
  | flagDangling
  | flagDuplicate
  | flagNegatedTwice
  | flagUnfinished
  | flagUnknown
  | groupNameDuplicate
  | groupNameEmpty
  | groupNameInvalid
  | groupNameUnclosed
  | groupUnclosed
  | groupUnopened
  | hexDigitInvalid
  | hexEmpty
  | hexNoCharacter
  | lookAround
  | nestedTooDeep
  | propertyLetterInvalid
  | propertyUnknown
  | propertyValueUnknown
  | repetitionMissing
  | unicodeOff
  | notUtf8
  deriving Repr, DecidableEq

/-- How deep groups, repetitions and classes may be nested. -/
def nestLimit : Nat := 250

def Fault.message : Fault → String
  | .backreference => "backreferences are not supported"
  | .boundaryInvalid =>
    "unrecognized special word boundary assertion, valid choices are: start, end, " ++
      "start-half or end-half"
  | .boundaryUnclosed =>
    "special word boundary assertion is either unclosed or contains an invalid character"
  | .boundaryUnfinished =>
    "found either the beginning of a special word boundary or a bounded repetition on " ++
      "a \\b with an opening brace, but no closing brace"
  | .classEscapeInvalid => "invalid escape sequence found in character class"
  | .classRangeInvalid => "invalid character class range, the start must be <= the end"
  | .classRangeLiteral => "invalid range boundary, must be a literal"
  | .classUnclosed => "unclosed character class"
  | .countEmpty => "repetition quantifier expects a valid decimal"
  | .countInvalid => "invalid repetition count range, the start must be <= the end"
  | .countOverflow => "decimal literal invalid"
  | .countUnclosed => "unclosed counted repetition"
  | .escapeUnfinished => "incomplete escape sequence, reached end of pattern prematurely"
  | .escapeUnknown => "unrecognized escape sequence"
  | .flagDangling => "dangling flag negation operator"
  | .flagDuplicate => "duplicate flag"
  | .flagNegatedTwice => "flag negation operator repeated"
  | .flagUnfinished => "expected flag but got end of regex"
  | .flagUnknown => "unrecognized flag"
  | .groupNameDuplicate => "duplicate capture group name"
  | .groupNameEmpty => "empty capture group name"
  | .groupNameInvalid => "invalid capture group character"
  | .groupNameUnclosed => "unclosed capture group name"
  | .groupUnclosed => "unclosed group"
  | .groupUnopened => "unopened group"
  | .hexDigitInvalid => "invalid hexadecimal digit"
  | .hexEmpty => "hexadecimal literal empty"
  | .hexNoCharacter => "hexadecimal literal is not a Unicode scalar value"
  | .lookAround => "look-around, including look-ahead and look-behind, is not supported"
  | .nestedTooDeep =>
    "exceed the maximum number of nested parentheses/brackets (" ++ toString nestLimit ++ ")"
  | .propertyLetterInvalid => "invalid Unicode character class"
  | .propertyUnknown => "Unicode property not found"
  | .propertyValueUnknown => "Unicode property value not found"
  | .repetitionMissing => "repetition operator missing expression"
  | .unicodeOff => "Unicode not allowed here"
  | .notUtf8 => "pattern can match invalid UTF-8"

/-- Why a regular expression cannot be used. -/
inductive Error where
  /-- Its text is faulty. -/
  | malformed (fault : Fault)
  /-- Its compiled form would take more than the allowed number of bytes. -/
  | tooLarge (limit : Nat)
  deriving Repr, DecidableEq

/-- What a reader is told about the error, on one line; the place of a fault in the text, which an
engine shows on lines of its own, is left out. -/
def Error.message : Error → String
  | .malformed fault => "regex parse error: " ++ fault.message
  | .tooLarge limit => "Compiled regex exceeds size limit of " ++ toString limit ++ " bytes."

end AdFilter.Regex
