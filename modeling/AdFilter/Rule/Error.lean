import AdFilter.Regex.Error
import AdFilter.Text.Pieces

/-! # Why a line gives no working rule -/

namespace AdFilter

inductive RuleError where
  | invalidRegex (e : Regex.Error)
  | duplicateId
  | noCriteria
  | emptySelector
  deriving Repr, DecidableEq

def RuleError.message : RuleError → String
  | .invalidRegex e => "Invalid regular expression: " ++ e.message
  | .duplicateId => "Duplicate id in element hiding rule"
  | .noCriteria => "No criteria in element hiding rule"
  | .emptySelector => "Empty element hiding selector"

/-- Why a line is invalid. -/
inductive Rejection where
  | unbuildable (e : RuleError)
  /-- It has options that are not known, and they are not to be passed over. -/
  | unknownOptions (options : List String)
  deriving Repr, DecidableEq

def Rejection.message : Rejection → String
  | .unbuildable e => e.message
  | .unknownOptions options => "Unknown filter option: " ++ Text.joinWith ',' options

end AdFilter
