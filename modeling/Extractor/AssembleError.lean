import Extractor.Check.Error

/-!
# Extractor.AssembleError

Why the schemas of a module cannot be put together.
-/

namespace Extractor

/-- Options that exclude each other. -/
inductive OptionsFault where
  | conflictingConversions
  | emptyLead
  deriving DecidableEq, Repr, Inhabited

/-- The fault in words. -/
def OptionsFault.text : OptionsFault → String
  | conflictingConversions => "css_to_xpath and xpath_to_css cannot both be enabled"
  | emptyLead => "xpath prefix must not be empty"

/-- Why a module cannot be put together. -/
inductive AssembleError where
  | unknownSchema (name referrer : String)
  | unknownShape (name referrer : String)
  /-- Schemas that refer to each other; the first name comes again as the last. -/
  | cyclicReference (path : List String)
  | duplicateSchema (name : String)
  | check (errors : List CheckError)
  | options (fault : OptionsFault)
  deriving Inhabited

/-- The error in words. -/
def AssembleError.message [Libraries] : AssembleError → String
  | unknownSchema name referrer =>
      "unknown schema '" ++ name ++ "' referenced by '" ++ referrer ++ "'"
  | unknownShape name referrer =>
      "unknown json schema '" ++ name ++ "' referenced by '" ++ referrer ++ "'"
  | cyclicReference path => "cyclic nested reference: " ++ " -> ".intercalate path
  | duplicateSchema name => "schema '" ++ name ++ "' is declared twice"
  | check errors => CheckError.summary errors
  | options fault => "invalid options: " ++ fault.text

end Extractor
