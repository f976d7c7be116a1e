import Extractor.BuildError
import Extractor.Literal
import Extractor.SchemaKind

/-!
# Extractor.Check.Error

What the static check of a schema can find: errors, which refuse the schema,
and warnings, which do not. The causes are data; the wording stands beside
them.
-/

namespace Extractor

variable [Libraries]

/-- The kinds of errors. -/
inductive CheckKind where
  | typeMismatch
  | defaultMisplaced
  | defaultTypeMismatch
  | hookMissing
  | hookReturnType
  | selectorSyntax
  | regexSyntax
  | formatTemplateMissingSlot
  | emptyChain
  | unexpectedField
  | invalidFieldType
  | jsonifyWithDefault
  | nestedNotLast
  deriving DecidableEq, Repr, Inhabited

namespace CheckKind

/-- The name of the kind in texts. -/
def name : CheckKind → String
  | typeMismatch => "TypeMismatch"
  | defaultMisplaced => "DefaultMisplaced"
  | defaultTypeMismatch => "DefaultTypeMismatch"
  | hookMissing => "HookMissing"
  | hookReturnType => "HookReturnType"
  | selectorSyntax => "SelectorSyntax"
  | regexSyntax => "RegexSyntax"
  | formatTemplateMissingSlot => "FormatTemplateMissingSlot"
  | emptyChain => "EmptyChain"
  | unexpectedField => "UnexpectedField"
  | invalidFieldType => "InvalidFieldType"
  | jsonifyWithDefault => "JsonifyWithDefault"
  | nestedNotLast => "NestedNotLast"

/-- The code of the kind in reports. -/
def code : CheckKind → String
  | typeMismatch => "TYPE_MISMATCH"
  | defaultMisplaced => "DEFAULT_MISPLACED"
  | defaultTypeMismatch => "DEFAULT_TYPE_MISMATCH"
  | hookMissing => "HOOK_MISSING"
  | hookReturnType => "HOOK_RETURN_TYPE"
  | selectorSyntax => "SELECTOR_SYNTAX"
  | regexSyntax => "REGEX_SYNTAX"
  | formatTemplateMissingSlot => "FORMAT_TEMPLATE_MISSING_SLOT"
  | emptyChain => "EMPTY_CHAIN"
  | unexpectedField => "UNEXPECTED_FIELD"
  | invalidFieldType => "INVALID_FIELD_TYPE"
  | jsonifyWithDefault => "JSONIFY_WITH_DEFAULT"
  | nestedNotLast => "NESTED_NOT_LAST"

end CheckKind

/-- Why a member of a schema is refused. -/
inductive CheckCause where
  | hookMissing (kind : SchemaKind) (hook : Hook)
  /-- A named field in a schema that only has hooks. -/
  | unexpectedField (kind : SchemaKind)
  /-- A default in a hook that may not have one. -/
  | hookDefault (hook : Hook)
  | hookType (hook : Hook) (actual : ValueType)
  /-- A key that falls back to null. -/
  | nullKey
  /-- A field of an accumulating schema that is no list of strings. -/
  | notStrings (actual : ValueType)
  /-- A field that ends with a type from which nothing is extracted. -/
  | notTerminal (actual : ValueType)
  | jsonWithDefault (method : String)
  | defaultType (value : Literal) (actual : ValueType)
  | emptyChain
  /-- A step behind the hand-over to another schema at the given place. -/
  | nestedNotLast (method : String) (place : Nat)
  | defaultMisplaced
  | typeMismatch (method : String) (expected actual : ValueType)
  /-- An argument that no call would have accepted. -/
  | build (e : BuildError)
  deriving Inhabited

namespace CheckCause

/-- The kind of error that a build error makes. -/
def kindOfBuild : BuildError → CheckKind
  | .selector .. => .selectorSyntax
  | .pattern .. => .regexSyntax
  | .missingSlot .. => .formatTemplateMissingSlot
  | .typeMismatch .. | .argument .. => .typeMismatch
  | .defaultMisplaced => .defaultMisplaced

/-- The kind of the error. -/
def kind : CheckCause → CheckKind
  | hookMissing .. => .hookMissing
  | unexpectedField _ => .unexpectedField
  | hookDefault _ | defaultMisplaced => .defaultMisplaced
  | hookType .. => .hookReturnType
  | nullKey | defaultType .. => .defaultTypeMismatch
  | notStrings _ | notTerminal _ => .invalidFieldType
  | jsonWithDefault _ => .jsonifyWithDefault
  | emptyChain => .emptyChain
  | nestedNotLast .. => .nestedNotLast
  | typeMismatch .. => .typeMismatch
  | build e => kindOfBuild e

/-- What a hook should give. -/
def hookExpectation : Hook → String
  | .splitDoc => "LIST_DOCUMENT"
  | .key => "STRING"
  | _ => "a scalar, list, nested or json type"

/-- What was expected and what was found, in words. -/
def types? : CheckCause → Option (String × String)
  | hookType hook actual => some (hookExpectation hook, actual.name)
  | nullKey => some ("str", "null")
  | notStrings actual => some ("LIST_STRING", actual.name)
  | notTerminal actual =>
      some ("STRING, INT, FLOAT, BOOL, a list of them, NESTED, JSON or ANY", actual.name)
  | defaultType value actual => some (actual.name, value.typeName)
  | typeMismatch _ expected actual => some (expected.name, actual.name)
  | _ => none

/-- The cause in words. -/
def message : CheckCause → String
  | hookMissing kind hook => kind.name ++ " schema requires " ++ hook.name
  | unexpectedField kind => kind.name ++ " schemas only take reserved hooks"
  | hookDefault hook => hook.name ++ " cannot have a default"
  | hookType hook _ => hook.name ++ " returns the wrong type"
  | nullKey => "__KEY__ default must be a string"
  | notStrings _ => "accumulating schemas only collect lists of strings"
  | notTerminal actual => "field cannot return " ++ actual.name
  | jsonWithDefault method => method ++ "() cannot be combined with default()"
  | defaultType value _ => "default " ++ value.text ++ " does not fit the chain result"
  | emptyChain => "chain has no expressions"
  | nestedNotLast method place =>
      method ++ "() follows sub_parser() at " ++ toString place
        ++ "; sub_parser() must end the chain"
  | defaultMisplaced => "default() must be the first expression, and appear once"
  | typeMismatch method _ _ => method ++ "() does not accept the previous result"
  | build e => e.message

/-- What may help. -/
def tip? : CheckCause → Option String
  | unexpectedField _ => some "move the field into a nested item schema"
  | hookType hook actual =>
      if actual.isMarkup && hook ≠ .splitDoc then some "extract text/attribute after selector"
      else none
  | notTerminal actual =>
      if actual.isMarkup then
        some "extract text/attribute after selector, or use sub_parser()"
      else none
  | build (.selector dialect _ _ (some other)) => some (other.mistakenFor dialect)
  | _ => none

end CheckCause

/-- An error in a member of a schema, at a step of its chain if there is one to blame. -/
structure CheckError where
  schema : String
  field : String
  position : Option Nat
  cause : CheckCause
  deriving Inhabited

/-- The error in words. -/
def CheckError.text (e : CheckError) : String :=
  e.schema ++ "." ++ e.field
    ++ (match e.position with
      | some place => "[" ++ toString place ++ "]"
      | none => "")
    ++ ": " ++ e.cause.kind.name ++ ": " ++ e.cause.message
    ++ (match e.cause.types? with
      | some (expected, actual) => " (expected " ++ expected ++ ", got " ++ actual ++ ")"
      | none => "")
    ++ match e.cause.tip? with
      | some tip => "\n  tip: " ++ tip
      | none => ""

/-- All the errors of a check in words. -/
def CheckError.summary (errors : List CheckError) : String :=
  toString errors.length ++ " check error(s)"
    ++ String.join (errors.map fun e => "\n" ++ e.text)

/-- What looks wrong, but is let through. -/
inductive WarningCause where
  /-- A hook that the kind of schema does not use. -/
  | unusedHook (hook : Hook) (kind : SchemaKind)
  /-- A default that hides what the assertions of the chain find. -/
  | defaultWithAssertion
  /-- A name in the list of excluded fields that is no field. -/
  | unmatchedExclude (name : String)
  /-- A nested schema that splits on the query by which its element was selected. -/
  | unreachableNested (field query child : String)
  deriving DecidableEq, Repr, Inhabited

namespace WarningCause

/-- The code of the kind in reports. -/
def code : WarningCause → String
  | unusedHook .. => "UNUSED_HOOK"
  | defaultWithAssertion => "DEFAULT_WITH_ASSERTION"
  | unmatchedExclude _ => "UNMATCHED_EXCLUDE_SIGNATURE"
  | unreachableNested .. => "UNREACHABLE_NESTED"

/-- The cause in words. -/
def message : WarningCause → String
  | unusedHook hook kind =>
      hook.name ++ " is not used by " ++ kind.name ++ " schemas and is skipped"
  | defaultWithAssertion => "default() swallows the assertion failures of this chain"
  | unmatchedExclude name => "__EXCLUDE_SIGNATURE__ names '" ++ name ++ "', which is not a field"
  | unreachableNested field query child =>
      "'" ++ field ++ "' selects '" ++ query ++ "' and " ++ child
        ++ " splits on the same query inside it; the split finds nothing"

end WarningCause

/-- A warning about a schema, and mostly about one of its members. -/
structure Warning where
  schema : String
  field : Option String
  cause : WarningCause
  deriving DecidableEq, Repr, Inhabited

/-- The warning in words. -/
def Warning.text (w : Warning) : String :=
  "warning: " ++ w.schema
    ++ (match w.field with
      | some field => "." ++ field
      | none => "")
    ++ ": " ++ w.cause.message

end Extractor
