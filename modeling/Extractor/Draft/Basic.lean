import Extractor.Chain.Basic
import Extractor.Draft.ElementFilter
import Extractor.Draft.TextFilter

/-!
# Extractor.Draft.Basic

Building a chain call by call. Every call adds an operation and moves on to the
type that the operation gives; a call that does not fit the type at hand fails
and leaves the chain as it was.
-/

namespace Extractor

variable [Libraries]

/-- A chain under construction. -/
structure Draft where
  chain : Chain
  /-- Whether the chain is nothing but the source of the page, so that a default may still be put in
  front. -/
  isSource : Bool
  deriving Inhabited

/-- A call on a chain. -/
inductive Call where
  | default (value : Literal)
  | select (dialect : Dialect) (query : String)
  | selectAll (dialect : Dialect) (query : String)
  | remove (dialect : Dialect) (query : String)
  | attr (keys : List String)
  | text
  | raw
  | attrsMap
  | index (i : Int)
  | join (separator : String)
  | toLen
  | unique (keepOrder : Bool)
  | filter (f : TextFilter)
  | filterElements (f : ElementFilter)
  | strip (kind : Stripping) (piece : String)
  | replace (old new : String)
  | replaceMap (table : List (String × String))
  | format (template : String)
  | split (separator : String)
  | unescape
  | regex (source : String) (group : Nat) (ignoreCase dotAll : Bool)
  | regexAll (source : String) (ignoreCase dotAll : Bool)
  | regexSub (source replacement : String) (ignoreCase dotAll : Bool)
  | toInt
  | toFloat
  | toBool
  | isEqual (value : Literal) (message : String)
  | isNotEqual (value : Literal) (message : String)
  | isContains (value : Literal) (message : String)
  | isFound (dialect : Dialect) (query message : String)
  | isMatch (scope : MatchScope) (source : String) (ignoreCase : Bool) (message : String)
  | hasAttr (key message : String)
  | jsonify (shape start : String)
  | jsonifyDynamic (start : String)
  | subParser (schema : String)
  deriving Inhabited

/-- The pattern for white space at both ends of a text. -/
def trimPattern : String := "(?:^\\s+)|(?:\\s+$)"

/-- Cutting off what a pattern finds, or white space at both ends. -/
def Call.regexTrim (source : Option String) : Call :=
  .regexSub (source.getD trimPattern) "" false false

namespace Draft

/-- The chain on the document. -/
def document : Draft := ⟨[], false⟩

/-- The chain on the source of the page. -/
def source : Draft := ⟨[.plain .raw .document .string], true⟩

/-- The type at the end of the chain. -/
def cursor (d : Draft) : ValueType := Chain.cursor d.chain

/-- Adds an operation. -/
def push (d : Draft) (operation : Operation) (accepts returns : ValueType) : Draft :=
  ⟨d.chain ++ [.plain operation accepts returns], false⟩

/-! ## types -/

/-- What to do when text is wanted and elements are there. -/
def hint? (d : Draft) (accepted : List ValueType) : Option ExtractHint :=
  if (accepted.contains .string || accepted.contains .listString) && d.cursor.isMarkup then
    if d.chain.getLast?.any Step.isDefault then some .afterDefault else some .afterSelector
  else none

/-- The type at the end of the chain, which has to be one of those accepted. Nothing may follow JSON
without a shape. -/
def expect (d : Draft) (method : String) (accepted : List ValueType) :
    Except BuildError ValueType :=
  if d.cursor ≠ .any && accepted.any (·.accepts d.cursor) then .ok d.cursor
  else .error (.typeMismatch method accepted d.cursor (d.hint? accepted))

/-- Adds an operation that passes on the type it takes. -/
def pushSame (d : Draft) (method : String) (accepted : List ValueType) (operation : Operation) :
    Except BuildError Draft := do
  let type ← d.expect method accepted
  return d.push operation type type

/-- Adds an operation that takes one type and gives another. -/
def pushFrom (d : Draft) (method : String) (operation : Operation)
    (accepts returns : ValueType) : Except BuildError Draft := do
  let _ ← d.expect method [accepts]
  return d.push operation accepts returns

/-- The types of lists. -/
def lists : List ValueType := [.listDocument, .listString, .listInt, .listFloat]

/-- The types of scalars that can be compared. -/
def scalars : List ValueType := [.string, .int, .float, .bool]

/-- The types that are true or false. -/
def truthy : List ValueType :=
  [.document, .listDocument, .string, .listString, .int, .listInt, .float, .listFloat, .bool]

/-! ## calls -/

/-- Puts a default in front. -/
def addDefault (d : Draft) (value : Literal) : Except BuildError Draft :=
  if !(d.chain.isEmpty || (d.isSource && d.chain.length = 1)) then .error .defaultMisplaced
  else match value with
    | .list (_ :: _) => .error (.argument "default" .listDefault)
    | .map _ => .error (.argument "default" .mapDefault)
    | _ => .ok { d with chain := .plain (.default value) .any .any :: d.chain }

/-- Adds one operation on an element and another one on a list of elements. -/
def pushExtraction (d : Draft) (method : String) (one many : Operation) (oneType : ValueType) :
    Except BuildError Draft := do
  match ← d.expect method [.document, .listDocument] with
  | .document => return d.push one .document oneType
  | _ => return d.push many .listDocument .listString

/-- Adds the extraction of attributes. Several attributes of one element make a list. -/
def pushAttributes (d : Draft) (keys : List String) : Except BuildError Draft :=
  let keys := (keys.map Text.trimmed).filter (!·.isEmpty)
  if keys.isEmpty then .error (.argument "attr" .noAttributeName)
  else
    d.pushExtraction "attr" (.attr keys) (.attrAll keys)
      (if keys.length = 1 then .string else .listString)

/-- Adds an extraction of text. -/
def pushText (d : Draft) : Except BuildError Draft :=
  d.pushExtraction "text" .text .textAll .string

/-- Adds an extraction of markup. -/
def pushRaw (d : Draft) : Except BuildError Draft := d.pushExtraction "raw" .raw .rawAll .string

/-- Adds what the suffix of a query extracts. -/
def pushSuffix (d : Draft) : Option Extraction → Except BuildError Draft
  | none => .ok d
  | some .text => d.pushText
  | some .raw => d.pushRaw
  | some (.attributes names) => d.pushAttributes names

/-- Adds a selection: the query without its suffix, and what the suffix extracts. -/
def pushSelection (d : Draft) (method : String) (dialect : Dialect) (query : String)
    (operation : Dialect → String → Operation) (returns : ValueType) :
    Except BuildError Draft := do
  let _ ← d.expect method [.document]
  let split ← SuffixedQuery.ofDialect dialect query
  Query.check dialect split.query
  (d.push (operation dialect split.query) .document returns).pushSuffix split.extraction

/-- Adds a query that only tests or removes, and so has no suffix. -/
def pushPlainQuery (d : Draft) (method : String) (dialect : Dialect) (query : String)
    (operation : Dialect → String → Operation) : Except BuildError Draft := do
  let _ ← d.expect method [.document]
  let query ← Query.plain dialect method query
  return d.push (operation dialect query) .document .document

/-- Adds an operation on a text, or on each text of a list. -/
def pushOnText (d : Draft) (method : String) (operation : Operation) : Except BuildError Draft :=
  d.pushSame method [.string, .listString] operation

/-- Adds a cast of a text, or of each text of a list. -/
def pushCast (d : Draft) (method : String) (one many : Operation) (oneType manyType : ValueType) :
    Except BuildError Draft := do
  match ← d.expect method [.string, .listString] with
  | .string => return d.push one .string oneType
  | _ => return d.push many .listString manyType

/-- Adds a comparison with a literal of the type at hand. -/
def pushComparison (d : Draft) (method : String) (value : Literal) (operation : Operation) :
    Except BuildError Draft := do
  let type ← d.expect method scalars
  if value.valueType? = some type then return d.push operation type type
  else throw (.argument method (.operandType value.typeName type))

/-- Adds a search for a literal among the items of a list. -/
def pushMembership (d : Draft) (value : Literal) (message : String) :
    Except BuildError Draft := do
  let type ← d.expect "is_contains" [.listString, .listInt, .listFloat]
  if value.valueType? = type.item? then return d.push (.isContains value message) type type
  else throw (.argument "is_contains" (.itemType value.typeName type))

/-- Adds a filter on a list of texts. -/
def pushFilter (d : Draft) (f : TextFilter) : Except BuildError Draft := do
  let _ ← d.expect "filter" [.listString]
  match f.predicate with
  | none => throw (.argument "filter" .emptyFilter)
  | some predicate =>
      predicate.patterns.forM fun source => discard (Pattern.countGroups source)
      return d.push (.filter predicate) .listString .listString

/-- Adds a filter on a list of elements. -/
def pushElementFilter (d : Draft) (f : ElementFilter) : Except BuildError Draft := do
  let _ ← d.expect "filter" [.listDocument]
  match f.predicate with
  | none => throw (.argument "filter" .emptyFilter)
  | some predicate => return d.push (.filterElements predicate) .listDocument .listDocument

/-- Adds the group of a first match. -/
def pushRegex (d : Draft) (source : String) (group : Nat) (ignoreCase dotAll : Bool) :
    Except BuildError Draft := do
  let _ ← d.expect "re" [.string]
  let p := Pattern.normalise source ignoreCase dotAll
  let found ← Pattern.countGroups p.source
  Pattern.checkGroup p.source found group
  return d.push (.regex p group) .string .string

/-- Adds all matches. -/
def pushRegexAll (d : Draft) (source : String) (ignoreCase dotAll : Bool) :
    Except BuildError Draft := do
  let _ ← d.expect "re_all" [.string]
  let p := Pattern.normalise source ignoreCase dotAll
  let found ← Pattern.countGroups p.source
  Pattern.checkFindAll p.source found
  return d.push (.regexAll p) .string .listString

/-- Adds a replacement of all matches. -/
def pushRegexSub (d : Draft) (source replacement : String) (ignoreCase dotAll : Bool) :
    Except BuildError Draft := do
  let type ← d.expect "re_sub" [.string, .listString]
  let p ← Pattern.checked source ignoreCase dotAll
  return d.push (.regexSub p replacement) type type

/-- The types in which a pattern can be asserted. -/
def matchTypes : MatchScope → List ValueType
  | .one => [.string]
  | .any | .all => [.listString]

/-- Adds the assertion that a pattern matches. -/
def pushMatch (d : Draft) (scope : MatchScope) (source : String) (ignoreCase : Bool)
    (message : String) : Except BuildError Draft := do
  let p ← Pattern.checked source ignoreCase false
  d.pushSame scope.method (matchTypes scope) (.isMatch scope p.source p.ignoreCase message)

/-- Adds the assertion that an attribute is there. -/
def pushHasAttr (d : Draft) (key message : String) : Except BuildError Draft := do
  let key := Text.trimmed key
  match ← d.expect "has_attr" [.document, .listDocument] with
  | .document => return d.push (.hasAttr key message) .document .document
  | _ => return d.push (.hasListAttr key message) .listDocument .listDocument

/-- Whether a format template has a slot. -/
def hasSlot (template : String) : Bool :=
  Text.occursIn "\x7b\x7b\x7d\x7d".toList template.toList

/-- Adds a call. -/
def apply (d : Draft) : Call → Except BuildError Draft
  | .default value => d.addDefault value
  | .select dialect query => d.pushSelection dialect.method dialect query .select .document
  | .selectAll dialect query =>
      d.pushSelection (dialect.method ++ "_all") dialect query .selectAll .listDocument
  | .remove dialect query => d.pushPlainQuery (dialect.method ++ "_remove") dialect query .remove
  | .attr keys => d.pushAttributes keys
  | .text => d.pushText
  | .raw => d.pushRaw
  | .attrsMap => d.pushExtraction "attrs_map" .attrsMap .attrsMapAll .listString
  | .index i => do
      let type ← d.expect "index" lists
      return d.push (.index i) type (type.item?.getD type)
  | .join separator => d.pushFrom "join" (.join separator) .listString .string
  | .toLen => do
      let type ← d.expect "to_len" lists
      return d.push .toLen type .int
  | .unique keepOrder => d.pushFrom "unique" (.unique keepOrder) .listString .listString
  | .filter f => d.pushFilter f
  | .filterElements f => d.pushElementFilter f
  | .strip kind piece => d.pushOnText kind.method (.strip kind piece)
  | .replace old new => d.pushOnText "repl" (.replace old new)
  | .replaceMap table =>
      if table.isEmpty then .error (.argument "repl_map" .emptyTable)
      else d.pushOnText "repl_map" (.replaceMap table)
  | .format template =>
      if hasSlot template then d.pushOnText "fmt" (.format template)
      else .error (.missingSlot template)
  | .split separator => d.pushFrom "split" (.split separator) .string .listString
  | .unescape => d.pushOnText "unescape" .unescape
  | .regex source group ignoreCase dotAll => d.pushRegex source group ignoreCase dotAll
  | .regexAll source ignoreCase dotAll => d.pushRegexAll source ignoreCase dotAll
  | .regexSub source replacement ignoreCase dotAll =>
      d.pushRegexSub source replacement ignoreCase dotAll
  | .toInt => d.pushCast "to_int" .toInt .toListInt .int .listInt
  | .toFloat => d.pushCast "to_float" .toFloat .toListFloat .float .listFloat
  | .toBool => do
      let type ← d.expect "to_bool" truthy
      return d.push .toBool type .bool
  | .isEqual value message => d.pushComparison "is_equal" value (.isEqual value message)
  | .isNotEqual value message => d.pushComparison "is_not_equal" value (.isNotEqual value message)
  | .isContains value message => d.pushMembership value message
  | .isFound dialect query message =>
      d.pushPlainQuery ("is_" ++ dialect.method) dialect query fun dialect query =>
        .isFound dialect query message
  | .isMatch scope source ignoreCase message => d.pushMatch scope source ignoreCase message
  | .hasAttr key message => d.pushHasAttr key message
  | .jsonify shape start => d.pushFrom "jsonify" (.jsonify shape start false) .string .json
  | .jsonifyDynamic start => do
      let type ← d.expect "jsonify_dynamic" [.string, .listString]
      return d.push (.jsonifyDynamic start) type .any
  | .subParser schema => d.pushFrom "sub_parser" (.nested schema none) .document .nested

/-- Adds a call to a chain that only narrows the element another schema is applied to: queries have
no suffix there. -/
def applyNarrowing (d : Draft) (call : Call) : Except BuildError Draft :=
  match call with
  | .select dialect query => do
      Query.rejectSuffix dialect dialect.method query
      d.apply call
  | _ => d.apply call

end Draft

end Extractor
