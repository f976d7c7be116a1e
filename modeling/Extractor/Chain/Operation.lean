import Extractor.Literal
import Extractor.Pattern
import Extractor.Predicate.Element
import Extractor.Predicate.Text

/-!
# Extractor.Chain.Operation

The operations of chains with their arguments. The same operation may take
values of several types, so the types stand beside it, not in it.
-/

namespace Extractor

/-- What is taken off the ends of a text. -/
inductive Stripping where
  /-- Any of the given characters, at both ends. -/
  | trim
  | trimLeft
  | trimRight
  /-- The given text, once, at the start. -/
  | removeStart
  | removeEnd
  | removeBoth
  deriving DecidableEq, Repr, Inhabited

namespace Stripping

/-- All kinds. -/
def all : List Stripping := [trim, trimLeft, trimRight, removeStart, removeEnd, removeBoth]

/-- The method that strips so. -/
def method : Stripping → String
  | trim => "trim"
  | trimLeft => "ltrim"
  | trimRight => "rtrim"
  | removeStart => "rm_prefix"
  | removeEnd => "rm_suffix"
  | removeBoth => "rm_prefix_suffix"

/-- The kind of the given method. -/
def ofMethod? (method : String) : Option Stripping := all.find? (·.method == method)

/-- The name in programs. -/
def name : Stripping → String
  | trim => "TRIM"
  | trimLeft => "LTRIM"
  | trimRight => "RTRIM"
  | removeStart => "RM_PREFIX"
  | removeEnd => "RM_SUFFIX"
  | removeBoth => "RM_PREFIX_SUFFIX"

end Stripping

/-- Which texts have to match a pattern. -/
inductive MatchScope where
  /-- The one text there is. -/
  | one
  /-- At least one of a list. -/
  | any
  /-- All of a list. -/
  | all
  deriving DecidableEq, Repr, Inhabited

/-- The method that asserts a match in the scope. -/
def MatchScope.method : MatchScope → String
  | one => "is_regex"
  | any => "any_is_re"
  | all => "all_is_re"

/-- An operation. Where there are two forms, the second one takes a list of elements. -/
inductive Operation where
  /-- The value to fall back to when a later operation fails. -/
  | default (value : Literal)
  /-- The first element that a query finds. -/
  | select (dialect : Dialect) (query : String)
  | selectAll (dialect : Dialect) (query : String)
  /-- The document without the elements that a query finds. -/
  | remove (dialect : Dialect) (query : String)
  | attr (keys : List String)
  | attrAll (keys : List String)
  | text
  | textAll
  /-- The markup of an element. -/
  | raw
  | rawAll
  | attrsMap
  | attrsMapAll
  /-- The item at an index; negative ones count from the end. -/
  | index (i : Int)
  | join (separator : String)
  | toLen
  | unique (keepOrder : Bool)
  | filter (predicate : TextPredicate)
  | filterElements (predicate : ElementPredicate)
  | strip (kind : Stripping) (piece : String)
  | replace (old new : String)
  | replaceMap (table : List (String × String))
  | format (template : String)
  | split (separator : String)
  | unescape
  /-- The text of a group in the first match. -/
  | regex (pattern : Pattern) (group : Nat)
  | regexAll (pattern : Pattern)
  | regexSub (pattern : Pattern) (replacement : String)
  | toInt
  | toListInt
  | toFloat
  | toListFloat
  | toBool
  | isEqual (value : Literal) (message : String)
  | isNotEqual (value : Literal) (message : String)
  | isContains (value : Literal) (message : String)
  | isFound (dialect : Dialect) (query message : String)
  | isMatch (scope : MatchScope) (source : String) (ignoreCase : Bool) (message : String)
  | hasAttr (key message : String)
  | hasListAttr (key message : String)
  /-- The result of another schema; the target is its place in the program. -/
  | nested (schema : String) (target : Option Nat)
  /-- JSON of a declared shape, at the end of a path. -/
  | jsonify (shape start : String) (isArray : Bool)
  /-- JSON of any shape. -/
  | jsonifyDynamic (start : String)
  /-- The result of the chain. -/
  | result
  | noResult
  /-- The call of a function of the same parser. -/
  | call (function : String)
  deriving Inhabited

namespace Operation

/-- The name of the operation in programs. -/
def name : Operation → String
  | default _ => "DEFAULT"
  | select .css _ => "CSS"
  | select .xpath _ => "XPATH"
  | selectAll .css _ => "CSS_ALL"
  | selectAll .xpath _ => "XPATH_ALL"
  | remove .css _ => "CSS_REMOVE"
  | remove .xpath _ => "XPATH_REMOVE"
  | attr _ => "ATTR"
  | attrAll _ => "ATTR_ALL"
  | text => "TEXT"
  | textAll => "TEXT_ALL"
  | raw => "RAW"
  | rawAll => "RAW_ALL"
  | attrsMap => "ATTRS_MAP"
  | attrsMapAll => "ATTRS_MAP_ALL"
  | index _ => "INDEX"
  | join _ => "JOIN"
  | toLen => "TO_LEN"
  | unique _ => "UNIQUE"
  | filter _ => "FILTER"
  | filterElements _ => "DOCUMENT_FILTER"
  | strip kind _ => kind.name
  | replace .. => "REPLACE"
  | replaceMap _ => "REPLACE_MAP"
  | format _ => "FORMAT"
  | split _ => "SPLIT"
  | unescape => "UNESCAPE"
  | regex .. => "REGEX"
  | regexAll _ => "REGEX_ALL"
  | regexSub .. => "REGEX_SUB"
  | toInt => "TO_INT"
  | toListInt => "TO_LIST_INT"
  | toFloat => "TO_FLOAT"
  | toListFloat => "TO_LIST_FLOAT"
  | toBool => "TO_BOOL"
  | isEqual .. => "IS_EQUAL"
  | isNotEqual .. => "IS_NOT_EQUAL"
  | isContains .. => "IS_CONTAINS"
  | isFound .css _ _ => "IS_CSS"
  | isFound .xpath _ _ => "IS_XPATH"
  | isMatch .one _ _ _ => "IS_REGEX"
  | isMatch .any _ _ _ => "ANY_IS_REGEX"
  | isMatch .all _ _ _ => "ALL_IS_REGEX"
  | hasAttr .. => "HAS_ATTR"
  | hasListAttr .. => "HAS_LIST_ATTR"
  | nested .. => "NESTED"
  | jsonify .. => "JSONIFY"
  | jsonifyDynamic _ => "JSONIFY_DYNAMIC"
  | result => "RETURN"
  | noResult => "NO_RETURN"
  | call _ => "CALL_STRUCT_FUNCTION"

/-- The method that adds the operation to a chain. -/
def method : Operation → String
  | default _ => "default"
  | select .css _ => "css"
  | select .xpath _ => "xpath"
  | selectAll .css _ => "css_all"
  | selectAll .xpath _ => "xpath_all"
  | remove .css _ => "css_remove"
  | remove .xpath _ => "xpath_remove"
  | attr _ | attrAll _ => "attr"
  | text | textAll => "text"
  | raw | rawAll => "raw"
  | attrsMap | attrsMapAll => "attrs_map"
  | index _ => "index"
  | join _ => "join"
  | toLen => "to_len"
  | unique _ => "unique"
  | filter _ | filterElements _ => "filter"
  | strip kind _ => kind.method
  | replace .. => "repl"
  | replaceMap _ => "repl_map"
  | format _ => "fmt"
  | split _ => "split"
  | unescape => "unescape"
  | regex .. => "re"
  | regexAll _ => "re_all"
  | regexSub .. => "re_sub"
  | toInt | toListInt => "to_int"
  | toFloat | toListFloat => "to_float"
  | toBool => "to_bool"
  | isEqual .. => "is_equal"
  | isNotEqual .. => "is_not_equal"
  | isContains .. => "is_contains"
  | isFound .css _ _ => "is_css"
  | isFound .xpath _ _ => "is_xpath"
  | isMatch scope _ _ _ => scope.method
  | hasAttr .. | hasListAttr .. => "has_attr"
  | nested .. => "sub_parser"
  | jsonify .. => "jsonify"
  | jsonifyDynamic _ => "jsonify_dynamic"
  | result => "return"
  | noResult => "no_return"
  | call _ => "call"

/-- Whether the operation is a default. -/
def isDefault : Operation → Bool
  | default _ => true
  | _ => false

/-- Whether the operation only asserts something and passes the value on. -/
def isAssertion : Operation → Bool
  | isEqual .. | isNotEqual .. | isContains .. | isFound .. | isMatch .. | hasAttr ..
  | hasListAttr .. => true
  | _ => false

/-- The query of the operation with its dialect. -/
def query? : Operation → Option (Dialect × String)
  | select dialect query | selectAll dialect query | remove dialect query
  | isFound dialect query _ => some (dialect, query)
  | _ => none

/-- The patterns of the operation. -/
def patterns : Operation → List String
  | regex pattern _ | regexAll pattern | regexSub pattern _ => [pattern.source]
  | isMatch _ source _ _ => [source]
  | filter predicate => predicate.patterns
  | filterElements predicate => predicate.patterns
  | _ => []

/-- The members of a pattern in a program. -/
def flagMembers (p : Pattern) : List (String × Json) :=
  [("ignore_case", .bool p.ignoreCase), ("dotall", .bool p.dotAll)]

/-- The arguments of the operation in a program. -/
def arguments : Operation → List (String × Json)
  | default value => [("value", value.toJson)]
  | select _ query | selectAll _ query | remove _ query => [("query", .str query)]
  | attr keys | attrAll keys => [("keys", .arr (keys.map .str))]
  | index i => [("index", .int i)]
  | join separator | split separator => [("sep", .str separator)]
  | unique keepOrder => [("keep_order", .bool keepOrder)]
  | filter predicate => [("predicate", predicate.toJson)]
  | filterElements predicate => [("predicate", predicate.toJson)]
  | strip _ piece => [("substr", .str piece)]
  | replace old new => [("old", .str old), ("new", .str new)]
  | replaceMap table => [("table", .obj (table.map fun (key, value) => (key, .str value)))]
  | format template => [("template", .str template)]
  | regex pattern group =>
      [("pattern", .str pattern.source), ("group", .int group)] ++ flagMembers pattern
  | regexAll pattern => ("pattern", .str pattern.source) :: flagMembers pattern
  | regexSub pattern replacement =>
      [("pattern", .str pattern.source), ("repl", .str replacement)] ++ flagMembers pattern
  | isEqual value message | isNotEqual value message | isContains value message =>
      [("value", value.toJson), ("msg", .str message)]
  | isFound _ query message => [("query", .str query), ("msg", .str message)]
  | isMatch _ source ignoreCase message =>
      [("pattern", .str source), ("ignore_case", .bool ignoreCase), ("msg", .str message)]
  | hasAttr key message | hasListAttr key message => [("key", .str key), ("msg", .str message)]
  | nested schema target =>
      ("schema", .str schema) :: match target with
        | some place => [("target", .int place)]
        | none => []
  | jsonify shape start isArray =>
      [("schema", .str shape), ("start", .str start), ("is_array", .bool isArray)]
  | jsonifyDynamic start => [("start", .str start)]
  | call function => [("name", .str function)]
  | text | textAll | raw | rawAll | attrsMap | attrsMapAll | toLen | unescape | toInt | toListInt
  | toFloat | toListFloat | toBool | result | noResult => []

end Operation

end Extractor
