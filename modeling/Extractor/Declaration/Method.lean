import Extractor.Declaration.Arguments

/-!
# Extractor.Declaration.Method

The methods of the declaration language: which arguments each of them takes,
and which call on a chain or a filter it stands for.
-/

namespace Extractor.Declaration

open Taking

variable [Libraries]

/-- What a text is stripped of if nothing is given. -/
def defaultStrip : String := " "

/-- The call of a method that strips. Trimming goes without an argument. -/
def stripCall (kind : Stripping) : Taking Call := do
  match kind with
  | .trim | .trimLeft | .trimRight =>
      return .strip kind ((← string? 0 "substr").getD defaultStrip)
  | .removeStart | .removeEnd | .removeBoth => return .strip kind (← string 0 "substr")

/-- The assertion that a query finds something. -/
def foundCall (dialect : Dialect) : Taking Call := do
  let query ← string 0 "query"
  return .isFound dialect query (← message 1)

/-- The assertion that a pattern matches. -/
def matchCall (scope : MatchScope) : Taking Call := do
  let pattern ← string 0 "pattern"
  let ignoreCase ← flag 1 "ignore_case"
  return .isMatch scope pattern ignoreCase (← message 2)

/-- A comparison with a literal. -/
def comparisonCall (call : Literal → String → Call) : Taking Call := do
  let value ← literal 0 "value"
  return call value (← message 1)

/-- A filter. -/
def filterCall : Taking Call := do
  match ← required 0 "f" with
  | .textFilter f => return .filter f
  | .elementFilter f => return .filterElements f
  | other => wrongSort "f" .anyFilter other

/-- The call of a method on a chain, if there is such a method. -/
def chainCall? : String → Option (Taking Call)
  | "default" => some do return .default (← literal 0 "value")
  | "css" => some do return .select .css (← string 0 "query")
  | "css_all" => some do return .selectAll .css (← string 0 "query")
  | "xpath" => some do return .select .xpath (← string 0 "query")
  | "xpath_all" => some do return .selectAll .xpath (← string 0 "query")
  | "css_remove" => some do return .remove .css (← string 0 "query")
  | "xpath_remove" => some do return .remove .xpath (← string 0 "query")
  | "attr" => some do return .attr (← strings)
  | "text" => some (return .text)
  | "raw" => some (return .raw)
  | "attrs_map" => some (return .attrsMap)
  | "index" => some do return .index (← integer 0 "i")
  | "first" => some (return .index 0)
  | "last" => some (return .index (-1))
  | "join" => some do return .join (← string 0 "sep")
  | "to_len" => some (return .toLen)
  | "unique" => some do return .unique (← flag 0 "keep_order")
  | "filter" => some filterCall
  | "repl" => some do
    let old ← string 0 "old"
    return .replace old (← string 1 "new")
  | "repl_map" => some do return .replaceMap (← table 0 "replacements")
  | "fmt" => some do return .format (← string 0 "template")
  | "split" => some do return .split (← string 0 "sep")
  | "unescape" => some (return .unescape)
  | "re" => some do
    let pattern ← string 0 "pattern"
    let group := (← natural? 1 "group").getD 1
    let ignoreCase ← flag 2 "ignore_case"
    return .regex pattern group ignoreCase (← flag 3 "dotall")
  | "re_all" => some do
    let pattern ← string 0 "pattern"
    let ignoreCase ← flag 1 "ignore_case"
    return .regexAll pattern ignoreCase (← flag 2 "dotall")
  | "re_sub" => some do
    let pattern ← string 0 "pattern"
    let replacement := (← string? 1 "repl").getD ""
    let ignoreCase ← flag 2 "ignore_case"
    return .regexSub pattern replacement ignoreCase (← flag 3 "dotall")
  | "re_trim" => some do return .regexTrim (← string? 0 "pattern")
  | "to_int" => some (return .toInt)
  | "to_float" => some (return .toFloat)
  | "to_bool" => some (return .toBool)
  | "is_equal" => some (comparisonCall .isEqual)
  | "is_not_equal" => some (comparisonCall .isNotEqual)
  | "is_contains" => some (comparisonCall .isContains)
  | "is_css" => some (foundCall .css)
  | "is_xpath" => some (foundCall .xpath)
  | "is_regex" => some (matchCall .one)
  | "is_re" => some (matchCall .one)
  | "any_is_re" => some (matchCall .any)
  | "all_is_re" => some (matchCall .all)
  | "has_attr" => some do
    let key ← string 0 "key"
    return .hasAttr key (← message 1)
  | "sub_parser" => some do return .subParser (← schemaName 0 "schema")
  | "jsonify" => some do
    let shape ← schemaName 0 "schema"
    return .jsonify shape ((← string? 1 "start").getD "")
  | "jsonify_dynamic" => some do return .jsonifyDynamic ((← string? 0 "start").getD "")
  | method => (Stripping.ofMethod? method).map stripCall

/-- The methods of narrowing chains. -/
def narrowingMethods : List String :=
  ["css", "xpath", "is_css", "is_xpath", "has_attr", "sub_parser"]

/-- The methods that compare a length. -/
def lengthMethod? : String → Option Comparison
  | "len_eq" => some .eq
  | "len_ne" => some .ne
  | "len_lt" => some .lt
  | "len_le" => some .le
  | "len_gt" => some .gt
  | "len_ge" => some .ge
  | _ => none

/-- The call of a method on a filter of texts, if there is such a method. -/
def textFilterCall? (method : String) : Option (Taking TextFilter.Call) :=
  match method with
  | "re" => some do
    let pattern ← string 0 "pattern"
    return .pattern pattern (← flag 1 "ignore_case")
  | "and" => some do return .and (← textFilter 0 "other")
  | "or" => some do return .or (← textFilter 0 "other")
  | "not" => some do return .not (← textFilter 0 "other")
  | _ =>
      match ValueTest.ofWord? method, lengthMethod? method with
      | some test, _ => some do return .value test (← strings)
      | none, some comparison => some do return .length comparison (← natural 0 "len")
      | none, none => none

/-- The call of a method on a filter of elements, if there is such a method. -/
def elementFilterCall? (method : String) : Option (Taking ElementFilter.Call) :=
  match method with
  | "css" => some do return .finds .css (← string 0 "query")
  | "xpath" => some do return .finds .xpath (← string 0 "query")
  | "has_text" => some do return .hasText (← strings)
  | "has_raw" => some do return .hasRaw (← strings)
  | "has_attr" => some do return .hasAttribute (← strings)
  | "re_text" => some do
    let pattern ← string 0 "pattern"
    return .textPattern pattern (← flag 1 "ignore_case")
  | "re_raw" => some do
    let pattern ← string 0 "pattern"
    return .rawPattern pattern (← flag 1 "ignore_case")
  | "attr_re" => some do
    let key ← string 0 "key"
    let pattern ← string 1 "pattern"
    return .attributePattern key pattern (← flag 2 "ignore_case")
  | "and" => some do return .and (← elementFilter 0 "other")
  | "or" => some do return .or (← elementFilter 0 "other")
  | "not" => some do return .not (← elementFilter 0 "other")
  | _ => (AttributeTest.ofWord? method).map fun test => do
      let key ← string 0 "key"
      return .attributeValue test key (← strings)

/-! ## calls -/

/-- Why a call fails: a fault of the declaration, or a refusal by the chain or filter. -/
inductive CallError where
  | fault (f : Fault)
  | refused (e : BuildError)
  deriving DecidableEq, Repr, Inhabited

/-- The error at a place. -/
def CallError.at (p : Position) : CallError → ParseError
  | fault f => .invalid f p
  | refused e => .build e p

/-- Takes the arguments of a call and makes it. Arguments that are left over come last. -/
def perform {α β : Type} (method : String) (args : Arguments) (take : Taking α)
    (apply : α → Except BuildError β) : Except CallError β := do
  match take args with
  | .error f => throw (.fault (.arguments method f))
  | .ok (call, rest) =>
      match apply call with
      | .error e => throw (.refused e)
      | .ok result =>
          match rest.leftover? with
          | some f => throw (.fault (.arguments method f))
          | none => return result

/-- A chain that is being declared. -/
inductive OpenChain where
  | ordinary (d : Draft)
  /-- A chain that narrows the element another schema is applied to. -/
  | narrowing (d : Draft)
  /-- A chain that ends with another schema. -/
  | closed (chain : Chain)
  deriving Inhabited

/-- Whether the method ends a chain. -/
def endsChain (method : String) : Bool := method = "sub_parser"

/-- The chain behind a call of a method. -/
def OpenChain.call (chain : OpenChain) (method : String) (args : Arguments) :
    Except CallError OpenChain :=
  match chain with
  | .closed _ => .error (.fault (.afterSubParser method))
  | .ordinary d =>
      match chainCall? method with
      | none => .error (.fault (.unknownMethod method))
      | some take => do
          let d ← perform method args take d.apply
          return if endsChain method then .closed d.chain else .ordinary d
  | .narrowing d =>
      match narrowingMethods.contains method, chainCall? method with
      | true, some take => do
          let d ← perform method args take d.applyNarrowing
          return if endsChain method then .closed d.chain else .narrowing d
      | _, _ => .error (.fault (.notNarrowing method))

/-- The filter of texts behind a call of a method. -/
def callTextFilter (f : TextFilter) (method : String) (args : Arguments) :
    Except CallError TextFilter :=
  match textFilterCall? method with
  | some take => perform method args take f.apply
  | none => .error (.fault (.unknownFilterMethod method))

/-- The filter of elements behind a call of a method. -/
def callElementFilter (f : ElementFilter) (method : String) (args : Arguments) :
    Except CallError ElementFilter :=
  match elementFilterCall? method with
  | some take => perform method args take f.apply
  | none => .error (.fault (.unknownElementFilterMethod method))

end Extractor.Declaration
