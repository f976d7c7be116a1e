import Extractor.BuildError
import Extractor.Css.StandIn
import Extractor.XPath.Grammar
import Extractor.XPath.OfCss

/-!
# Extractor.Query.Check

Which queries are accepted in which dialect, and the way from one dialect to
the other.
-/

namespace Extractor.Query

variable [Libraries]

/-- Accepts a list of CSS selectors. What is refused may be an XPath query. -/
def checkCss (query : String) : Except BuildError Unit :=
  if Css.accepts query then .ok ()
  else
    .error (.selector .css query .malformed (if XPath.accepts query then some .xpath else none))

/-- Accepts an XPath query, unless it is a CSS selector as well: written where XPath is wanted, such
a query is nearly always meant as CSS. -/
def checkXPath (query : String) : Except BuildError Unit :=
  match XPath.checkSyntax query with
  | .error e => .error (.selector .xpath query (.notXPath e) none)
  | .ok () =>
      if Css.accepts query then .error (.selector .xpath query .ambiguous (some .css)) else .ok ()

/-- Accepts a query of the given dialect. -/
def check : Dialect → String → Except BuildError Unit
  | .css => checkCss
  | .xpath => checkXPath

/-- The XPath query of a group of CSS selectors, each path led by the given text. -/
def cssToXPath (query lead : String) : Except BuildError String :=
  let cs := Text.trim query.toList
  match Css.readSelectors cs with
  | .ok selectors => .ok (String.ofList (XPath.ofSelectors lead.toList selectors))
  | .error refusal =>
      .error (.selector .css (String.ofList cs)
        (.noXPath refusal.obstacle (cs.length - refusal.left.length)) none)

/-- The CSS selectors of an XPath query. -/
def xpathToCss (query : String) : Except (Failure BuildError) String :=
  match XPath.selectorsOf query.toList with
  | .ok selectors => .ok (String.ofList selectors)
  | .error failure =>
      .error (failure.map fun obstacle => .selector .xpath query (.noCss obstacle) none)

end Extractor.Query
