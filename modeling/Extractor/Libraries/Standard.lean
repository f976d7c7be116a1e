import Extractor.Css.Grammar
import Extractor.Json.Reader
import Extractor.Libraries
import Extractor.Number.DecimalText
import Extractor.Regex.Reader

/-!
# Extractor.Libraries.Standard

The libraries that the program runs with. No result depends on them unless it
says what it takes from them.
-/

namespace Extractor.Libraries

/-- How many arrays and objects may lie in each other in a JSON text. -/
def jsonDepth : Nat := 127

instance standard : Libraries where
  groups? := Regex.groups?
  isSelectorList := Css.isSelectorList
  readDecimal? := Decimal.parse?
  decimalChars := Decimal.chars
  readJson? := Json.parse? jsonDepth

end Extractor.Libraries
