import Extractor.Json.Value
import Extractor.Number.Decimal

/-!
# Extractor.Libraries

What the program takes from libraries: which patterns and which selectors are
accepted, and how decimals and JSON texts are read and written. All that follows
is about the program as a function of them.
-/

namespace Extractor

/-- The functions of libraries that the program calls. -/
class Libraries where
  /-- The number of capturing groups of a pattern, if it is accepted. -/
  groups? : String → Option Nat
  /-- Whether the text is a list of selectors of a document at rest. -/
  isSelectorList : List Char → Bool
  /-- The decimal that a text denotes. -/
  readDecimal? : List Char → Option Decimal
  /-- The characters of a decimal. -/
  decimalChars : Decimal → List Char
  /-- The value of a JSON text. -/
  readJson? : String → Option Json

/-- The text of a decimal. -/
def Decimal.text [Libraries] (d : Decimal) : String := String.ofList (Libraries.decimalChars d)

end Extractor
