import Extractor.Text.Ranges

/-!
# Extractor.Text.Blank

White space as Unicode defines it, and trimming. Queries, attribute names and
docstrings are trimmed with these functions, which work on the characters of a
text; the versions on `String` wrap them.
-/

namespace Extractor.Text

/-! ## blank characters -/

/-- The code points with the property `White_Space`. -/
def blank : Ranges := [
  (0x9, 0xd), (0x20, 0x20), (0x85, 0x85), (0xa0, 0xa0), (0x1680, 0x1680), (0x2000, 0x200a),
  (0x2028, 0x2029), (0x202f, 0x202f), (0x205f, 0x205f), (0x3000, 0x3000)]

/-- Whether the character is white space. -/
def isBlank (c : Char) : Bool := blank.contains c

/-! ## trimming -/

/-- The text without leading blanks. -/
def trimStart (cs : List Char) : List Char := cs.dropWhile isBlank

/-- The text without trailing blanks. -/
def trimEnd (cs : List Char) : List Char := (cs.reverse.dropWhile isBlank).reverse

/-- The text without leading and trailing blanks. -/
def trim (cs : List Char) : List Char := trimEnd (trimStart cs)

/-- `trim` on strings. -/
def trimmed (s : String) : String := String.ofList (trim s.toList)

/-- `trimEnd` on strings. -/
def trimmedEnd (s : String) : String := String.ofList (trimEnd s.toList)

/-- Whether nothing is left of the string when it is trimmed. -/
def isBlankString (s : String) : Bool := s.toList.all isBlank

end Extractor.Text
