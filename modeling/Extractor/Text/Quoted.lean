import Extractor.Text.Printable

/-!
# Extractor.Text.Quoted

A text between double quotes, as messages, literals and declarations show it.
Quotes and backslashes are escaped, line breaks and tabs have short escapes,
and a character that is not printable or would attach to its neighbour is
written as its code point in hexadecimal.
-/

namespace Extractor.Text

/-- The code point in lower-case hexadecimal, without leading zeros. -/
def hexDigits (n : Nat) : List Char := Nat.toDigits 16 n

/-- A character written as its code point, such as `\u{301}`. -/
def codePointEscape (c : Char) : List Char :=
  ['\\', 'u', '{'] ++ hexDigits c.toNat ++ ['}']

/-- The written form of one character inside double quotes. -/
def escape (c : Char) : List Char :=
  if c = '\x00' then ['\\', '0']
  else if c = '\t' then ['\\', 't']
  else if c = '\r' then ['\\', 'r']
  else if c = '\n' then ['\\', 'n']
  else if c = '"' then ['\\', '"']
  else if c = '\\' then ['\\', '\\']
  else if isGraphemeExtend c then codePointEscape c
  else if isPrintable c then [c]
  else codePointEscape c

/-- The characters of a text between double quotes. -/
def quotedChars (cs : List Char) : List Char := '"' :: (cs.flatMap escape ++ ['"'])

/-- The string between double quotes. -/
def quoted (s : String) : String := String.ofList (quotedChars s.toList)

/-- A list of quoted strings between square brackets. -/
def quotedList (ss : List String) : String :=
  "[" ++ String.intercalate ", " (ss.map quoted) ++ "]"

end Extractor.Text
