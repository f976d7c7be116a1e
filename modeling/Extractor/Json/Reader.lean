import Extractor.Json.Value
import Extractor.Text.Numeric

/-!
# Extractor.Json.Reader

Reading JSON text, strictly: no comments, no trailing commas, no leading zeros,
no lone surrogate escapes, no number beyond the finite doubles, and a limit on
how deeply arrays and objects nest. Each reader takes the characters that are
left and gives back those behind what it has read.
-/

namespace Extractor.Json

/-- The white space of JSON. -/
def isSpace (c : Char) : Bool := c == ' ' || c == '\n' || c == '\t' || c == '\r'

/-- The text behind leading white space. -/
def skipSpace (cs : List Char) : List Char := cs.dropWhile isSpace

/-! ## strings -/

/-- The value of a hexadecimal digit. -/
def hexValue? (c : Char) : Option Nat :=
  if '0' ≤ c && c ≤ '9' then some (c.toNat - '0'.toNat)
  else if 'a' ≤ c && c ≤ 'f' then some (c.toNat - 'a'.toNat + 10)
  else if 'A' ≤ c && c ≤ 'F' then some (c.toNat - 'A'.toNat + 10)
  else none

/-- Four hexadecimal digits. -/
def readHex4? : List Char → Option (Nat × List Char)
  | a :: b :: c :: d :: rest => do
      let a ← hexValue? a
      let b ← hexValue? b
      let c ← hexValue? c
      let d ← hexValue? d
      return (((a * 16 + b) * 16 + c) * 16 + d, rest)
  | _ => none

/-- The character of a `\u` escape: one unit, or a high and a low surrogate together. -/
def readUnicodeEscape? (cs : List Char) : Option (Char × List Char) := do
  let (high, rest) ← readHex4? cs
  if 0xD800 ≤ high && high ≤ 0xDBFF then
    match rest with
    | '\\' :: 'u' :: rest =>
        let (low, rest) ← readHex4? rest
        if 0xDC00 ≤ low && low ≤ 0xDFFF then
          return (Char.ofNat (0x10000 + (high - 0xD800) * 1024 + (low - 0xDC00)), rest)
        else none
    | _ => none
  else if 0xDC00 ≤ high && high ≤ 0xDFFF then none
  else return (Char.ofNat high, rest)

/-- The character that stands behind a backslash. -/
def simpleEscape? : Char → Option Char
  | '"' => some '"'
  | '\\' => some '\\'
  | '/' => some '/'
  | 'b' => some '\x08'
  | 'f' => some '\x0c'
  | 'n' => some '\n'
  | 'r' => some '\r'
  | 't' => some '\t'
  | _ => none

/-- The characters up to the closing quote. The first argument bounds the number of steps and
exceeds the length of the text. -/
def readStringBody? : Nat → List Char → Option (List Char × List Char)
  | 0, _ => none
  | _ + 1, [] => none
  | _ + 1, '"' :: rest => some ([], rest)
  | fuel + 1, '\\' :: 'u' :: rest => do
      let (c, rest) ← readUnicodeEscape? rest
      let (cs, rest) ← readStringBody? fuel rest
      return (c :: cs, rest)
  | _ + 1, ['\\'] => none
  | fuel + 1, '\\' :: e :: rest => do
      let c ← simpleEscape? e
      let (cs, rest) ← readStringBody? fuel rest
      return (c :: cs, rest)
  | fuel + 1, c :: rest =>
      if c.toNat < 32 then none
      else do
        let (cs, rest) ← readStringBody? fuel rest
        return (c :: cs, rest)

/-- A string whose opening quote has been read. -/
def readString? (cs : List Char) : Option (String × List Char) :=
  (readStringBody? (cs.length + 1) cs).map fun (body, rest) => (String.ofList body, rest)

/-! ## numbers -/

/-- The digits at the start of the text, and the rest. -/
def spanDigits (cs : List Char) : List Char × List Char := cs.span Text.isAsciiDigit

/-- The value of a sequence of decimal digits. -/
def digitsValue (ds : List Char) : Nat :=
  ds.foldl (fun n c => n * 10 + (c.toNat - '0'.toNat)) 0

/-- The fraction of a number: its digits, none if there is no point. A point needs a digit. -/
def readFraction? : List Char → Option (List Char × List Char)
  | '.' :: rest =>
      let (ds, rest) := spanDigits rest
      if ds.isEmpty then none else some (ds, rest)
  | rest => some ([], rest)

/-- The digits of an exponent behind its sign. -/
def readExponentDigits? (negative : Bool) (cs : List Char) : Option (Option Int × List Char) :=
  let (ds, rest) := spanDigits cs
  if ds.isEmpty then none
  else
    let n : Int := digitsValue ds
    some (some (if negative then -n else n), rest)

/-- The exponent of a number, if it has one. -/
def readExponent? (cs : List Char) : Option (Option Int × List Char) :=
  match cs with
  | [] => some (none, cs)
  | c :: rest =>
      if c == 'e' || c == 'E' then
        match rest with
        | '+' :: rest => readExponentDigits? false rest
        | '-' :: rest => readExponentDigits? true rest
        | rest => readExponentDigits? false rest
      else some (none, cs)

/-- The value of a number without point and exponent: an integer if it fits 64 bits, signed or
unsigned, and is not a negative zero; otherwise a double. -/
def integerValue? (negative : Bool) (n : Nat) : Option Json :=
  if negative then
    if n == 0 || n > Nat.pow 2 63 then (Binary64.ofDecimal? true n 0).map .float
    else some (.int (-(n : Int)))
  else if n < Nat.pow 2 64 then some (.int n)
  else (Binary64.ofDecimal? false n 0).map .float

/-- A number whose sign has been read. -/
def readUnsigned? (negative : Bool) (cs : List Char) : Option (Json × List Char) := do
  let (whole, rest) := spanDigits cs
  if whole.isEmpty || (whole.length > 1 && whole.head? == some '0') then none
  else
    let (fraction, rest') ← readFraction? rest
    let (exponent, rest'') ← readExponent? rest'
    if fraction.isEmpty && exponent.isNone then
      let value ← integerValue? negative (digitsValue whole)
      return (value, rest'')
    else
      let power := exponent.getD 0 - fraction.length
      let value ← Binary64.ofDecimal? negative (digitsValue (whole ++ fraction)) power
      return (.float value, rest'')

/-! ## values -/

/-- What follows a given word. -/
def expect? : List Char → List Char → Option (List Char)
  | [], cs => some cs
  | _ :: _, [] => none
  | w :: word, c :: cs => if w = c then expect? word cs else none

mutual

/-- A value at the start of the text, white space before it allowed. `depth` arrays and objects may
still be entered; the first argument bounds the number of steps. -/
def readValue? : Nat → Nat → List Char → Option (Json × List Char)
  | 0, _, _ => none
  | fuel + 1, depth, cs =>
      match skipSpace cs with
      | 'n' :: rest => (expect? ['u', 'l', 'l'] rest).map (.null, ·)
      | 't' :: rest => (expect? ['r', 'u', 'e'] rest).map (.bool true, ·)
      | 'f' :: rest => (expect? ['a', 'l', 's', 'e'] rest).map (.bool false, ·)
      | '"' :: rest => (readString? rest).map fun (s, rest) => (.str s, rest)
      | '-' :: rest => readUnsigned? true rest
      | '[' :: rest =>
          match depth with
          | 0 => none
          | depth + 1 =>
              match skipSpace rest with
              | ']' :: rest => some (.arr [], rest)
              | rest => (readItems? fuel depth rest).map fun (items, rest) => (.arr items, rest)
      | '{' :: rest =>
          match depth with
          | 0 => none
          | depth + 1 =>
              match skipSpace rest with
              | '}' :: rest => some (.obj [], rest)
              | rest => (readMembers? fuel depth rest).map fun (members, rest) =>
                  (.obj (Keyed.collect members), rest)
      | rest => readUnsigned? false rest

/-- The items of an array and its closing bracket; there is at least one item. -/
def readItems? : Nat → Nat → List Char → Option (List Json × List Char)
  | 0, _, _ => none
  | fuel + 1, depth, cs => do
      let (item, rest) ← readValue? fuel depth cs
      match skipSpace rest with
      | ',' :: rest =>
          let (items, rest) ← readItems? fuel depth rest
          return (item :: items, rest)
      | ']' :: rest => return ([item], rest)
      | _ => none

/-- The members of an object and its closing brace; there is at least one member. -/
def readMembers? : Nat → Nat → List Char → Option (List (String × Json) × List Char)
  | 0, _, _ => none
  | fuel + 1, depth, cs => do
      match skipSpace cs with
      | '"' :: rest =>
          let (key, rest) ← readString? rest
          match skipSpace rest with
          | ':' :: rest =>
              let (value, rest) ← readValue? fuel depth rest
              match skipSpace rest with
              | ',' :: rest =>
                  let (members, rest) ← readMembers? fuel depth rest
                  return ((key, value) :: members, rest)
              | '}' :: rest => return ([(key, value)], rest)
              | _ => none
          | _ => none
      | _ => none

end

/-- Reads a whole text as one value in which at most `depth` arrays and objects nest. -/
def parse? (depth : Nat) (text : String) : Option Json :=
  let cs := text.toList
  match readValue? (cs.length + 1) depth cs with
  | some (value, rest) => if (skipSpace rest).isEmpty then some value else none
  | none => none

end Extractor.Json
