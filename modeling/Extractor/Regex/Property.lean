import Extractor.Regex.Unicode.Age
import Extractor.Regex.Unicode.Break

/-!
# Extractor.Regex.Property

The Unicode properties that a pattern may ask for: binary properties, general
categories, scripts, and the properties that are asked for by value. Names are
compared loosely: case, spaces, dashes, underscores and a leading `is` do not
count. The characters are those of version 16 of Unicode.
-/

namespace Extractor.Regex

/-- The loose form of a name: ASCII in lower case, without separators and a leading `is`. -/
def looseName (name : List Char) : List Char :=
  let body := match name with
    | a :: b :: rest => if isLead a b then rest else name
    | rest => rest
  let loose := (body.filter fun c => c.toNat < 128 && c ≠ ' ' && c ≠ '_' && c ≠ '-').map
    Char.toLower
  if loose = ['c'] && body.length < name.length then ['i', 's', 'c'] else loose
where
  /-- Whether two characters spell `is`. -/
  isLead (a b : Char) : Bool := (a = 'i' || a = 'I') && (b = 's' || b = 'S')

/-- What a pattern asks of a character. -/
inductive PropertyQuery where
  | named (name : List Char)
  | valued (property value : List Char)
  deriving DecidableEq, Repr, Inhabited

/-- The characters with one of the properties that are asked for by value. -/
def valueChars? (property value : String) : Option Text.Ranges :=
  match property with
  | "generalcategory" | "gc" => Unicode.category? value
  | "script" | "sc" => Unicode.script? value
  | "scriptextensions" | "scx" => Unicode.scriptExtensions? value
  | "age" => Unicode.age? value
  | "graphemeclusterbreak" | "gcb" => Unicode.clusterBreaks.chars? value
  | "wordbreak" | "wb" => Unicode.wordBreaks.chars? value
  | "sentencebreak" | "sb" => Unicode.sentenceBreaks.chars? value
  | _ => none

/-- The characters with the property, if there is one of that name. -/
def PropertyQuery.chars? : PropertyQuery → Option Text.Ranges
  | named name =>
      let loose := String.ofList (looseName name)
      Unicode.binaryProperties.chars? loose <|> Unicode.category? loose <|> Unicode.script? loose
  | valued property value =>
      valueChars? (String.ofList (looseName property)) (String.ofList (looseName value))

end Extractor.Regex
