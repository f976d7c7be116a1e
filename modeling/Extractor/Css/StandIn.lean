import Extractor.Css.Token
import Extractor.Libraries
import Extractor.Text.Blank
import Extractor.Text.Numeric

/-!
# Extractor.Css.StandIn

Pseudo-classes of a live browser, and pseudo-elements, are valid CSS but mean
nothing for a document at rest. Before a query is judged each of them is
replaced by `:root`, so that the rest of the selector is still checked.
-/

namespace Extractor.Css

/-- Pseudo-classes that depend on the state of a page. -/
def dynamicPseudoClasses : List String :=
  ["link", "visited", "any-link", "hover", "active", "focus", "focus-within", "focus-visible",
    "target", "enabled", "disabled", "checked", "indeterminate", "default", "valid", "invalid",
    "in-range", "out-of-range", "required", "optional", "read-only", "read-write",
    "placeholder-shown"]

/-- Pseudo-classes with an argument that depend on the language of a page. -/
def languagePseudoClasses : List String := ["lang", "dir"]

/-- Pseudo-elements behind two colons. -/
def pseudoElements : List String :=
  ["first-line", "first-letter", "before", "after", "selection", "placeholder", "marker"]

/-- Pseudo-elements that an older style writes behind a single colon. -/
def singleColonElements : List String := ["first-line", "first-letter", "before", "after"]

/-- Whether the character belongs to the name of a pseudo-class. -/
def isPseudoNamePart (c : Char) : Bool := Text.isAlphanumeric c || c == '-' || c == '_'

/-- Whether a pseudo-element may stand before this text: it ends the selector, or another
pseudo-class follows. -/
def endsSelector (cs : List Char) : Bool :=
  match cs.dropWhile Text.isBlank with
  | [] => true
  | c :: _ => c == ',' || c == ':'

/-- What follows the first closing parenthesis. -/
def afterParen? : List Char → Option (List Char)
  | [] => none
  | ')' :: cs => some cs
  | _ :: cs => afterParen? cs

/-- What follows a pseudo-element that is replaced, its colons having been read. -/
def standInElement? (names : List String) (cs : List Char) : Option (List Char) :=
  let rest := cs.dropWhile isPseudoNamePart
  let name := String.ofList (lower (cs.takeWhile isPseudoNamePart))
  if names.contains name && endsSelector rest then some rest else none

/-- What follows a pseudo-class that is replaced, its colon having been read. -/
def standInClass? (cs : List Char) : Option (List Char) :=
  let rest := cs.dropWhile isPseudoNamePart
  let name := String.ofList (lower (cs.takeWhile isPseudoNamePart))
  let opens := rest.head? == some '('
  if singleColonElements.contains name then standInElement? singleColonElements cs
  else if dynamicPseudoClasses.contains name && !opens then some rest
  else if languagePseudoClasses.contains name && opens then afterParen? rest
  else none

/-- What follows a pseudo-class or pseudo-element that is replaced, if one starts behind this
colon. -/
def standIn? : List Char → Option (List Char)
  | ':' :: cs => standInElement? pseudoElements cs
  | cs => standInClass? cs

/-- Replaces what has no meaning at rest by `:root`. Nothing inside quotes or square brackets is
replaced. The first argument bounds the number of steps; the length of the text is enough. -/
def replaceStandIns : Nat → Option Char → Nat → List Char → List Char
  | 0, _, _, cs => cs
  | _ + 1, _, _, [] => []
  | fuel + 1, some q, brackets, c :: cs =>
      c :: replaceStandIns fuel (if c = q then none else some q) brackets cs
  | fuel + 1, none, brackets, c :: cs =>
      if c = '"' || c = '\'' then c :: replaceStandIns fuel (some c) brackets cs
      else if c = '[' then c :: replaceStandIns fuel none (brackets + 1) cs
      else if c = ']' then c :: replaceStandIns fuel none (brackets - 1) cs
      else if c = ':' && brackets = 0 then
        match standIn? cs with
        | some rest => ":root".toList ++ replaceStandIns fuel none brackets rest
        | none => c :: replaceStandIns fuel none brackets cs
      else c :: replaceStandIns fuel none brackets cs

/-- The text with everything replaced that has no meaning at rest. -/
def withStandIns (cs : List Char) : List Char := replaceStandIns cs.length none 0 cs

/-- Whether the text is a list of selectors, those of a live browser included. -/
def accepts [Libraries] (query : String) : Bool :=
  Libraries.isSelectorList (withStandIns query.toList)

end Extractor.Css
