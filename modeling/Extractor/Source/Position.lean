/-!
# Extractor.Source.Position

Places in a declaration text: lines and columns counted from one, in
characters. A line break ends its line.
-/

namespace Extractor

/-- A place in a text. -/
structure Position where
  line : Nat
  column : Nat
  deriving DecidableEq, Repr, Inhabited

namespace Position

/-- The place of the first character. -/
def start : Position := ⟨1, 1⟩

/-- The place behind a character. -/
def advance (p : Position) (c : Char) : Position :=
  if c = '\n' then ⟨p.line + 1, 1⟩ else ⟨p.line, p.column + 1⟩

/-- The place behind some characters. -/
def after (p : Position) (cs : List Char) : Position := cs.foldl advance p

/-- The place in words. -/
def text (p : Position) : String := s!"line {p.line}, column {p.column}"

end Position

end Extractor
