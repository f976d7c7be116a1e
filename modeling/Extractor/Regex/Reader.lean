import Extractor.Regex.Size
import Extractor.Text.Alphabetic
import Extractor.Text.Blank
import Extractor.Text.Numeric
import Extractor.Text.Split

/-!
# Extractor.Regex.Reader

Reading a pattern. A text is refused without a reason: the caller only asks
whether a pattern is accepted. Readers return what they have read and the
characters that are left. In verbose patterns white space and comments are
skipped wherever `skipSpace` stands.
-/

namespace Extractor.Regex

/-! ## space -/

/-- Skips white space and comments, which run to the end of the line. -/
def skipTrivia (inComment : Bool) : List Char → List Char
  | [] => []
  | c :: cs =>
      if inComment then skipTrivia (c ≠ '\n') cs
      else if Text.isBlank c then skipTrivia false cs
      else if c = '#' then skipTrivia true cs
      else c :: cs

/-- Skips white space and comments in a verbose pattern. -/
def skipSpace (verbose : Bool) (cs : List Char) : List Char :=
  if verbose then skipTrivia false cs else cs

/-- The character behind white space. In a verbose pattern the first visible character behind a hash
sign counts, and where there is none the white space itself. -/
def peekSpace (verbose : Bool) (cs : List Char) : Option Char :=
  if verbose then (visible? false cs).or cs.head? else cs.head?
where
  /-- The first visible character, the first hash sign not counted. -/
  visible? (behindHash : Bool) : List Char → Option Char
    | [] => none
    | c :: cs =>
        if Text.isBlank c then visible? behindHash cs
        else if !behindHash && c = '#' then visible? true cs
        else some c

/-! ## escapes -/

/-- Whether the character has a meaning of its own outside sets, or may get one inside. -/
def isMeta (c : Char) : Bool := "\\.+*?()|[]\x7b\x7d^$#&-~".toList.contains c

/-- Whether a backslash before the character makes it a literal. -/
def isEscapable (c : Char) : Bool :=
  isMeta c || (c.toNat < 128 && !c.isAlphanum && c ≠ '<' && c ≠ '>')

/-- The value of a hexadecimal digit. -/
def hexDigit? (c : Char) : Option Nat :=
  if '0' ≤ c && c ≤ '9' then some (c.toNat - '0'.toNat)
  else if 'a' ≤ c && c ≤ 'f' then some (c.toNat - 'a'.toNat + 10)
  else if 'A' ≤ c && c ≤ 'F' then some (c.toNat - 'A'.toNat + 10)
  else none

/-- The character of a number, if it is one of a character. -/
def charOf? (n : Nat) : Option Char :=
  if n < 0xD800 || (0xDFFF < n && n < 0x110000) then some (Char.ofNat n) else none

/-- Reads a fixed number of hexadecimal digits. -/
def readHexDigits (verbose : Bool) : Nat → Nat → List Char → Option (Nat × List Char)
  | 0, value, cs => some (value, cs)
  | n + 1, value, c :: cs => do
      let d ← hexDigit? c
      readHexDigits verbose n (value * 16 + d) (skipSpace verbose cs)
  | _ + 1, _, [] => none

/-- Reads hexadecimal digits up to a closing brace. The first argument bounds their number. -/
def readHexBrace (verbose : Bool) : Nat → Option Nat → List Char → Option (Nat × List Char)
  | _, value, '\x7d' :: cs => value.map (·, skipSpace verbose cs)
  | fuel + 1, value, c :: cs => do
      let d ← hexDigit? c
      readHexBrace verbose fuel (some (value.getD 0 * 16 + d)) (skipSpace verbose cs)
  | _, _, _ => none

/-- Reads the number behind `\x`, `\u` or `\U`: so many digits, or any number of them in braces. -/
def readHex (verbose : Bool) (digits : Nat) (cs : List Char) : Option (Atom × List Char) :=
  match skipSpace verbose cs with
  | '\x7b' :: rest => do
      let rest := skipSpace verbose rest
      let (n, rest) ← readHexBrace verbose rest.length none rest
      return (.literal (← charOf? n) false, rest)
  | rest => do
      let (n, rest) ← readHexDigits verbose digits 0 rest
      return (.literal (← charOf? n) (digits = 2), rest)

/-- Reads up to a closing brace, white space left out. The first argument bounds the number of
characters. -/
def readBrace (verbose : Bool) : Nat → List Char → Option (List Char × List Char)
  | _, '\x7d' :: cs => some ([], cs)
  | fuel + 1, c :: cs => do
      let (body, rest) ← readBrace verbose fuel (skipSpace verbose cs)
      return (c :: body, rest)
  | _, _ => none

/-- What the text in the braces of a property asks for, and whether for the opposite. -/
def propertyQuery (body : List Char) : PropertyQuery × Bool :=
  match Text.splitFirst? ['!', '='] body with
  | some (property, value) => (.valued property value, true)
  | none =>
      match Text.splitFirst? [':'] body with
      | some (property, value) => (.valued property value, false)
      | none =>
          match Text.splitFirst? ['='] body with
          | some (property, value) => (.valued property value, false)
          | none => (.named body, false)

/-- Reads the property behind `\p` or `\P`: one letter, or a text in braces. -/
def readProperty (verbose negated : Bool) (cs : List Char) : Option (Atom × List Char) :=
  match skipSpace verbose cs with
  | [] => none
  | '\x7b' :: rest => do
      let rest := skipSpace verbose rest
      let (body, rest) ← readBrace verbose rest.length rest
      let (query, opposite) := propertyQuery body
      return (.property query (negated != opposite), rest)
  | '\\' :: _ => none
  | c :: rest => some (.property (.named [c]) negated, skipSpace verbose rest)

/-- Whether the character may stand in the name of a word boundary. -/
def isBoundaryPart (c : Char) : Bool := c.isAlpha || c = '-'

/-- Reads the name of a word boundary. The first argument bounds its length. -/
def readBoundaryName (verbose : Bool) : Nat → List Char → List Char × List Char
  | fuel + 1, c :: cs =>
      if isBoundaryPart c then
        let (name, rest) := readBoundaryName verbose fuel (skipSpace verbose cs)
        (c :: name, rest)
      else ([], c :: cs)
  | _, cs => ([], cs)

/-- The names of the word boundaries. -/
def boundaryNames : List String := ["start", "end", "start-half", "end-half"]

/-- Reads what may follow `\b`: the kind of boundary in braces. Braces that start otherwise are left
for a repetition. -/
def readBoundary (verbose : Bool) (cs : List Char) : Option (Atom × List Char) :=
  match cs with
  | '\x7b' :: inside =>
      let inside := skipSpace verbose inside
      if inside.isEmpty then none
      else
        let (name, rest) := readBoundaryName verbose inside.length inside
        if name.isEmpty then some (.assertion .boundary, cs)
        else match rest with
          | '\x7d' :: rest =>
              if boundaryNames.contains (String.ofList name) then some (.assertion .boundary, rest)
              else none
          | _ => none
  | _ => some (.assertion .boundary, cs)

/-- Reads an escape behind its backslash. -/
def readEscape (verbose : Bool) (cs : List Char) : Option (Atom × List Char) :=
  match cs with
  | [] => none
  | c :: rest =>
      match c with
      | 'x' => readHex verbose 2 rest
      | 'u' => readHex verbose 4 rest
      | 'U' => readHex verbose 8 rest
      | 'p' => readProperty verbose false rest
      | 'P' => readProperty verbose true rest
      | 'd' => some (.short .digit false, rest)
      | 'D' => some (.short .digit true, rest)
      | 's' => some (.short .space false, rest)
      | 'S' => some (.short .space true, rest)
      | 'w' => some (.short .word false, rest)
      | 'W' => some (.short .word true, rest)
      | 'a' => some (.literal '\x07' false, rest)
      | 'f' => some (.literal '\x0c' false, rest)
      | 't' => some (.literal '\t' false, rest)
      | 'n' => some (.literal '\n' false, rest)
      | 'r' => some (.literal '\r' false, rest)
      | 'v' => some (.literal '\x0b' false, rest)
      | 'A' => some (.assertion .textStart, rest)
      | 'z' => some (.assertion .textEnd, rest)
      | 'B' | '<' | '>' => some (.assertion .boundary, rest)
      | 'b' => readBoundary verbose rest
      | _ => if isEscapable c then some (.literal c false, rest) else none

/-- Reads an atom. -/
def readAtom (verbose : Bool) (cs : List Char) : Option (Atom × List Char) :=
  match cs with
  | [] => none
  | '\\' :: rest => readEscape verbose rest
  | '.' :: rest => some (.dot, rest)
  | '^' :: rest => some (.assertion .lineStart, rest)
  | '$' :: rest => some (.assertion .lineEnd, rest)
  | c :: rest => some (.literal c false, rest)

/-! ## sets -/

/-- The class of ASCII characters of a name. -/
def asciiClass? : String → Option Text.Ranges
  | "alnum" => some [(0x30, 0x39), (0x41, 0x5A), (0x61, 0x7A)]
  | "alpha" => some [(0x41, 0x5A), (0x61, 0x7A)]
  | "ascii" => some [(0x00, 0x7F)]
  | "blank" => some [(0x09, 0x09), (0x20, 0x20)]
  | "cntrl" => some [(0x00, 0x1F), (0x7F, 0x7F)]
  | "digit" => some [(0x30, 0x39)]
  | "graph" => some [(0x21, 0x7E)]
  | "lower" => some [(0x61, 0x7A)]
  | "print" => some [(0x20, 0x7E)]
  | "punct" => some [(0x21, 0x2F), (0x3A, 0x40), (0x5B, 0x60), (0x7B, 0x7E)]
  | "space" => some [(0x09, 0x0D), (0x20, 0x20)]
  | "upper" => some [(0x41, 0x5A)]
  | "word" => some [(0x30, 0x39), (0x41, 0x5A), (0x5F, 0x5F), (0x61, 0x7A)]
  | "xdigit" => some [(0x30, 0x39), (0x41, 0x46), (0x61, 0x66)]
  | _ => none

/-- Reads a class of ASCII characters behind its opening bracket, if there is one. -/
def readAsciiClass? (cs : List Char) : Option (ClassItem × List Char) :=
  match cs with
  | ':' :: '^' :: rest => named true rest
  | ':' :: rest => named false rest
  | _ => none
where
  /-- Reads the name and the end of the class. -/
  named (negated : Bool) (cs : List Char) : Option (ClassItem × List Char) :=
    let (name, rest) := cs.span (· ≠ ':')
    match rest with
    | ':' :: ']' :: rest =>
        (asciiClass? (String.ofList name)).map fun ranges => (.named ranges negated, rest)
    | _ => none

/-- Reads a character or an escape inside a set. -/
def readSetAtom (verbose : Bool) (cs : List Char) : Option (Atom × List Char) :=
  match cs with
  | [] => none
  | '\\' :: rest => readEscape verbose rest
  | c :: rest => some (.literal c false, rest)

/-- The literal between the ends of a range, if the atom is one. -/
def literal? : Atom → Option Char
  | .literal c _ => some c
  | _ => none

/-- Whether the atom may be a member of a set. -/
def isMember : Atom → Bool
  | .dot | .assertion _ => false
  | _ => true

/-- Reads a member of a set that is no class in brackets: a range, or a single atom. -/
def readRange (verbose : Bool) (cs : List Char) : Option (ClassItem × List Char) := do
  let (first, rest) ← readSetAtom verbose cs
  match skipSpace verbose rest with
  | [] => none
  | '-' :: behind =>
      let next := peekSpace verbose behind
      if next = some ']' || next = some '-' then
        if isMember first then some (.atom first, '-' :: behind) else none
      else
        let (last, rest) ← readSetAtom verbose (skipSpace verbose behind)
        let a ← literal? first
        let b ← literal? last
        if a ≤ b then some (.range first last, rest) else none
  | rest => if isMember first then some (.atom first, rest) else none

/-- Reads the dashes at the start of a set, which are literals. -/
def readDashes (verbose : Bool) : Nat → List Char → List ClassItem × List Char
  | fuel + 1, '-' :: cs =>
      let (items, rest) := readDashes verbose fuel (skipSpace verbose cs)
      (.atom (.literal '-' false) :: items, rest)
  | _, cs => ([], cs)

/-- Reads the start of a set behind its bracket: the negation, and literals that mean something else
further on. -/
def readSetStart (verbose : Bool) (cs : List Char) : Bool × List ClassItem × List Char :=
  let cs := skipSpace verbose cs
  let (negated, cs) := match cs with
    | '^' :: rest => (true, skipSpace verbose rest)
    | rest => (false, rest)
  let (dashes, cs) := readDashes verbose cs.length cs
  match dashes, cs with
  | [], ']' :: rest => (negated, [.atom (.literal ']' false)], skipSpace verbose rest)
  | _, _ => (negated, dashes, cs)

/-- The set so far: what stands left of the last operator, that operator, and the members behind
it. -/
def joinSet (left : Option (ClassSet × SetOperator)) (members : List ClassItem) : ClassSet :=
  match left with
  | some (set, operator) => .operation operator set (.union members.reverse)
  | none => .union members.reverse

mutual

/-- Reads a set behind its opening bracket. The first argument bounds the number of steps. -/
def readSet (verbose : Bool) : Nat → List Char → Option (Bool × ClassSet × List Char)
  | 0, _ => none
  | fuel + 1, cs => do
      let (negated, members, rest) := readSetStart verbose cs
      let (set, rest) ← readMembers verbose fuel none members.reverse rest
      return (negated, set, rest)

/-- Reads the members of a set up to its closing bracket; those read are in reverse. -/
def readMembers (verbose : Bool) :
    Nat → Option (ClassSet × SetOperator) → List ClassItem → List Char →
      Option (ClassSet × List Char)
  | 0, _, _, _ => none
  | fuel + 1, left, members, cs =>
      match skipSpace verbose cs with
      | [] => none
      | '[' :: rest =>
          match readAsciiClass? rest with
          | some (item, rest) => readMembers verbose fuel left (item :: members) rest
          | none => do
              let (negated, set, rest) ← readSet verbose fuel rest
              readMembers verbose fuel left (.bracketed negated set :: members) rest
      | ']' :: rest => some (joinSet left members, rest)
      | '&' :: '&' :: rest =>
          readMembers verbose fuel (some (joinSet left members, .intersection)) [] rest
      | '-' :: '-' :: rest =>
          readMembers verbose fuel (some (joinSet left members, .difference)) [] rest
      | '~' :: '~' :: rest =>
          readMembers verbose fuel (some (joinSet left members, .symmetricDifference)) [] rest
      | rest => do
          let (item, rest) ← readRange verbose rest
          readMembers verbose fuel left (item :: members) rest

end

/-! ## repetitions -/

/-- Reads digits. The first argument bounds their number. -/
def readDigits (verbose : Bool) : Nat → List Char → List Char × List Char
  | fuel + 1, c :: cs =>
      if Text.isAsciiDigit c then
        let (digits, rest) := readDigits verbose fuel (skipSpace verbose cs)
        (c :: digits, rest)
      else ([], c :: cs)
  | _, cs => ([], cs)

/-- Skips the white space behind a number. -/
def skipBlanks (verbose : Bool) : Nat → List Char → List Char
  | fuel + 1, c :: cs =>
      if Text.isBlank c then skipBlanks verbose fuel (skipSpace verbose cs) else c :: cs
  | _, cs => cs

/-- Reads a number of repetitions, which has 32 bits. -/
def readCount (verbose : Bool) (cs : List Char) : Option (Nat × List Char) :=
  let cs := cs.dropWhile Text.isBlank
  let (digits, rest) := readDigits verbose cs.length cs
  let value := digits.foldl (fun n c => n * 10 + (c.toNat - '0'.toNat)) 0
  if !digits.isEmpty && value < Nat.pow 2 32 then some (value, skipBlanks verbose rest.length rest)
  else none

/-- Reads the bounds of a repetition behind the opening brace, up to the closing one. -/
def readBounds (verbose : Bool) (cs : List Char) : Option (Nat × Option Nat × List Char) := do
  let (least, rest) ← readCount verbose (skipSpace verbose cs)
  match rest with
  | '\x7d' :: rest => return (least, some least, rest)
  | ',' :: rest =>
      match skipSpace verbose rest with
      | '\x7d' :: rest => return (least, none, rest)
      | rest =>
          let (most, rest) ← readCount verbose rest
          match rest with
          | '\x7d' :: rest => if least ≤ most then return (least, some most, rest) else none
          | _ => none
  | _ => none

/-- Skips the sign that makes a repetition lazy. -/
def skipLazy : List Char → List Char
  | '?' :: cs => cs
  | cs => cs

/-- Whether the part can be repeated. -/
def isRepeatable : Node → Bool
  | .flags _ => false
  | _ => true

/-- Puts a repetition in place of the last part. -/
def repeatLast (nodes : List Node) (least : Nat) (most : Option Nat) : Option (List Node) :=
  match nodes with
  | n :: ns => if isRepeatable n then some (.repetition n least most :: ns) else none
  | [] => none

/-! ## groups -/

/-- Reads the flags of a group up to the colon or the parenthesis, without passing it. -/
def readFlags (items : List FlagItem) : List Char → Option (List FlagItem × List Char)
  | [] => none
  | c :: cs =>
      if c = ':' || c = ')' then
        if items.getLast? = some .negation then none else some (items, c :: cs)
      else do
        let item ← if c = '-' then some .negation else (Flag.ofChar? c).map .flag
        if item ∈ items then none else readFlags (items ++ [item]) cs

/-- Whether the character may stand in the name of a group. -/
def isNamePart (first : Bool) (c : Char) : Bool :=
  if first then c = '_' || Text.isAlphabetic c
  else c = '_' || c = '.' || c = '[' || c = ']' || Text.isAlphanumeric c

/-- Reads the name of a group and the bracket behind it. -/
def readGroupName (cs : List Char) : Option (List Char × List Char) :=
  let (name, rest) := cs.span (· ≠ '>')
  match name, rest with
  | c :: others, '>' :: rest =>
      if isNamePart true c && others.all (isNamePart false) then some (name, rest) else none
  | _, _ => none

/-- The start of a group: flags for the rest of the group around it, or the kind of a new one. -/
inductive GroupStart where
  | flags (items : List FlagItem)
  | group (kind : GroupKind)
  deriving DecidableEq, Repr, Inhabited

/-- Reads the start of a group behind its parenthesis. Looking around is not supported. -/
def readGroupStart (verbose : Bool) (cs : List Char) : Option (GroupStart × List Char) :=
  match skipSpace verbose cs with
  | '?' :: '=' :: _ | '?' :: '!' :: _ | '?' :: '<' :: '=' :: _ | '?' :: '<' :: '!' :: _ => none
  | '?' :: 'P' :: '<' :: rest => named rest
  | '?' :: '<' :: rest => named rest
  | '?' :: rest => do
      let (items, rest) ← readFlags [] rest
      match rest with
      | ')' :: rest => if items.isEmpty then none else some (.flags items, rest)
      | _ :: rest => some (.group (.flags items), rest)
      | [] => none
  | rest => some (.group (.capture none), rest)
where
  /-- Reads the name of a group. -/
  named (cs : List Char) : Option (GroupStart × List Char) :=
    (readGroupName cs).map fun (name, rest) => (.group (.capture (some name)), rest)

mutual

/-- Reads alternatives up to a closing parenthesis or the end. The first argument bounds the number
of steps. -/
def readAlternatives : Nat → Bool → List Char → Option (Alternatives × List Char)
  | 0, _, _ => none
  | fuel + 1, verbose, cs => do
      let (nodes, verbose, rest) ← readNodes fuel verbose [] cs
      match rest with
      | '|' :: rest =>
          let (others, rest) ← readAlternatives fuel verbose rest
          return (nodes :: others, rest)
      | _ => return ([nodes], rest)

/-- Reads a concatenation up to a bar, a closing parenthesis or the end; the parts read are in
reverse. The result tells whether the pattern is verbose from there on. -/
def readNodes : Nat → Bool → List Node → List Char → Option (List Node × Bool × List Char)
  | 0, _, _, _ => none
  | fuel + 1, verbose, nodes, cs =>
      match skipSpace verbose cs with
      | [] => some (nodes.reverse, verbose, [])
      | '|' :: rest => some (nodes.reverse, verbose, '|' :: rest)
      | ')' :: rest => some (nodes.reverse, verbose, ')' :: rest)
      | '(' :: rest => do
          match ← readGroupStart verbose rest with
          | (.flags items, rest) =>
              readNodes fuel (flagAfter .verbose items verbose) (.flags items :: nodes) rest
          | (.group kind, rest) =>
              let (alternatives, rest) ←
                readAlternatives fuel (flagAfter .verbose kind.items verbose) rest
              match rest with
              | ')' :: rest => readNodes fuel verbose (.group kind alternatives :: nodes) rest
              | _ => none
      | '[' :: rest => do
          let (negated, set, rest) ← readSet verbose (2 * rest.length + 1) rest
          readNodes fuel verbose (.bracketed negated set :: nodes) rest
      | '?' :: rest => do
          let nodes ← repeatLast nodes 0 (some 1)
          readNodes fuel verbose nodes (skipLazy rest)
      | '*' :: rest => do
          let nodes ← repeatLast nodes 0 none
          readNodes fuel verbose nodes (skipLazy rest)
      | '+' :: rest => do
          let nodes ← repeatLast nodes 1 none
          readNodes fuel verbose nodes (skipLazy rest)
      | '\x7b' :: rest => do
          let (least, most, rest) ← readBounds verbose rest
          let nodes ← repeatLast nodes least most
          readNodes fuel verbose nodes (skipLazy (skipSpace verbose rest))
      | rest => do
          let (a, rest) ← readAtom verbose rest
          readNodes fuel verbose (.atom a :: nodes) rest

end

/-- Reads a pattern. -/
def read? (cs : List Char) : Option Alternatives := do
  let (alternatives, rest) ← readAlternatives (2 * cs.length + 2) false cs
  if rest.isEmpty then some alternatives else none

/-! ## acceptance -/

/-- The greatest depth that is accepted. -/
def depthLimit : Nat := 250

/-- The number of capturing groups of a pattern, if it is accepted. -/
def groups? (pattern : String) : Option Nat := do
  let alternatives ← read? pattern.toList
  if hasDistinctNames alternatives && depthOf alternatives ≤ depthLimit
      && hasMeaning alternatives && fits alternatives then
    some (capturesOfAlternatives alternatives).length
  else none

end Extractor.Regex
