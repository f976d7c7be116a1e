import Extractor.Css.Reader
import Extractor.Proofs.Characters
import Extractor.Proofs.Outcome
import Extractor.XPath.Predicate
import Mathlib.Data.List.Basic

/-!
# Extractor.Proofs.SelectorText

The text of selectors: single blanks around combinators and behind commas, none
elsewhere, and values in quotes of either kind (`GroupIsText`). A text of this
kind is read as the selectors that it was written from
(`Css.readSelectors_isText`), for which no name may need an escape (`IsReadable`).
The canonical text has double quotes where that is possible (`groupText`), and
`IsCanonical` says which selectors have no shorter text.
-/

namespace Extractor.Number

/-! ## numerals -/

/-- Decimal digits, at least one. -/
structure IsNumeral (ds : List Char) : Prop where
  ne_nil : ds ≠ []
  digits : ∀ c ∈ ds, Text.isAsciiDigit c = true

/-- The digits of a number are a numeral. -/
theorem isNumeral_toDigits (n : Nat) : IsNumeral (Nat.toDigits 10 n) :=
  ⟨Nat.toDigits_ne_nil, fun _ hc => Nat.isDigit_of_mem_toDigits (by decide) (by decide) hc⟩

/-- A numeral is read as the number that it denotes if that fits 64 bits, however many digits it
has. -/
theorem IsNumeral.unsigned64?_eq {ds : List Char} (h : IsNumeral ds) : unsigned64? ds =
    if Nat.ofDigitChars 10 ds 0 < Nat.pow 2 64 then some (Nat.ofDigitChars 10 ds 0) else none := by
  have hplus : ∀ rest, ds ≠ '+' :: rest := by
    rintro rest rfl
    have hdigit := h.digits '+' List.mem_cons_self
    contradiction
  have hvalue : ds.foldl (fun n c => n * 10 + (c.toNat - '0'.toNat)) 0 =
      Nat.ofDigitChars 10 ds 0 := by
    simp only [Nat.ofDigitChars, Nat.mul_comm]
  unfold unsigned64?
  split
  · next rest => exact absurd rfl (hplus rest)
  · simp only [hvalue]
    refine ite_congr (propext ?_) (fun _ => rfl) fun _ => rfl
    simp [List.all_eq_true.mpr h.digits, h.ne_nil]

/-- A number below the bound comes back from its digits. -/
theorem unsigned64?_toDigits {n : Nat} (h : n < Nat.pow 2 64) :
    unsigned64? (Nat.toDigits 10 n) = some n := by
  rw [(isNumeral_toDigits n).unsigned64?_eq, Nat.ofDigitChars_ten_toDigits, if_pos h]

end Extractor.Number

namespace Extractor.Css

/-! ## canonical text -/

/-- Whether a name can start with the character. -/
def isPlainStart (c : Char) : Bool := c.isAlpha || c = '_'

/-- Whether a name can go on with the character. -/
def isPlainChar (c : Char) : Bool := c.isAlphanum || c = '_' || c = '-'

/-- Names of elements and attributes: letters, digits, underscores and dashes in ASCII. -/
def isName : List Char → Bool
  | [] => false
  | c :: cs => isPlainStart c && cs.all isPlainChar

/-- Names of classes and identifiers may have a dash in front. -/
def isIdentifier : List Char → Bool
  | '-' :: cs => isName cs
  | cs => isName cs

/-- The quote around a value: the double one unless the value holds it. -/
def quoteOf (value : List Char) : Char := if '"' ∈ value then '\'' else '"'

/-- A value in quotes. -/
def valueText (value : List Char) : List Char := quoteOf value :: (value ++ [quoteOf value])

/-- A condition as it is written. -/
def Condition.text : Condition → List Char
  | hasClass name => '.' :: name
  | hasId name => '#' :: name
  | hasAttribute name => '[' :: (name ++ [']'])
  | attributeIs name operator value =>
      '[' :: (name ++ (operator.sign ++ (valueText value ++ [']'])))
  | firstChild => ":first-child".toList
  | lastChild => ":last-child".toList
  | onlyChild => ":only-child".toList
  | empty => ":empty".toList
  | nthChild n => ":nth-child(".toList ++ (Nat.toDigits 10 n ++ [')'])

/-- A compound selector as it is written. -/
def Compound.text (c : Compound) : List Char :=
  c.element.getD [] ++ c.conditions.flatMap Condition.text

/-- A combinator as it is written. -/
def Combinator.text : Combinator → List Char
  | descendant => " ".toList
  | child => " > ".toList
  | adjacent => " + ".toList
  | sibling => " ~ ".toList

/-- The tail of a complex selector as it is written. -/
def tailText (tail : List (Combinator × Compound)) : List Char :=
  tail.flatMap fun (combinator, compound) => combinator.text ++ compound.text

/-- A complex selector as it is written. -/
def Complex.text (s : Complex) : List Char := s.head.text ++ tailText s.tail

/-- A group of selectors as it is written. -/
def groupText (selectors : List Complex) : List Char :=
  ", ".toList.intercalate (selectors.map Complex.text)

/-! ## texts with quotes of either kind -/

/-- A text of the condition. Around a value there are quotes that it does not hold. -/
def Condition.IsText : Condition → List Char → Prop
  | attributeIs name operator value, text => ∃ quote ∈ ['"', '\''], quote ∉ value ∧
      text = '[' :: (name ++ (operator.sign ++ (quote :: (value ++ [quote]) ++ [']'])))
  | condition, text => text = condition.text

/-- A text of the conditions, one behind the other. -/
inductive ConditionsText : List Condition → List Char → Prop
  | nil : ConditionsText [] []
  | cons {condition conditions first rest} (hfirst : condition.IsText first)
      (hrest : ConditionsText conditions rest) :
      ConditionsText (condition :: conditions) (first ++ rest)

/-- A text of the compound selector. -/
def Compound.IsText (c : Compound) (text : List Char) : Prop :=
  ∃ rest, ConditionsText c.conditions rest ∧ text = c.element.getD [] ++ rest

/-- A text of the tail of a complex selector. -/
inductive TailIsText : List (Combinator × Compound) → List Char → Prop
  | nil : TailIsText [] []
  | cons {combinator compound tail first rest} (hfirst : compound.IsText first)
      (hrest : TailIsText tail rest) :
      TailIsText ((combinator, compound) :: tail) (combinator.text ++ (first ++ rest))

/-- A text of the complex selector. -/
def Complex.IsText (s : Complex) (text : List Char) : Prop :=
  ∃ first rest, s.head.IsText first ∧ TailIsText s.tail rest ∧ text = first ++ rest

/-- A text of a group of selectors, of which there is at least one. -/
inductive GroupIsText : List Complex → List Char → Prop
  | single {selector text} (h : selector.IsText text) : GroupIsText [selector] text
  | cons {selector selectors first rest} (hfirst : selector.IsText first)
      (hrest : GroupIsText selectors rest) :
      GroupIsText (selector :: selectors) (first ++ ", ".toList ++ rest)

/-! ## canonical selectors -/

/-- The condition can be written, and this is the shortest way to write it: a class or an identifier
is not tested like an attribute if `short` holds of the value. -/
def Condition.IsCanonical (short : List Char → Bool) : Condition → Prop
  | hasClass name | hasId name => isIdentifier name = true
  | hasAttribute name => isName name = true
  | attributeIs name operator value => isName name = true ∧ ¬('"' ∈ value ∧ '\'' ∈ value) ∧
      (operator = .word → Text.Unpadded value) ∧
      ¬(operator = .equals ∧ name = "id".toList ∧ short value = true) ∧
      ¬(operator = .word ∧ name = "class".toList ∧ short value = true)
  | firstChild | lastChild | onlyChild | empty => True
  | nthChild n => 2 ≤ n ∧ n < Nat.pow 2 64

instance (short : List Char → Bool) : (c : Condition) → Decidable (c.IsCanonical short)
  | .hasClass _ | .hasId _ | .hasAttribute _ => inferInstanceAs (Decidable (_ = true))
  | .attributeIs .. => inferInstanceAs (Decidable (_ ∧ _))
  | .firstChild | .lastChild | .onlyChild | .empty => inferInstanceAs (Decidable True)
  | .nthChild _ => inferInstanceAs (Decidable (_ ∧ _))

/-- The star alone. -/
def Compound.star : Compound := ⟨some ['*'], []⟩

/-- The star, or a name and conditions, of which at least one is there. -/
def Compound.IsCanonical (short : List Char → Bool) (c : Compound) : Prop :=
  c = .star ∨ (∀ name ∈ c.element, isName name = true) ∧ (c.element = none → c.conditions ≠ []) ∧
    ∀ condition ∈ c.conditions, condition.IsCanonical short

instance (short : List Char → Bool) (c : Compound) : Decidable (c.IsCanonical short) :=
  inferInstanceAs (Decidable (_ ∨ _))

/-- No star in front of other compound selectors, of which it would say nothing. -/
structure Complex.IsCanonical (short : List Char → Bool) (s : Complex) : Prop where
  head : s.head.IsCanonical short
  tail : ∀ compound ∈ s.tail.map Prod.snd, compound.IsCanonical short
  star : s.head = .star → s.tail = []

instance (short : List Char → Bool) (s : Complex) : Decidable (s.IsCanonical short) :=
  decidable_of_iff (_ ∧ _ ∧ _) ⟨fun ⟨hhead, htail, hstar⟩ => ⟨hhead, htail, hstar⟩,
    fun h => ⟨h.head, h.tail, h.star⟩⟩

/-! ## readable selectors -/

/-- A name that is written as it is: no character needs an escape, and no white space is around
it. -/
structure IsWritten (name : List Char) : Prop where
  ne_nil : name ≠ []
  parts : ∀ c ∈ name, Reader.isIdentPart c = true
  unpadded : Text.Unpadded name

/-- Whether the name of an element can start with the character. -/
def IsTypeStart (c : Char) : Prop := Text.isAlphabetic c = true ∨ c = '_'

/-- The name of an element, or a star. -/
def IsType (name : List Char) : Prop :=
  name = ['*'] ∨ IsWritten name ∧ ∀ c ∈ name.head?, IsTypeStart c

/-- The condition is read from its text. -/
def Condition.IsReadable : Condition → Prop
  | hasClass name | hasId name | hasAttribute name => IsWritten name
  | attributeIs name _ value => IsWritten name ∧ ¬('"' ∈ value ∧ '\'' ∈ value)
  | firstChild | lastChild | onlyChild | empty => True
  | nthChild n => 1 ≤ n ∧ n < Nat.pow 2 64

/-- The compound selector is read from its text. -/
structure Compound.IsReadable (c : Compound) : Prop where
  element : ∀ name ∈ c.element, IsType name
  nonempty : c.element = none → c.conditions ≠ []
  conditions : ∀ condition ∈ c.conditions, condition.IsReadable

/-- The complex selector is read from its text. -/
structure Complex.IsReadable (s : Complex) : Prop where
  head : s.head.IsReadable
  tail : ∀ compound ∈ s.tail.map Prod.snd, compound.IsReadable

/-! ## plain selectors -/

/-- The attribute that a condition names. -/
def Condition.attribute? : Condition → Option (List Char)
  | hasAttribute name | attributeIs name _ _ => some name
  | _ => none

/-- The condition keeps all it says when it is written: no name needs an escape, no value holds
quotes of both kinds, and no word has white space around it. -/
def Condition.IsPlain : Condition → Prop
  | hasClass value => ¬('"' ∈ value ∧ '\'' ∈ value) ∧ Text.Unpadded value
  | hasId value => ¬('"' ∈ value ∧ '\'' ∈ value)
  | hasAttribute name => IsWritten name
  | attributeIs name operator value => IsWritten name ∧ ¬('"' ∈ value ∧ '\'' ∈ value) ∧
      (operator = .word → Text.Unpadded value)
  | firstChild | lastChild | onlyChild | empty => True
  | nthChild n => 1 ≤ n ∧ n < Nat.pow 2 64

/-- A compound selector that keeps all it says. -/
structure Compound.IsPlain (c : Compound) : Prop where
  element : ∀ name ∈ c.element, IsType name
  nonempty : c.element = none → c.conditions ≠ []
  conditions : ∀ condition ∈ c.conditions, condition.IsPlain

/-- A complex selector that keeps all it says, with no star in front of other compound selectors. -/
structure Complex.IsPlain (s : Complex) : Prop where
  head : s.head.IsPlain
  tail : ∀ compound ∈ s.tail.map Prod.snd, compound.IsPlain
  star : s.head = .star → s.tail = []

/-! ## characters -/

theorem isPlainChar_of_isPlainStart {c : Char} (h : isPlainStart c = true) :
    isPlainChar c = true := by
  simp only [isPlainStart, isPlainChar, Char.isAlphanum, Bool.or_eq_true] at h ⊢
  tauto

/-- Plain names are in ASCII. -/
theorem toNat_lt_of_isPlainChar {c : Char} (h : isPlainChar c = true) : c.toNat < 128 := by
  have halphanum : c.isAlphanum = (decide (65 ≤ c.val ∧ c.val ≤ 90) ||
      (97 ≤ c.val && c.val ≤ 122) || (48 ≤ c.val && c.val ≤ 57)) := rfl
  simp only [isPlainChar, Bool.or_eq_true, decide_eq_true_eq] at h
  obtain (halnum | rfl) | rfl := h
  · simp only [halphanum, Bool.or_eq_true, Bool.and_eq_true, decide_eq_true_eq,
      UInt32.le_iff_toNat_le] at halnum
    change ((65 ≤ c.toNat ∧ c.toNat ≤ 90) ∨ (97 ≤ c.toNat ∧ c.toNat ≤ 122)) ∨
      (48 ≤ c.toNat ∧ c.toNat ≤ 57) at halnum
    omega
  · decide
  · decide

/-- What names are made of is in ASCII, so that a statement about it can be looked up. -/
theorem exists_ofNat_of_isPlainChar {c : Char} (h : isPlainChar c = true) :
    ∃ n < 128, c = Char.ofNat n :=
  ⟨c.toNat, toNat_lt_of_isPlainChar h, (Char.ofNat_toNat c).symm⟩

/-- What names are made of is part of a name for every reader, and no white space. -/
theorem of_isPlainChar {c : Char} (h : isPlainChar c = true) : Reader.isIdentPart c = true ∧
    XPath.Recogniser.isNamePart c = true ∧ Text.isBlank c = false := by
  obtain ⟨n, hn, rfl⟩ := exists_ofNat_of_isPlainChar h
  revert n
  decide

/-- A plain name starts with a letter or an underscore. -/
theorem isAlphabetic_of_isPlainStart {c : Char} (h : isPlainStart c = true) :
    Text.isAlphabetic c = true ∨ c = '_' := by
  obtain ⟨n, hn, rfl⟩ := exists_ofNat_of_isPlainChar (isPlainChar_of_isPlainStart h)
  revert n
  decide

/-- All characters of a name are plain. -/
theorem isPlainChar_of_isName {name : List Char} (h : isName name = true) :
    ∀ c ∈ name, isPlainChar c = true := by
  cases name with
  | nil => contradiction
  | cons c cs =>
      rw [isName, Bool.and_eq_true, List.all_eq_true] at h
      exact List.forall_mem_cons.mpr ⟨isPlainChar_of_isPlainStart h.1, h.2⟩

/-- A name is an identifier; an identifier may also start with a digit. -/
theorem isIdentifier_of_isName {name : List Char} (h : isName name = true) :
    isIdentifier name = true := by
  unfold isIdentifier
  split
  · exact absurd h (by simp [isName, isPlainStart])
  · exact h

/-- All characters of an identifier are plain. -/
theorem isPlainChar_of_isIdentifier {name : List Char} (h : isIdentifier name = true) :
    ∀ c ∈ name, isPlainChar c = true := by
  unfold isIdentifier at h
  split at h
  · exact List.forall_mem_cons.mpr ⟨by decide, isPlainChar_of_isName h⟩
  · exact isPlainChar_of_isName h

/-- Identifiers can be written as they are. -/
theorem isWritten_of_isIdentifier {name : List Char} (h : isIdentifier name = true) :
    IsWritten name where
  ne_nil := by
    rintro rfl
    contradiction
  parts c hc := (of_isPlainChar (isPlainChar_of_isIdentifier h c hc)).1
  unpadded := Text.unpadded_of_forall fun c hc =>
    (of_isPlainChar (isPlainChar_of_isIdentifier h c hc)).2.2

theorem isWritten_of_isName {name : List Char} (h : isName name = true) : IsWritten name :=
  isWritten_of_isIdentifier (isIdentifier_of_isName h)

/-- A name can be written as a type. -/
theorem isType_of_isName {name : List Char} (h : isName name = true) : IsType name := by
  refine .inr ⟨isWritten_of_isName h, ?_⟩
  cases name with
  | nil => nofun
  | cons c name =>
      rw [isName, Bool.and_eq_true] at h
      exact fun d hd => Option.some.inj hd ▸ isAlphabetic_of_isPlainStart h.1

/-- What is canonical can be read, for conditions, compounds and selectors. -/
theorem Condition.IsCanonical.isReadable {short : List Char → Bool} {condition : Condition}
    (h : condition.IsCanonical short) : condition.IsReadable := by
  cases condition with
  | hasClass name => exact isWritten_of_isIdentifier h
  | hasId name => exact isWritten_of_isIdentifier h
  | hasAttribute name => exact isWritten_of_isName h
  | attributeIs name operator value => exact ⟨isWritten_of_isName h.1, h.2.1⟩
  | firstChild | lastChild | onlyChild | empty => trivial
  | nthChild n => exact ⟨Nat.le_of_succ_le h.1, h.2⟩

theorem Compound.IsCanonical.isReadable {short : List Char → Bool} {compound : Compound}
    (h : compound.IsCanonical short) : compound.IsReadable := by
  obtain rfl | ⟨hname, hsome, hconditions⟩ := h
  · exact ⟨fun name hname => .inl (Option.some.inj hname).symm, nofun, nofun⟩
  · exact ⟨fun name hmem => isType_of_isName (hname name hmem), hsome,
      fun condition hmem => (hconditions condition hmem).isReadable⟩

theorem Complex.IsCanonical.isReadable {short : List Char → Bool} {selector : Complex}
    (h : selector.IsCanonical short) : selector.IsReadable :=
  ⟨h.head.isReadable, fun compound hmem => (h.tail compound hmem).isReadable⟩

/-- A name that needs no escape holds no quotes. -/
theorem IsWritten.quotes {name : List Char} (h : IsWritten name) :
    ¬('"' ∈ name ∧ '\'' ∈ name) := by
  rintro ⟨hdouble, -⟩
  have hpart := h.parts '"' hdouble
  contradiction

/-- What is canonical is plain, for conditions, compounds and selectors. -/
theorem Condition.IsCanonical.isPlain {short : List Char → Bool} {condition : Condition}
    (h : condition.IsCanonical short) : condition.IsPlain := by
  cases condition with
  | hasClass name =>
      have hname := isWritten_of_isIdentifier h
      exact ⟨hname.quotes, hname.unpadded⟩
  | hasId name => exact (isWritten_of_isIdentifier h).quotes
  | hasAttribute name => exact isWritten_of_isName h
  | attributeIs name operator value => exact ⟨isWritten_of_isName h.1, h.2.1, h.2.2.1⟩
  | firstChild | lastChild | onlyChild | empty => trivial
  | nthChild n => exact ⟨Nat.le_of_succ_le h.1, h.2⟩

theorem Compound.IsCanonical.isPlain {short : List Char → Bool} {compound : Compound}
    (h : compound.IsCanonical short) : compound.IsPlain := by
  obtain rfl | ⟨hname, hsome, hconditions⟩ := h
  · exact ⟨fun name hname => .inl (Option.some.inj hname).symm, nofun, nofun⟩
  · exact ⟨fun name hmem => isType_of_isName (hname name hmem), hsome,
      fun condition hmem => (hconditions condition hmem).isPlain⟩

theorem Complex.IsCanonical.isPlain {short : List Char → Bool} {selector : Complex}
    (h : selector.IsCanonical short) : selector.IsPlain :=
  ⟨h.head.isPlain, fun compound hmem => (h.tail compound hmem).isPlain, h.star⟩

/-- A type does not start with white space. -/
theorem IsTypeStart.isBlank {c : Char} (h : IsTypeStart c) : Text.isBlank c = false := by
  obtain hletter | rfl := h
  · by_contra hblank
    have halphanumeric := Text.isAlphanumeric_of_isBlank (Bool.not_eq_false _ ▸ hblank)
    rw [Text.isAlphanumeric, hletter] at halphanumeric
    contradiction
  · decide

theorem isPlainChar_of_isAsciiDigit {c : Char} (h : Text.isAsciiDigit c = true) :
    isPlainChar c = true := by
  have hdigit : c.isDigit = true := h
  simp [isPlainChar, Char.isAlphanum, hdigit]

theorem isPlainChar_toDigits (n : Nat) : ∀ c ∈ Nat.toDigits 10 n, isPlainChar c = true :=
  fun c hc => isPlainChar_of_isAsciiDigit ((Number.isNumeral_toDigits n).digits c hc)

/-- The quote chosen for a text does not stand in it. -/
theorem quoteOf_not_mem {value : List Char} (h : ¬('"' ∈ value ∧ '\'' ∈ value)) :
    quoteOf value ∉ value := by
  unfold quoteOf
  split
  · next hdouble => exact fun hsingle => h ⟨hdouble, hsingle⟩
  · next hdouble => exact hdouble

/-- A condition starts with one of four signs. -/
theorem Condition.text_head (condition : Condition) :
    ∃ c cs, condition.text = c :: cs ∧ c ∈ ".#[:".toList := by
  cases condition <;> exact ⟨_, _, rfl, by decide⟩

/-- Every text of a condition starts with one of the four signs. -/
theorem Condition.IsText.head {condition : Condition} {text : List Char}
    (h : condition.IsText text) : ∃ c cs, text = c :: cs ∧ c ∈ ".#[:".toList := by
  cases condition with
  | attributeIs name operator value =>
      obtain ⟨quote, -, -, rfl⟩ := h
      exact ⟨'[', _, rfl, by decide⟩
  | _ =>
      obtain rfl : text = _ := h
      exact text_head _

/-- What a compound selector can start with. -/
def Leads (c : Char) : Prop := IsTypeStart c ∨ c ∈ "*.#[:".toList

/-- Where a compound starts there is no white space. -/
theorem Leads.isBlank {c : Char} (h : Leads c) : Text.isBlank c = false := by
  have hall : ∀ c ∈ "*.#[:".toList, Text.isBlank c = false := Text.forall_mem_of_all (by decide)
  obtain hname | hsign := h
  · exact hname.isBlank
  · exact hall c hsign

/-- No compound starts with a comma or with a combinator. -/
theorem Leads.not_mem {c : Char} (h : Leads c) : c ∉ ",>+~".toList := by
  have hall : ∀ c ∈ ",>+~".toList, (Text.isAlphabetic c = false ∧ c ≠ '_') ∧ c ∉ "*.#[:".toList :=
    Text.forall_mem_of_all (by decide)
  intro hmem
  obtain ⟨⟨hletter, hunderscore⟩, hsign⟩ := hall c hmem
  obtain (h | h) | h := h
  · rw [h] at hletter
    cases hletter
  · exact hunderscore h
  · exact hsign h

/-- A text of a compound starts as a compound does. -/
theorem Compound.IsText.head {compound : Compound} {text : List Char} (htext : compound.IsText text)
    (h : compound.IsReadable) : ∃ c cs, text = c :: cs ∧ Leads c := by
  obtain ⟨element, conditions⟩ := compound
  obtain ⟨rest, hconditions, rfl⟩ := htext
  cases element with
  | some name =>
      obtain rfl | ⟨hwritten, hstart⟩ := h.element name rfl
      · exact ⟨'*', _, rfl, .inr (by decide)⟩
      · cases name with
        | nil => exact absurd rfl hwritten.ne_nil
        | cons c name => exact ⟨c, _, rfl, .inl (hstart c rfl)⟩
  | none =>
      cases hconditions with
      | nil => exact absurd rfl (h.nonempty rfl)
      | cons hfirst _ =>
          obtain ⟨c, cs, rfl, hc⟩ := hfirst.head
          have hall : ∀ c ∈ ".#[:".toList, c ∈ "*.#[:".toList :=
            Text.forall_mem_of_all (by decide)
          exact ⟨c, _, rfl, .inr (hall c hc)⟩

/-! ## the canonical text is a text -/

/-- The canonical text is one of the texts of a condition, and so on up to groups. -/
theorem Condition.isText_text {condition : Condition} (h : condition.IsReadable) :
    condition.IsText condition.text := by
  cases condition with
  | attributeIs name operator value =>
      refine ⟨quoteOf value, ?_, quoteOf_not_mem h.2, rfl⟩
      unfold quoteOf
      split <;> simp
  | _ => rfl

theorem conditionsText_flatMap {conditions : List Condition}
    (h : ∀ condition ∈ conditions, condition.IsReadable) :
    ConditionsText conditions (conditions.flatMap Condition.text) := by
  induction conditions with
  | nil => exact .nil
  | cons condition conditions ih =>
      obtain ⟨hcondition, hconditions⟩ := List.forall_mem_cons.mp h
      exact .cons (Condition.isText_text hcondition) (ih hconditions)

theorem Compound.isText_text {compound : Compound} (h : compound.IsReadable) :
    compound.IsText compound.text :=
  ⟨_, conditionsText_flatMap h.conditions, rfl⟩

theorem tailIsText_tailText {tail : List (Combinator × Compound)}
    (h : ∀ compound ∈ tail.map Prod.snd, compound.IsReadable) :
    TailIsText tail (tailText tail) := by
  induction tail with
  | nil => exact .nil
  | cons step tail ih =>
      obtain ⟨combinator, compound⟩ := step
      obtain ⟨hcompound, htail⟩ := List.forall_mem_cons.mp h
      have htext : tailText ((combinator, compound) :: tail) =
          combinator.text ++ (compound.text ++ tailText tail) := by simp [tailText]
      rw [htext]
      exact .cons (Compound.isText_text hcompound) (ih htail)

theorem Complex.isText_text {selector : Complex} (h : selector.IsReadable) :
    selector.IsText selector.text :=
  ⟨_, _, Compound.isText_text h.head, tailIsText_tailText h.tail, rfl⟩

theorem groupIsText_groupText {selectors : List Complex} (hne : selectors ≠ [])
    (h : ∀ selector ∈ selectors, selector.IsReadable) :
    GroupIsText selectors (groupText selectors) := by
  induction selectors with
  | nil => contradiction
  | cons selector selectors ih =>
      obtain ⟨hselector, hselectors⟩ := List.forall_mem_cons.mp h
      cases selectors with
      | nil =>
          rw [groupText, List.map_singleton, List.intercalate_singleton]
          exact .single (Complex.isText_text hselector)
      | cons next selectors =>
          rw [groupText, List.map_cons, List.map_cons, List.intercalate_cons_cons]
          exact .cons (Complex.isText_text hselector) (ih (by simp) hselectors)

theorem Compound.text_head {compound : Compound} (h : compound.IsReadable) :
    ∃ c cs, compound.text = c :: cs ∧ Leads c :=
  (isText_text h).head h

/-! ## ends -/

/-- A name can be told from what is behind it: it ends in no white space. -/
theorem IsWritten.ended {name : List Char} (h : IsWritten name) : Text.Ended name := by
  have hlast := List.getLast?_eq_some_getLast h.ne_nil
  exact ⟨name.dropLast, name.getLast h.ne_nil, (List.dropLast_concat_getLast h.ne_nil).symm,
    h.unpadded.2 _ hlast⟩

theorem IsType.ended {name : List Char} (h : IsType name) : Text.Ended name := by
  obtain rfl | ⟨hwritten, -⟩ := h
  · exact ⟨[], '*', rfl, by decide⟩
  · exact hwritten.ended

/-- Each text of a condition ends in no white space. -/
theorem Condition.IsText.ended {condition : Condition} {text : List Char}
    (htext : condition.IsText text) (h : condition.IsReadable) : Text.Ended text := by
  have hlast : ∀ c ∈ "]d)y".toList, Text.Ended [c] := by
    have hall : ∀ c ∈ "]d)y".toList, Text.isBlank c = false := Text.forall_mem_of_all (by decide)
    exact fun c hc => ⟨[], c, rfl, hall c hc⟩
  cases condition with
  | attributeIs name operator value =>
      obtain ⟨quote, -, -, rfl⟩ := htext
      have hvalue := (hlast ']' (by decide)).append (quote :: (value ++ [quote]))
      exact .cons '[' ((hvalue.append operator.sign).append name)
  | hasClass name =>
      obtain rfl : text = _ := htext
      exact (IsWritten.ended h).cons '.'
  | hasId name =>
      obtain rfl : text = _ := htext
      exact (IsWritten.ended h).cons '#'
  | hasAttribute name =>
      obtain rfl : text = _ := htext
      exact .cons '[' ((hlast ']' (by decide)).append name)
  | firstChild =>
      obtain rfl : text = _ := htext
      exact (hlast 'd' (by decide)).append ":first-chil".toList
  | lastChild =>
      obtain rfl : text = _ := htext
      exact (hlast 'd' (by decide)).append ":last-chil".toList
  | onlyChild =>
      obtain rfl : text = _ := htext
      exact (hlast 'd' (by decide)).append ":only-chil".toList
  | empty =>
      obtain rfl : text = _ := htext
      exact (hlast 'y' (by decide)).append ":empt".toList
  | nthChild n =>
      obtain rfl : text = _ := htext
      exact ((hlast ')' (by decide)).append (Nat.toDigits 10 n)).append _

/-- Conditions behind a text that ends without white space end so, too. -/
theorem ConditionsText.ended {conditions : List Condition} {front rest : List Char}
    (h : ConditionsText conditions rest) (hfront : Text.Ended front)
    (hreadable : ∀ condition ∈ conditions, condition.IsReadable) : Text.Ended (front ++ rest) := by
  induction h generalizing front with
  | nil => rwa [List.append_nil]
  | cons hfirst _ ih =>
      obtain ⟨hcondition, hconditions⟩ := List.forall_mem_cons.mp hreadable
      rw [← List.append_assoc]
      exact ih ((hfirst.ended hcondition).append front) hconditions

/-- The text of a compound ends in no white space, since a type or a condition is its last part. -/
theorem Compound.IsText.ended {compound : Compound} {text : List Char}
    (htext : compound.IsText text) (h : compound.IsReadable) : Text.Ended text := by
  obtain ⟨element, conditions⟩ := compound
  obtain ⟨rest, hconditions, rfl⟩ := htext
  cases element with
  | some name => exact hconditions.ended (h.element name rfl).ended h.conditions
  | none =>
      cases hconditions with
      | nil => exact absurd rfl (h.nonempty rfl)
      | cons hfirst hrest =>
          obtain ⟨hcondition, hothers⟩ := List.forall_mem_cons.mp h.conditions
          exact hrest.ended (hfirst.ended hcondition) hothers

/-- Compounds behind a text end as the text does, or as the last of them. -/
theorem TailIsText.ended {tail : List (Combinator × Compound)} {front rest : List Char}
    (h : TailIsText tail rest) (hfront : Text.Ended front)
    (hreadable : ∀ compound ∈ tail.map Prod.snd, compound.IsReadable) :
    Text.Ended (front ++ rest) := by
  induction h generalizing front with
  | nil => rwa [List.append_nil]
  | cons hfirst _ ih =>
      obtain ⟨hcompound, htail⟩ := List.forall_mem_cons.mp hreadable
      rw [← List.append_assoc, ← List.append_assoc]
      exact ih ((hfirst.ended hcompound).append _) htail

/-- Each text of a selector ends in no white space. -/
theorem Complex.IsText.ended {selector : Complex} {text : List Char}
    (htext : selector.IsText text) (h : selector.IsReadable) : Text.Ended text := by
  obtain ⟨front, rest, hhead, htail, rfl⟩ := htext
  exact htail.ended (hhead.ended h.head) h.tail

/-- Each text of a selector starts as its first compound. -/
theorem Complex.IsText.head {selector : Complex} {text : List Char}
    (htext : selector.IsText text) (h : selector.IsReadable) :
    ∃ c cs, text = c :: cs ∧ Leads c := by
  obtain ⟨front, rest, hhead, -, rfl⟩ := htext
  obtain ⟨c, cs, rfl, hc⟩ := hhead.head h.head
  exact ⟨c, cs ++ rest, rfl, hc⟩

theorem GroupIsText.ended {selectors : List Complex} {text : List Char}
    (htext : GroupIsText selectors text) (h : ∀ selector ∈ selectors, selector.IsReadable) :
    Text.Ended text := by
  induction htext with
  | single htext => exact htext.ended (h _ List.mem_cons_self)
  | cons _ _ ih => exact (ih (List.forall_mem_cons.mp h).2).append _

/-- A group has no white space around it. -/
theorem GroupIsText.unpadded {selectors : List Complex} {text : List Char}
    (htext : GroupIsText selectors text) (h : ∀ selector ∈ selectors, selector.IsReadable) :
    Text.Unpadded text := by
  refine (htext.ended h).unpadded ?_
  cases htext with
  | single htext =>
      obtain ⟨c, cs, rfl, hc⟩ := htext.head (h _ List.mem_cons_self)
      exact Text.unblank_cons hc.isBlank
  | cons hfirst _ =>
      obtain ⟨c, cs, rfl, hc⟩ := hfirst.head (h _ List.mem_cons_self)
      exact Text.unblank_cons hc.isBlank

theorem unpadded_of_isReadable {selectors : List Complex}
    (h : ∀ selector ∈ selectors, selector.IsReadable) : Text.Unpadded (groupText selectors) := by
  cases selectors with
  | nil => exact ⟨nofun, nofun⟩
  | cons selector selectors => exact (groupIsText_groupText (by simp) h).unpadded h

theorem unpadded_groupText {short : List Char → Bool} {selectors : List Complex}
    (h : ∀ selector ∈ selectors, selector.IsCanonical short) :
    Text.Unpadded (groupText selectors) :=
  unpadded_of_isReadable fun selector hmem => (h selector hmem).isReadable

/-! ## reading pieces -/

namespace Reader

variable {name value body rest : List Char} {close : Char}

/-- What can stand behind a name. -/
def Stops (rest : List Char) : Prop := ∀ c ∈ rest.head?, c ∈ ".#[: ,]=~|^$*(".toList

/-- A sign stops the reading of a name. -/
theorem stops_cons {c : Char} (hc : c ∈ ".#[: ,]=~|^$*(".toList) : Stops (c :: rest) :=
  fun _ hd => Option.some.inj hd ▸ hc

/-- A name is read up to what cannot go on with it. -/
theorem readIdent_append (hname : ∀ c ∈ name, isIdentPart c = true) (hrest : Stops rest) :
    readIdent (name ++ rest) = (name, rest) := by
  have hstops : ∀ c ∈ ".#[: ,]=~|^$*(".toList, isIdentPart c = false ∧ c ≠ '\\' :=
    Text.forall_mem_of_all (by decide)
  induction name with
  | nil =>
      cases rest with
      | nil => rfl
      | cons c rest =>
          obtain ⟨hpart, hescape⟩ := hstops c (hrest c rfl)
          rw [List.nil_append, readIdent, if_neg (by simp [hpart])]
          · exact fun h _ => hescape h
          · exact fun _ _ h _ => hescape h
  | cons c name ih =>
      obtain ⟨hc, hname⟩ := List.forall_mem_cons.mp hname
      have hescape : c ≠ '\\' := by
        rintro rfl
        cases hc
      rw [List.cons_append, readIdent, if_pos hc, ih hname]
      · exact fun h _ => hescape h
      · exact fun _ _ h _ => hescape h

/-- What is enclosed is read up to the closing character. -/
theorem readUntil_append (hclose : close ∉ body) :
    readUntil close (body ++ close :: rest) = .ok (body, rest) := by
  induction body with
  | nil => rw [List.nil_append, readUntil, if_pos rfl]
  | cons c body ih =>
      obtain ⟨hc, hbody⟩ := List.ne_and_not_mem_of_not_mem_cons hclose
      rw [List.cons_append, readUntil, if_neg hc.symm, ih hbody]
      rfl

/-- No white space is skipped in front of a sign. -/
theorem skipBlanks_of_mem {c : Char} (hc : c ∈ ".#[:,]=~|^$*(\"'>+".toList) :
    skipBlanks (c :: rest) = c :: rest := by
  have hall : ∀ c ∈ ".#[:,]=~|^$*(\"'>+".toList, Text.isBlank c = false :=
    Text.forall_mem_of_all (by decide)
  exact Text.dropWhile_isBlank fun d hd => Option.some.inj hd ▸ hall c hc

theorem skipBlanks_name (hname : IsWritten name) : skipBlanks (name ++ rest) = name ++ rest := by
  cases name with
  | nil => exact absurd rfl hname.ne_nil
  | cons c name => exact Text.dropWhile_isBlank hname.unpadded.1

/-! ## reading conditions -/

/-- A quoted value is read up to the same quote. -/
theorem readValue_append {quote : Char} (hquote : quote ∈ ['"', '\'']) (h : quote ∉ value) :
    readValue (quote :: (value ++ [quote]) ++ rest) = .ok (value, rest) := by
  have hread : readUntil quote (value ++ quote :: rest) = .ok (value, rest) := readUntil_append h
  have htext : quote :: (value ++ [quote]) ++ rest = quote :: (value ++ quote :: rest) := by simp
  rw [htext]
  obtain rfl | rfl : quote = '"' ∨ quote = '\'' := by simpa using hquote
  · rw [readValue, skipBlanks_of_mem (by decide)]
    exact hread
  · rw [readValue, skipBlanks_of_mem (by decide)]
    exact hread

theorem readOperator_append (operator : AttributeOperator) :
    readOperator (operator.sign ++ rest) = .ok (operator, rest) := by
  cases operator <;> rfl

/-- A pseudo-class is read from its name and its argument. -/
theorem readPseudo_append {condition : Condition} {argument : Option (List Char)}
    {others : List Char} (hname : isName name = true) (hrest : Stops rest)
    (hargument : readArgument rest = .ok (argument, others))
    (hcondition : pseudoCondition (name.map Char.toLower) argument = .ok condition) :
    readPseudo (name ++ rest) = .ok (condition, others) := by
  have hcolon : (name ++ rest).head? ≠ some ':' := by
    cases name with
    | nil => contradiction
    | cons c name =>
        intro hhead
        obtain rfl := Option.some.inj hhead
        contradiction
  rw [readPseudo, if_neg hcolon, readIdent_append (isWritten_of_isName hname).parts hrest]
  refine Outcome.bind_eq_ok.mpr ⟨(argument, others), hargument, ?_⟩
  simp only [hcondition]
  rfl

/-- What can stand behind a condition: the next one, a combinator or a comma. -/
def Ends (rest : List Char) : Prop := ∀ c ∈ rest.head?, c ∈ ".#[: ,".toList

theorem Ends.stops (h : Ends rest) : Stops rest := by
  have hall : ∀ c ∈ ".#[: ,".toList, c ∈ ".#[: ,]=~|^$*(".toList :=
    Text.forall_mem_of_all (by decide)
  exact fun c hc => hall c (h c hc)

/-- There is no argument without a parenthesis. -/
theorem readArgument_none (h : Ends rest) : readArgument rest = .ok (none, rest) := by
  unfold readArgument
  split
  · have hparen := h '(' rfl
    contradiction
  · rfl

/-- An attribute is read up to the closing bracket. -/
theorem readAttribute_bracket (hname : IsWritten name) :
    readAttribute (name ++ ']' :: rest) = .ok (.hasAttribute name, rest) := by
  have hclose : skipBlanks (']' :: rest) = ']' :: rest := skipBlanks_of_mem (by decide)
  rw [readAttribute, skipBlanks_name hname, readIdent_append hname.parts (stops_cons (by decide))]
  simp only [List.isEmpty_iff, hname.ne_nil, if_false, hclose]
  rfl

/-- An attribute with a value is read with its operator, and the value in either kind of quotes. -/
theorem readAttribute_append {operator : AttributeOperator} {quote : Char}
    (hname : IsWritten name) (hquote : quote ∈ ['"', '\'']) (hvalue : quote ∉ value) :
    readAttribute (name ++ (operator.sign ++ (quote :: (value ++ [quote]) ++ ']' :: rest))) =
      .ok (.attributeIs name operator value, rest) := by
  have hclose : skipBlanks (']' :: rest) = ']' :: rest := skipBlanks_of_mem (by decide)
  obtain ⟨c, cs, hcs, hc⟩ : ∃ c cs,
      operator.sign ++ (quote :: (value ++ [quote]) ++ ']' :: rest) = c :: cs ∧
        c ∈ "=~|^$*".toList := by
    cases operator <;> exact ⟨_, _, rfl, by decide⟩
  have hall : ∀ c ∈ "=~|^$*".toList, c ∈ ".#[: ,]=~|^$*(".toList ∧
      c ∈ ".#[:,]=~|^$*(\"'>+".toList ∧ c ≠ ']' := Text.forall_mem_of_all (by decide)
  obtain ⟨hstop, hblank, hbracket⟩ := hall c hc
  have hsign : skipBlanks (c :: cs) = c :: cs := skipBlanks_of_mem hblank
  rw [hcs, readAttribute, skipBlanks_name hname, readIdent_append hname.parts (stops_cons hstop)]
  simp only [List.isEmpty_iff, hname.ne_nil, if_false, hsign]
  split
  · next heq => exact absurd (List.cons.inj heq).1 hbracket
  · rw [← hcs]
    refine Outcome.bind_eq_ok.mpr ⟨_, readOperator_append operator, ?_⟩
    refine Outcome.bind_eq_ok.mpr ⟨_, readValue_append hquote hvalue, ?_⟩
    simp only [hclose]
    rfl

theorem readPseudo_plain {condition : Condition} (hrest : Ends rest) (hname : isName name = true)
    (hcondition : pseudoCondition (name.map Char.toLower) none = .ok condition) :
    readCondition? (':' :: (name ++ rest)) = .ok (some (condition, rest)) :=
  Outcome.bind_eq_ok.mpr
    ⟨_, readPseudo_append hname hrest.stops (readArgument_none hrest) hcondition, rfl⟩

/-- **A condition is read from each of its texts.** -/
theorem readCondition?_append {condition : Condition} {text : List Char}
    (htext : condition.IsText text) (h : condition.IsReadable) (hrest : Ends rest) :
    readCondition? (text ++ rest) = .ok (some (condition, rest)) := by
  cases condition with
  | attributeIs name operator value =>
      obtain ⟨quote, hquote, hvalue, rfl⟩ := htext
      have htext :
          '[' :: (name ++ (operator.sign ++ (quote :: (value ++ [quote]) ++ [']']))) ++ rest =
            '[' :: (name ++ (operator.sign ++ (quote :: (value ++ [quote]) ++ ']' :: rest))) := by
        simp
      rw [htext]
      exact Outcome.bind_eq_ok.mpr ⟨_, readAttribute_append h.1 hquote hvalue, rfl⟩
  | hasClass name =>
      obtain rfl : text = _ := htext
      change readCondition? ('.' :: (name ++ rest)) = _
      rw [readCondition?, readIdent_append (IsWritten.parts h) hrest.stops]
  | hasId name =>
      obtain rfl : text = _ := htext
      change readCondition? ('#' :: (name ++ rest)) = _
      rw [readCondition?, readIdent_append (IsWritten.parts h) hrest.stops]
  | hasAttribute name =>
      obtain rfl : text = _ := htext
      have htext : (Condition.hasAttribute name).text ++ rest = '[' :: (name ++ ']' :: rest) := by
        change '[' :: (name ++ [']'] ++ rest) = _
        simp
      rw [htext]
      exact Outcome.bind_eq_ok.mpr ⟨_, readAttribute_bracket h, rfl⟩
  | firstChild =>
      obtain rfl : text = _ := htext
      exact readPseudo_plain hrest (by decide) rfl
  | lastChild =>
      obtain rfl : text = _ := htext
      exact readPseudo_plain hrest (by decide) rfl
  | onlyChild =>
      obtain rfl : text = _ := htext
      exact readPseudo_plain hrest (by decide) rfl
  | empty =>
      obtain rfl : text = _ := htext
      exact readPseudo_plain hrest (by decide) rfl
  | nthChild n =>
      obtain rfl : text = _ := htext
      have hparen : ')' ∉ Nat.toDigits 10 n := fun hmem => by
        have hname := isPlainChar_toDigits n ')' hmem
        contradiction
      have htrim : Text.trim (Nat.toDigits 10 n) = Nat.toDigits 10 n :=
        Text.trim_eq_self (Text.unpadded_of_forall fun c hc =>
          (of_isPlainChar (isPlainChar_toDigits n c hc)).2.2)
      have hargument : readArgument ('(' :: (Nat.toDigits 10 n ++ ')' :: rest)) =
          .ok (some (Nat.toDigits 10 n), rest) := by
        refine Outcome.bind_eq_ok.mpr ⟨_, readUntil_append hparen, ?_⟩
        simp only [htrim]
        rfl
      have htext : (Condition.nthChild n).text ++ rest =
          ':' :: ("nth-child".toList ++ '(' :: (Nat.toDigits 10 n ++ ')' :: rest)) := by
        change ':' :: ("nth-child".toList ++ '(' :: (Nat.toDigits 10 n ++ [')'] ++ rest)) = _
        rw [List.append_assoc, List.singleton_append]
      have hcondition : pseudoCondition ("nth-child".toList.map Char.toLower)
          (some (Nat.toDigits 10 n)) = .ok (.nthChild n) := by
        have hname : String.ofList ("nth-child".toList.map Char.toLower) = "nth-child" := by
          decide
        obtain ⟨k, rfl⟩ : ∃ k, n = k + 1 := ⟨n - 1, by have := h.1; omega⟩
        unfold pseudoCondition
        simp only [hname, Number.unsigned64?_toDigits h.2]
      rw [htext]
      exact Outcome.bind_eq_ok.mpr ⟨_, readPseudo_append (by decide)
        (stops_cons (by decide)) hargument hcondition, rfl⟩

/-! ## reading selectors -/

/-- What can stand behind a compound selector: a combinator or a comma. -/
def Closes (rest : List Char) : Prop := ∀ c ∈ rest.head?, c ∈ " ,".toList

theorem Closes.ends (h : Closes rest) : Ends rest := by
  have hall : ∀ c ∈ " ,".toList, c ∈ ".#[: ,".toList := Text.forall_mem_of_all (by decide)
  exact fun c hc => hall c (h c hc)

/-- A condition ends where the next one starts. -/
theorem ends_conditions {conditions : List Condition} {text : List Char}
    (h : ConditionsText conditions text) (hrest : Closes rest) : Ends (text ++ rest) := by
  cases h with
  | nil => exact hrest.ends
  | cons hfirst _ =>
      obtain ⟨c, cs, rfl, hc⟩ := hfirst.head
      have hall : ∀ c ∈ ".#[:".toList, c ∈ ".#[: ,".toList := Text.forall_mem_of_all (by decide)
      exact fun d hd => Option.some.inj hd ▸ hall c hc

/-- Behind the last condition no further one is read. -/
theorem readCondition?_closes (hrest : Closes rest) : readCondition? rest = .ok none := by
  cases rest with
  | nil => rfl
  | cons c rest =>
      have hc : c = ' ' ∨ c = ',' := by simpa using hrest c rfl
      obtain rfl | rfl := hc <;> rfl

/-- The conditions of a compound are read one by one. -/
theorem readConditions_append {conditions : List Condition} {text : List Char} {fuel : Nat}
    (htext : ConditionsText conditions text)
    (h : ∀ condition ∈ conditions, condition.IsReadable) (hrest : Closes rest)
    (hfuel : text.length ≤ fuel) :
    readConditions fuel (text ++ rest) = .ok (conditions, rest) := by
  induction htext generalizing fuel with
  | nil =>
      cases fuel with
      | zero => rfl
      | succ fuel => exact Outcome.bind_eq_ok.mpr ⟨_, readCondition?_closes hrest, rfl⟩
  | cons hfirst hothers ih =>
      obtain ⟨hcondition, hconditions⟩ := List.forall_mem_cons.mp h
      have hread := readCondition?_append hfirst hcondition (ends_conditions hothers hrest)
      obtain ⟨c, cs, rfl, -⟩ := hfirst.head
      rw [List.length_append, List.length_cons] at hfuel
      obtain ⟨fuel, rfl⟩ : ∃ k, fuel = k + 1 := ⟨fuel - 1, by omega⟩
      rw [List.append_assoc]
      refine Outcome.bind_eq_ok.mpr ⟨_, hread, ?_⟩
      exact Outcome.bind_eq_ok.mpr ⟨_, ih hconditions (by omega), rfl⟩

/-- A type is read as the element of a compound. -/
theorem readElement_name (hname : IsType name) (hrest : Stops rest) :
    readElement (name ++ rest) = (some name, rest) := by
  obtain rfl | ⟨hwritten, hstart⟩ := hname
  · rfl
  · have hread := readIdent_append hwritten.parts hrest
    cases name with
    | nil => exact absurd rfl hwritten.ne_nil
    | cons c name =>
        have hc := hstart c rfl
        have hstar : c ≠ '*' := by
          rintro rfl
          exact absurd hc (by simp [IsTypeStart]; decide)
        rw [List.cons_append] at hread ⊢
        unfold readElement
        split
        · next heq => exact absurd (List.cons.inj heq).1 hstar
        · next heq =>
            obtain ⟨rfl, rfl⟩ := List.cons.inj heq
            rw [if_pos (by simpa [IsTypeStart] using hc), hread]
        · next heq => cases heq

/-- A compound that starts with a condition has no element. -/
theorem readElement_condition {c : Char} (hc : c ∈ ".#[:".toList) :
    readElement (c :: rest) = (none, c :: rest) := by
  have hall : ∀ c ∈ ".#[:".toList,
      c ≠ '*' ∧ ¬ (Text.isAlphabetic c || c = '_') = true := Text.forall_mem_of_all (by decide)
  obtain ⟨hstar, hletter⟩ := hall c hc
  unfold readElement
  split
  · next heq => exact absurd (List.cons.inj heq).1 hstar
  · next heq =>
      obtain ⟨rfl, rfl⟩ := List.cons.inj heq
      rw [if_neg hletter]
  · next heq => cases heq

/-- A compound selector has a type or conditions. -/
theorem isNone_and_isEmpty {compound : Compound} (h : compound.IsReadable) :
    (compound.element.isNone && compound.conditions.isEmpty) = false := by
  obtain ⟨element, conditions⟩ := compound
  cases element with
  | some name => rfl
  | none => simpa using h.nonempty rfl

/-- The element of a compound is read from its text, if there is one. -/
theorem readElement_append {compound : Compound} {text : List Char}
    (htext : ConditionsText compound.conditions text) (h : compound.IsReadable)
    (hrest : Closes rest) :
    readElement (compound.element.getD [] ++ (text ++ rest)) =
      (compound.element, text ++ rest) := by
  obtain ⟨element, conditions⟩ := compound
  cases element with
  | some name =>
      exact readElement_name (h.element name rfl) (ends_conditions htext hrest).stops
  | none =>
      cases htext with
      | nil => exact absurd rfl (h.nonempty rfl)
      | cons hfirst _ =>
          obtain ⟨c, cs, rfl, hc⟩ := hfirst.head
          exact readElement_condition hc

/-- **A compound is read from each of its texts.** -/
theorem readCompound_append {compound : Compound} {text : List Char}
    (htext : compound.IsText text) (h : compound.IsReadable) (hrest : Closes rest) :
    readCompound (text ++ rest) = .ok (compound, rest) := by
  obtain ⟨others, hothers, rfl⟩ := htext
  have hconditions : readConditions (others ++ rest).length (others ++ rest) =
      .ok (compound.conditions, rest) :=
    readConditions_append hothers h.conditions hrest (by simp)
  rw [List.append_assoc, readCompound, readElement_append hothers h hrest]
  refine Outcome.bind_eq_ok.mpr ⟨_, hconditions, ?_⟩
  simp only [isNone_and_isEmpty h, Bool.false_eq_true, if_false]
  rfl

/-- A combinator is read with the white space around it. -/
theorem readCombinator_append {c : Char} {cs : List Char} (combinator : Combinator)
    (hc : Leads c) : readCombinator (combinator.text ++ c :: cs) = (some combinator, c :: cs) := by
  have hskip : skipBlanks (c :: cs) = c :: cs :=
    Text.dropWhile_isBlank fun d hd => Option.some.inj hd ▸ hc.isBlank
  have hblank : skipBlanks (' ' :: c :: cs) = c :: cs := hskip
  have hsign : combinatorOf? c = none := by
    unfold combinatorOf?
    split
    · exact absurd (by decide) hc.not_mem
    · exact absurd (by decide) hc.not_mem
    · exact absurd (by decide) hc.not_mem
    · rfl
  have hcomma : c ≠ ',' := by
    rintro rfl
    exact hc.not_mem (by decide)
  cases combinator with
  | descendant =>
      change readCombinator (' ' :: c :: cs) = _
      simp only [readCombinator, hblank, hsign]
      rw [if_pos]
      simp only [ne_eq, hcomma, not_false_eq_true, decide_true, Bool.true_and, List.head?_cons,
        Option.any_some]
      decide
  | child => exact congrArg (some Combinator.child, ·) hblank
  | adjacent => exact congrArg (some Combinator.adjacent, ·) hblank
  | sibling => exact congrArg (some Combinator.sibling, ·) hblank

/-- What can stand behind a complex selector. -/
def Finishes (rest : List Char) : Prop := ∀ c ∈ rest.head?, c = ','

theorem Finishes.closes (h : Finishes rest) : Closes rest := fun c hc => by
  rw [h c hc]
  decide

/-- A compound closes where a combinator follows. -/
theorem closes_tail {tail : List (Combinator × Compound)} {text : List Char}
    (h : TailIsText tail text) (hrest : Finishes rest) : Closes (text ++ rest) := by
  cases h with
  | nil => exact hrest.closes
  | @cons combinator =>
      cases combinator <;> exact fun c hc => Option.some.inj hc ▸ by decide

theorem skipBlanks_finishes (h : Finishes rest) : skipBlanks rest = rest :=
  Text.dropWhile_isBlank fun c hc => h c hc ▸ by decide

/-- Where a selector finishes there is no further combinator. -/
theorem readCombinator_finishes (h : Finishes rest) : readCombinator rest = (none, rest) := by
  unfold readCombinator
  rw [skipBlanks_finishes h]
  cases rest with
  | nil => rfl
  | cons c rest =>
      obtain rfl := h c rfl
      rfl

/-- The compounds behind the first are read one by one, each with its combinator. -/
theorem readTail_append {tail : List (Combinator × Compound)} {text : List Char} {fuel : Nat}
    (htext : TailIsText tail text) (h : ∀ compound ∈ tail.map Prod.snd, compound.IsReadable)
    (hrest : Finishes rest) (hfuel : text.length ≤ fuel) :
    readTail fuel (text ++ rest) = .ok (tail, rest) := by
  induction htext generalizing fuel with
  | nil =>
      cases fuel with
      | zero => rfl
      | succ fuel =>
          change readTail (fuel + 1) rest = _
          rw [readTail, readCombinator_finishes hrest]
  | @cons combinator compound tail first others hfirst hothers ih =>
      obtain ⟨hcompound, htail⟩ := List.forall_mem_cons.mp h
      have hread : readCombinator (combinator.text ++ (first ++ (others ++ rest))) =
          (some combinator, first ++ (others ++ rest)) := by
        obtain ⟨c, cs, rfl, hc⟩ := hfirst.head hcompound
        exact readCombinator_append combinator hc
      have hlength : 1 ≤ combinator.text.length := by cases combinator <;> decide
      rw [List.length_append, List.length_append] at hfuel
      obtain ⟨fuel, rfl⟩ : ∃ k, fuel = k + 1 := ⟨fuel - 1, by omega⟩
      rw [List.append_assoc, List.append_assoc, readTail, hread]
      refine Outcome.bind_eq_ok.mpr
        ⟨_, readCompound_append hfirst hcompound (closes_tail hothers hrest), ?_⟩
      exact Outcome.bind_eq_ok.mpr ⟨_, ih htail (by omega), rfl⟩

/-- **A selector is read from each of its texts.** -/
theorem readComplex_append {selector : Complex} {text : List Char} (htext : selector.IsText text)
    (h : selector.IsReadable) (hrest : Finishes rest) :
    readComplex (text ++ rest) = .ok (selector, rest) := by
  have hskip : skipBlanks (text ++ rest) = text ++ rest := by
    obtain ⟨c, cs, rfl, hc⟩ := htext.head h
    exact Text.dropWhile_isBlank fun d hd => Option.some.inj hd ▸ hc.isBlank
  obtain ⟨first, others, hhead, htail, rfl⟩ := htext
  rw [readComplex, hskip, List.append_assoc]
  refine Outcome.bind_eq_ok.mpr
    ⟨_, readCompound_append hhead h.head (closes_tail htail hrest), ?_⟩
  refine Outcome.bind_eq_ok.mpr ⟨_, readTail_append htail h.tail hrest ?_, rfl⟩
  rw [List.length_append]
  omega

/-- White space in front of a selector of a group is skipped. -/
theorem readGroup_blank {fuel : Nat} (cs : List Char) :
    readGroup (fuel + 1) (' ' :: cs) = readGroup (fuel + 1) cs := by
  have hskip : skipBlanks (' ' :: cs) = skipBlanks cs :=
    List.dropWhile_cons_of_pos (by decide)
  rw [readGroup, readGroup, readComplex, readComplex, hskip]

/-- The selectors of a group are read one by one. -/
theorem readGroup_append {selectors : List Complex} {text : List Char} {fuel : Nat}
    (htext : GroupIsText selectors text) (h : ∀ selector ∈ selectors, selector.IsReadable)
    (hfuel : text.length < fuel) : readGroup fuel text = .ok selectors := by
  induction htext generalizing fuel with
  | @single selector text htext =>
      obtain ⟨fuel, rfl⟩ : ∃ k, fuel = k + 1 := ⟨fuel - 1, by omega⟩
      have hread : readComplex (text ++ []) = .ok (selector, []) :=
        readComplex_append htext (h selector List.mem_cons_self) (by simp [Finishes])
      rw [List.append_nil] at hread
      exact Outcome.bind_eq_ok.mpr ⟨_, hread, rfl⟩
  | @cons selector selectors first others hfirst _ ih =>
      obtain ⟨hselector, hselectors⟩ := List.forall_mem_cons.mp h
      have htext : first ++ ", ".toList ++ others = first ++ ',' :: ' ' :: others := by simp
      have hcomma : Finishes (',' :: ' ' :: others) := fun c hc => (Option.some.inj hc).symm
      rw [htext, List.length_append, List.length_cons, List.length_cons] at hfuel
      obtain ⟨fuel, rfl⟩ : ∃ k, fuel = k + 2 := ⟨fuel - 2, by omega⟩
      rw [htext]
      refine Outcome.bind_eq_ok.mpr ⟨_, readComplex_append hfirst hselector hcomma, ?_⟩
      simp only [skipBlanks_finishes hcomma]
      refine Outcome.bind_eq_ok.mpr ⟨selectors, ?_, rfl⟩
      rw [readGroup_blank]
      exact ih hselectors (by omega)

end Reader

/-- **A text is read as the selectors it was written from.** -/
theorem readSelectors_isText {selectors : List Complex} {text : List Char}
    (htext : GroupIsText selectors text) (h : ∀ selector ∈ selectors, selector.IsReadable) :
    readSelectors text = .ok selectors :=
  Reader.readGroup_append htext h (Nat.lt_succ_self _)

/-- **Selectors are read from their canonical text.** -/
theorem readSelectors_groupText {selectors : List Complex}
    (h : ∀ selector ∈ selectors, selector.IsReadable) (hne : selectors ≠ []) :
    readSelectors (groupText selectors) = .ok selectors :=
  readSelectors_isText (groupIsText_groupText hne h) h

theorem readSelectors_text {short : List Char → Bool} {selectors : List Complex}
    (h : ∀ selector ∈ selectors, selector.IsCanonical short) (hne : selectors ≠ []) :
    readSelectors (groupText selectors) = .ok selectors :=
  readSelectors_groupText (fun selector hmem => (h selector hmem).isReadable) hne

end Extractor.Css
