import Extractor.Proofs.Cutting
import Extractor.Proofs.SelectorText
import Extractor.Query.Check

/-!
# Extractor.Proofs.Identifiers

Identifiers in their standard text, and what the reader of selectors makes of them.
The standard writes a character that may not stand in an identifier behind a
backslash, and control characters and a digit at the start by their code in
hexadecimal digits, closed by a space. The reader knows the first form only, and it
reads what is left when the query has been trimmed. So an identifier comes back
exactly if nothing in it is written by its code and it does not end with white space
(`Query.cssToXPath_identifier`).
-/

namespace Extractor.Css

open Outcome

/-! ## the standard text -/

/-- Whether the character is a control character other than null. -/
def isControl (c : Char) : Bool := (1 ≤ c.toNat && c.toNat ≤ 31) || c.toNat = 127

/-- Whether the character stands in an identifier as it is. -/
def standsInIdentifier (c : Char) : Bool := c.toNat ≥ 128 || isPlainChar c

/-- Whether a character behind others is written by its code: a control character, or a digit with
which the identifier would look like a number. -/
def isCoded (before : List Char) (c : Char) : Bool :=
  isControl c || (c.isDigit && (before = [] || before = ['-']))

/-- The character by its code. -/
def codeText (c : Char) : List Char := '\\' :: (Nat.toDigits 16 c.toNat ++ [' '])

/-- The character in an identifier, behind others. -/
def charText (before : List Char) (c : Char) : List Char :=
  if c = '\x00' then ['\uFFFD']
  else if isCoded before c then codeText c
  else if standsInIdentifier c then [c]
  else ['\\', c]

/-- The rest of an identifier behind some of its characters. -/
def restText (before : List Char) : List Char → List Char
  | [] => []
  | c :: cs => charText before c ++ restText (before ++ [c]) cs

/-- The standard text of an identifier. A dash that is all of it would look like an operator. -/
def identText (value : List Char) : List Char :=
  if value = ['-'] then ['\\', '-'] else restText [] value

/-- The standard text of an identifier that is a string. -/
def identifier (value : String) : String := String.ofList (identText value.toList)

/-- Whether some character of the rest of an identifier is written by its code. -/
def hasCode (before : List Char) : List Char → Bool
  | [] => false
  | c :: cs => isCoded before c || hasCode (before ++ [c]) cs

/-- Nothing in the identifier is written by its code, and it does not end with white space. -/
def Survives (value : List Char) : Prop :=
  hasCode [] value = false ∧ ∀ c ∈ value.getLast?, Text.isBlank c = false

instance (value : List Char) : Decidable (Survives value) :=
  decidable_of_iff (hasCode [] value = false ∧ value.getLast?.all (!Text.isBlank ·) = true)
    (by simp [Survives, Option.all_eq_true])

/-! ## characters and their texts -/

variable {before value rest : List Char} {c : Char}

/-- What may stand in an identifier is read as part of one. -/
theorem isIdentPart_of_standsInIdentifier (h : standsInIdentifier c = true) :
    Reader.isIdentPart c = true := by
  rw [standsInIdentifier, Bool.or_eq_true] at h
  rcases h with h | h
  · simp only [Reader.isIdentPart, h, Bool.or_true]
  · exact (of_isPlainChar h).1

/-- A character of an identifier is read as it is. -/
theorem readIdent_cons (h : standsInIdentifier c = true) (cs : List Char) :
    Reader.readIdent (c :: cs) = (c :: (Reader.readIdent cs).1, (Reader.readIdent cs).2) := by
  have hescape : c ≠ '\\' := by
    rintro rfl
    exact absurd h (by decide)
  rw [Reader.readIdent, if_pos (isIdentPart_of_standsInIdentifier h)]
  · exact fun h _ => hescape h
  · exact fun _ _ h _ => hescape h

theorem readIdent_escaped (cs : List Char) :
    Reader.readIdent ('\\' :: c :: cs) =
      (c :: (Reader.readIdent cs).1, (Reader.readIdent cs).2) := by
  rw [Reader.readIdent]

/-- A character that is not written by its code stands at the end of its text. -/
theorem charText_of_not_coded (hnull : c ≠ '\x00') (h : isCoded before c = false) :
    charText before c = [c] ∧ standsInIdentifier c = true ∨ charText before c = ['\\', c] := by
  rw [charText, if_neg hnull, h, if_neg (by decide)]
  split
  · next hstands => exact .inl ⟨rfl, hstands⟩
  · exact .inr rfl

theorem charText_of_coded (hnull : c ≠ '\x00') (h : isCoded before c = true) :
    charText before c = codeText c := by
  rw [charText, if_neg hnull, if_pos h]

/-! ## reading back -/

/-- Without codes the text is read as the value, and the reader goes on behind it. -/
theorem readIdent_restText (hnull : '\x00' ∉ value) (h : hasCode before value = false) :
    Reader.readIdent (restText before value ++ rest) =
      (value ++ (Reader.readIdent rest).1, (Reader.readIdent rest).2) := by
  induction value generalizing before with
  | nil => rfl
  | cons c cs ih =>
      obtain ⟨hc, hcs⟩ := List.ne_and_not_mem_of_not_mem_cons hnull
      obtain ⟨hcode, hcodes⟩ := Bool.or_eq_false_iff.mp h
      have hrest := ih hcs hcodes
      rw [restText, List.append_assoc]
      rcases charText_of_not_coded hc.symm hcode with ⟨htext, hstands⟩ | htext
      · rw [htext, List.singleton_append, readIdent_cons hstands, hrest]
        rfl
      · rw [htext, List.cons_append, List.singleton_append, readIdent_escaped, hrest]
        rfl

/-- A text that breaks off is read as the beginning of the value. -/
theorem readIdent_broken {text : List Char} (hnull : '\x00' ∉ value)
    (h : hasCode before value = false) (hinitial : text <+: restText before value)
    (hne : text ≠ restText before value) :
    ∃ front, Reader.readIdent text = (front, []) ∧ front <+: value ∧ front ≠ value := by
  induction value generalizing before text with
  | nil => exact absurd (List.prefix_nil.mp hinitial) hne
  | cons c cs ih =>
      obtain ⟨hc, hcs⟩ := List.ne_and_not_mem_of_not_mem_cons hnull
      obtain ⟨hcode, hcodes⟩ := Bool.or_eq_false_iff.mp h
      -- what is read of the rest, if the text of the first character is there as a whole
      have hnext : ∀ more, more <+: restText (before ++ [c]) cs →
          more ≠ restText (before ++ [c]) cs → ∀ first,
          Reader.readIdent first = (c :: (Reader.readIdent more).1, (Reader.readIdent more).2) →
          ∃ front, Reader.readIdent first = (front, []) ∧ front <+: c :: cs ∧ front ≠ c :: cs := by
        intro more hmore hmore' first hfirst
        obtain ⟨front, hread, hfront, hshort⟩ := ih hcs hcodes hmore hmore'
        exact ⟨c :: front, by rw [hfirst, hread], List.cons_prefix_cons.mpr ⟨rfl, hfront⟩,
          fun heq => hshort (List.cons.inj heq).2⟩
      rw [restText] at hinitial hne
      rcases charText_of_not_coded hc.symm hcode with ⟨htext, hstands⟩ | htext
      · rw [htext, List.singleton_append] at hinitial hne
        cases text with
        | nil => exact ⟨[], rfl, List.nil_prefix, by simp⟩
        | cons first more =>
            obtain ⟨rfl, hmore⟩ := List.cons_prefix_cons.mp hinitial
            exact hnext more hmore (fun heq => hne (heq ▸ rfl)) _ (readIdent_cons hstands more)
      · rw [htext, List.cons_append, List.singleton_append] at hinitial hne
        cases text with
        | nil => exact ⟨[], rfl, List.nil_prefix, by simp⟩
        | cons first more =>
            obtain ⟨rfl, hsecond⟩ := List.cons_prefix_cons.mp hinitial
            cases more with
            | nil => exact ⟨[], rfl, List.nil_prefix, by simp⟩
            | cons second more =>
                obtain ⟨rfl, hmore⟩ := List.cons_prefix_cons.mp hsecond
                exact hnext more hmore (fun heq => hne (heq ▸ rfl)) _ (readIdent_escaped more)

/-! ## codes -/

/-- The text of an identifier is that of its parts, each behind the one before it. -/
theorem restText_append (front back : List Char) :
    restText before (front ++ back) = restText before front ++ restText (before ++ front) back := by
  induction front generalizing before with
  | nil => simp [restText]
  | cons c front ih =>
      rw [List.cons_append, restText, ih, restText, List.append_assoc, List.append_assoc,
        List.singleton_append]

/-- Where there are codes there is a first one. -/
theorem exists_code (h : hasCode before value = true) :
    ∃ front c back, value = front ++ c :: back ∧ hasCode before front = false ∧
      isCoded (before ++ front) c = true := by
  induction value generalizing before with
  | nil => contradiction
  | cons c cs ih =>
      cases hcode : isCoded before c with
      | true => exact ⟨[], c, cs, rfl, rfl, by rwa [List.append_nil]⟩
      | false =>
          rw [hasCode, hcode, Bool.false_or] at h
          obtain ⟨front, d, back, rfl, hfront, hd⟩ := ih h
          refine ⟨c :: front, d, back, rfl, ?_, ?_⟩
          · rw [hasCode, hcode, hfront]
            rfl
          · rwa [List.append_assoc] at hd

/-- A code has digits, which stand in identifiers; where it starts with its own character, that is a
three. -/
theorem digits_of_isCoded (h : isCoded before c = true) :
    Nat.toDigits 16 c.toNat ≠ [] ∧ (∀ d ∈ Nat.toDigits 16 c.toNat, isPlainChar d = true) ∧
      ((Nat.toDigits 16 c.toNat).head? = some c → c = '3' ∧ (before = [] ∨ before = ['-'])) := by
  have hcodes : ∀ n < 128, (isControl (Char.ofNat n) || (Char.ofNat n).isDigit) = true →
      Nat.toDigits 16 n ≠ [] ∧ (Nat.toDigits 16 n).all isPlainChar = true ∧
        ((Nat.toDigits 16 n).head? = some (Char.ofNat n) → Char.ofNat n = '3') := by
    decide +kernel
  have hclass : (isControl c || c.isDigit) = true ∧
      (isControl c = true ∨ before = [] ∨ before = ['-']) := by
    simp only [isCoded, Bool.or_eq_true, Bool.and_eq_true, decide_eq_true_eq] at h ⊢
    rcases h with h | ⟨h, hbefore⟩
    · exact ⟨.inl h, .inl h⟩
    · exact ⟨.inr h, .inr hbefore⟩
  have hlt : c.toNat < 128 := by
    have hbounds := hclass.1
    simp only [isControl, Char.isDigit, Bool.or_eq_true, Bool.and_eq_true, decide_eq_true_eq,
      ge_iff_le, UInt32.le_iff_toNat_le] at hbounds
    change (1 ≤ c.toNat ∧ c.toNat ≤ 31 ∨ c.toNat = 127) ∨ 48 ≤ c.toNat ∧ c.toNat ≤ 57 at hbounds
    omega
  have hfound := hcodes c.toNat hlt
  rw [Char.ofNat_toNat] at hfound
  obtain ⟨hne, hplain, hthree⟩ := hfound hclass.1
  refine ⟨hne, List.all_eq_true.mp hplain, fun hhead => ?_⟩
  obtain rfl := hthree hhead
  exact ⟨rfl, hclass.2.resolve_left (by decide)⟩

/-- A space, or nothing, ends an identifier. -/
theorem stops_trimEnd (more : List Char) : Reader.Stops (Text.trimEnd (' ' :: more)) := by
  obtain ⟨back, hback⟩ := Text.trimEnd_isPrefix (' ' :: more)
  intro c hc
  obtain ⟨tail, htail⟩ := List.head?_eq_some_iff.mp hc
  rw [htail, List.cons_append, List.cons.injEq] at hback
  rw [hback.1]
  decide

/-- Where there are codes, the first one is read as its digits, and the identifier ends there. -/
theorem readIdent_coded (hnull : '\x00' ∉ value) (h : hasCode [] value = true) :
    ∃ front c back, value = front ++ c :: back ∧ isCoded front c = true ∧
      (Reader.readIdent (Text.trimEnd (identText value))).1 = front ++ Nat.toDigits 16 c.toNat := by
  obtain ⟨front, c, back, rfl, hfront, hcoded⟩ := exists_code h
  rw [List.nil_append] at hcoded
  obtain ⟨hdigits, hplain, -⟩ := digits_of_isCoded hcoded
  have hnull' : '\x00' ∉ front ∧ c ≠ '\x00' := by
    simp only [List.mem_append, List.mem_cons, not_or] at hnull
    exact ⟨hnull.1, Ne.symm hnull.2.1⟩
  have hdash : front ++ c :: back ≠ ['-'] := by
    intro heq
    rw [heq] at h
    contradiction
  have htext : identText (front ++ c :: back) =
      (restText [] front ++ '\\' :: Nat.toDigits 16 c.toNat) ++
        ' ' :: restText (front ++ [c]) back := by
    rw [identText, if_neg hdash, restText_append, List.nil_append, restText,
      charText_of_coded hnull'.2 hcoded, codeText]
    simp
  have hended : Text.Ended (restText [] front ++ '\\' :: Nat.toDigits 16 c.toNat) :=
    ((Text.ended_of_forall hdigits fun d hd => (of_isPlainChar (hplain d hd)).2.2).cons _).append _
  obtain ⟨d, ds, hd⟩ := List.exists_cons_of_ne_nil hdigits
  refine ⟨front, c, back, rfl, hcoded, ?_⟩
  rw [htext, Text.trimEnd_behind hended, List.append_assoc,
    readIdent_restText hnull'.1 hfront, hd, List.cons_append, List.cons_append, readIdent_escaped,
    Reader.readIdent_append _ (stops_trimEnd _)]
  intro e he
  exact (of_isPlainChar (hplain e (hd ▸ List.mem_cons_of_mem d he))).1

/-! ## white space at the end -/

/-- Without codes, the text ends with the last character of the value. -/
theorem getLast?_restText (hnull : '\x00' ∉ value) (h : hasCode before value = false) :
    (restText before value).getLast? = value.getLast? := by
  induction value generalizing before with
  | nil => rfl
  | cons c cs ih =>
      obtain ⟨hc, hcs⟩ := List.ne_and_not_mem_of_not_mem_cons hnull
      obtain ⟨hcode, hcodes⟩ := Bool.or_eq_false_iff.mp h
      have hlast : (charText before c).getLast? = some c := by
        rcases charText_of_not_coded hc.symm hcode with ⟨htext, -⟩ | htext <;> rw [htext] <;> rfl
      rw [restText, List.getLast?_append, ih hcs hcodes, hlast, List.getLast?_cons]
      cases cs.getLast? <;> rfl

/-- White space at the end is taken off with what stands before it, so that less is read. -/
theorem readIdent_padded (hnull : '\x00' ∉ value) (hcode : hasCode [] value = false)
    (hblank : ∃ c ∈ value.getLast?, Text.isBlank c = true) :
    ∃ front, Reader.readIdent (Text.trimEnd (identText value)) = (front, []) ∧ front <+: value ∧
      front ≠ value := by
  obtain ⟨c, hc, hblank⟩ := hblank
  have hdash : value ≠ ['-'] := by
    rintro rfl
    obtain rfl : '-' = c := by simpa using hc
    exact absurd hblank (by decide)
  rw [identText, if_neg hdash]
  refine readIdent_broken hnull hcode (Text.trimEnd_isPrefix _) fun htrim => ?_
  have hlast : (restText [] value).getLast? = some c := (getLast?_restText hnull hcode).trans hc
  obtain ⟨text, htext⟩ := List.getLast?_eq_some_iff.mp hlast
  have hshort : Text.trimEnd (text ++ [c]) = Text.trimEnd text :=
    Text.trimEnd_append_blank (by simpa using hblank)
  rw [htext, hshort] at htrim
  have hlength := (Text.trimEnd_isPrefix text).length_le
  rw [htrim, List.length_append, List.length_singleton] at hlength
  omega

/-- What survives is read back. -/
theorem readIdent_survives (hnull : '\x00' ∉ value) (h : Survives value) :
    Reader.readIdent (Text.trimEnd (identText value)) = (value, []) := by
  obtain ⟨hcode, hend⟩ := h
  rw [identText]
  split
  · next hdash =>
      subst hdash
      rfl
  · have htrim : Text.trimEnd (restText [] value) = restText [] value := by
      rcases List.eq_nil_or_concat (restText [] value) with hnil | ⟨front, c, hconcat⟩
      · rw [hnil]
        rfl
      · rw [List.concat_eq_append] at hconcat
        have hlast := getLast?_restText hnull hcode
        rw [hconcat, List.getLast?_concat] at hlast
        have hended : Text.Ended (restText [] value) := ⟨front, c, hconcat, hend c hlast.symm⟩
        have hkeep : Text.trimEnd ([] ++ restText [] value) = [] ++ restText [] value :=
          Text.trimEnd_append hended
        simpa using hkeep
    have hread : Reader.readIdent (restText [] value ++ []) = (value ++ [], []) :=
      readIdent_restText hnull hcode
    rwa [List.append_nil, List.append_nil, ← htrim] at hread

/-! ## selectors of one identifier -/

/-- The sign stands in front of identifiers of one kind, classes or ids, and makes a condition of
the identifier behind it. -/
def IsMark (sign : Char) (make : List Char → Condition) : Prop :=
  sign = '#' ∧ make = .hasId ∨ sign = '.' ∧ make = .hasClass

variable {sign : Char} {make : List Char → Condition} {cs name : List Char}

namespace IsMark

/-- The sign of a class or of an id makes the condition with the identifier behind it. -/
theorem readCondition? (h : IsMark sign make) (cs : List Char) :
    Reader.readCondition? (sign :: cs) =
      .ok (some (make (Reader.readIdent cs).1, (Reader.readIdent cs).2)) := by
  rcases h with ⟨rfl, rfl⟩ | ⟨rfl, rfl⟩ <;> rfl

theorem mem (h : IsMark sign make) : sign ∈ ".#[:".toList := by
  rcases h with ⟨rfl, rfl⟩ | ⟨rfl, rfl⟩ <;> decide

theorem isBlank (h : IsMark sign make) : Text.isBlank sign = false := by
  rcases h with ⟨rfl, rfl⟩ | ⟨rfl, rfl⟩ <;> decide

theorem skipBlanks (h : IsMark sign make) (cs : List Char) :
    Reader.skipBlanks (sign :: cs) = sign :: cs :=
  Text.dropWhile_isBlank (Text.unblank_cons h.isBlank)

theorem trim (h : IsMark sign make) (cs : List Char) :
    Text.trim (sign :: cs) = sign :: Text.trimEnd cs := by
  have hended : Text.Ended [sign] := ⟨[], sign, rfl, h.isBlank⟩
  rw [Text.trim, Text.trimStart, Text.dropWhile_isBlank (Text.unblank_cons h.isBlank)]
  exact Text.trimEnd_behind hended cs

/-- A compound selector that starts with a mark starts with its condition. -/
theorem readCompound (h : IsMark sign make) (cs : List Char) :
    Reader.readCompound (sign :: cs) = do
      let (conditions, rest) ← Reader.readConditions cs.length (Reader.readIdent cs).2
      return (⟨none, make (Reader.readIdent cs).1 :: conditions⟩, rest) := by
  have hconditions : Reader.readConditions (sign :: cs).length (sign :: cs) = do
      let (conditions, rest) ← Reader.readConditions cs.length (Reader.readIdent cs).2
      return (make (Reader.readIdent cs).1 :: conditions, rest) := by
    rw [List.length_cons, Reader.readConditions, h.readCondition?]
    rfl
  rw [Reader.readCompound, Reader.readElement_condition h.mem]
  simp only [hconditions]
  cases Reader.readConditions cs.length (Reader.readIdent cs).2 <;> rfl

/-- A selector that starts with a mark starts with its condition. -/
theorem readSelectors_head {selectors : List Complex} (h : IsMark sign make)
    (hread : readSelectors (sign :: cs) = .ok selectors) :
    ∃ conditions tail others,
      selectors = ⟨⟨none, make (Reader.readIdent cs).1 :: conditions⟩, tail⟩ :: others := by
  rw [readSelectors, Reader.readGroup, bind_eq_ok] at hread
  obtain ⟨⟨selector, rest⟩, hcomplex, hread⟩ := hread
  have hhead : ∃ conditions tail,
      selector = ⟨⟨none, make (Reader.readIdent cs).1 :: conditions⟩, tail⟩ := by
    rw [Reader.readComplex, h.skipBlanks, h.readCompound, bind_eq_ok] at hcomplex
    obtain ⟨⟨head, more⟩, hcompound, hcomplex⟩ := hcomplex
    rw [bind_eq_ok] at hcompound hcomplex
    obtain ⟨⟨conditions, left⟩, -, hcompound⟩ := hcompound
    obtain ⟨⟨tail, left'⟩, -, hcomplex⟩ := hcomplex
    obtain ⟨rfl, -⟩ := Prod.mk.inj (pure_eq_ok.mp hcompound)
    obtain ⟨rfl, -⟩ := Prod.mk.inj (pure_eq_ok.mp hcomplex)
    exact ⟨conditions, tail, rfl⟩
  obtain ⟨conditions, tail, rfl⟩ := hhead
  dsimp only at hread
  split at hread
  · exact ⟨conditions, tail, [], (pure_eq_ok.mp hread).symm⟩
  · rw [bind_eq_ok] at hread
    obtain ⟨others, -, hread⟩ := hread
    exact ⟨conditions, tail, others, (pure_eq_ok.mp hread).symm⟩
  · exact absurd hread throw_ne_ok

/-- A selector of one identifier. -/
theorem readSelectors_alone (h : IsMark sign make) (hread : Reader.readIdent cs = (name, [])) :
    readSelectors (sign :: cs) = .ok [⟨⟨none, [make name]⟩, []⟩] := by
  have hconditions : Reader.readConditions cs.length [] = .ok ([], []) := by
    cases cs.length <;> rfl
  have hcomplex : Reader.readComplex (sign :: cs) = .ok (⟨⟨none, [make name]⟩, []⟩, []) := by
    rw [Reader.readComplex, h.skipBlanks, h.readCompound, hread, hconditions]
    rfl
  exact bind_eq_ok.mpr ⟨_, hcomplex, rfl⟩

end IsMark

/-! ## paths of one identifier -/

/-- The path of a group starts with the tests of its first compound. -/
theorem ofSelectors_head (lead : List Char) (condition : Condition) (conditions : List Condition)
    (tail : List (Combinator × Compound)) (others : List Complex) :
    ∃ more, XPath.ofSelectors lead (⟨⟨none, condition :: conditions⟩, tail⟩ :: others) =
      lead ++ '*' :: '[' :: (XPath.conditionTest condition ++ ']' :: more) := by
  rw [XPath.ofSelectors, List.map_cons, Text.intercalate_eq_append]
  refine ⟨XPath.predicates conditions ++ (tail.flatMap fun part => XPath.step part.1 part.2) ++
    (others.map (XPath.pathOf lead)).flatMap (" | ".toList ++ ·), ?_⟩
  simp [XPath.pathOf, XPath.nodeTest, XPath.predicates]

/-- A text is known by what stands before the first place of a character. -/
theorem eq_of_append_cons {cs ds more more' : List Char} (hcs : c ∉ cs) (hds : c ∉ ds)
    (h : cs ++ c :: more = ds ++ c :: more') : cs = ds := by
  have hspan : ∀ text rest : List Char, c ∉ text →
      (text ++ c :: rest).takeWhile (· ≠ c) = text := by
    intro text rest hnot
    rw [List.takeWhile_append_of_pos fun d hd => by simpa using ne_of_mem_of_not_mem hd hnot]
    simp
  rw [← hspan cs more hcs, h, hspan ds more' hds]

theorem literal_of_not_mem (h : '\'' ∉ value) : XPath.literal value = '\'' :: (value ++ ['\'']) :=
  if_neg h

/-- The test of a condition is a fixed text around the identifier in quotes, perhaps with spaces. -/
theorem IsMark.exists_conditionTest (h : IsMark sign make) :
    ∃ front space back, '\'' ∉ space ∧ ∀ value, '\'' ∉ value →
      XPath.conditionTest (make value) =
        front ++ '\'' :: (space ++ (value ++ (space ++ '\'' :: back))) := by
  rcases h with ⟨-, rfl⟩ | ⟨-, rfl⟩
  · refine ⟨"@id = ".toList, [], [], by simp, fun value hvalue => ?_⟩
    dsimp only [XPath.conditionTest]
    simp only [literal_of_not_mem hvalue, List.nil_append]
  · refine ⟨'@' :: "class".toList ++ " and contains(concat(' ', normalize-space(@".toList ++
      "class".toList ++ "), ' '), ".toList, [' '], [')'], by simp, fun value hvalue => ?_⟩
    have hspaced : '\'' ∉ ' ' :: (value ++ [' ']) := by simpa using hvalue
    dsimp only [XPath.conditionTest]
    simp only [XPath.wordTest, literal_of_not_mem hspaced, List.append_assoc, List.cons_append,
      List.nil_append]

/-- The test of a condition tells the identifier, if that has no quote. -/
theorem IsMark.conditionTest_injective (h : IsMark sign make) {more more' : List Char}
    (hname : '\'' ∉ name) (hvalue : '\'' ∉ value)
    (heq : XPath.conditionTest (make name) ++ more = XPath.conditionTest (make value) ++ more') :
    name = value := by
  obtain ⟨front, space, back, hspace, htest⟩ := h.exists_conditionTest
  have hspaced : ∀ text, '\'' ∉ text → '\'' ∉ text ++ space := fun text htext => by
    simp [htext, hspace]
  rw [htest name hname, htest value hvalue, List.append_assoc, List.append_assoc,
    List.append_cancel_left_eq] at heq
  simp only [List.cons_append, List.append_assoc, List.cons.injEq, true_and,
    List.append_cancel_left_eq] at heq
  rw [← List.append_assoc, ← List.append_assoc] at heq
  exact List.append_cancel_right (eq_of_append_cons (hspaced name hname) (hspaced value hvalue) heq)

/-! ## what is read instead -/

/-- The identifier survives, or only its beginning is read, or the first code in it is read as the
digits. -/
theorem readIdent_cases (hnull : '\x00' ∉ value) :
    Survives value ∨
    (∃ front, (Reader.readIdent (Text.trimEnd (identText value))).1 = front ∧ front <+: value ∧
      front ≠ value) ∨
    ∃ front c back, value = front ++ c :: back ∧ isCoded front c = true ∧
      (Reader.readIdent (Text.trimEnd (identText value))).1 = front ++ Nat.toDigits 16 c.toNat := by
  cases hcode : hasCode [] value with
  | true => exact .inr (.inr (readIdent_coded hnull hcode))
  | false =>
      by_cases hblank : ∃ c ∈ value.getLast?, Text.isBlank c = true
      · obtain ⟨front, hread, hfront⟩ := readIdent_padded hnull hcode hblank
        exact .inr (.inl ⟨front, by rw [hread], hfront⟩)
      · refine .inl ⟨hcode, fun c hc => ?_⟩
        simpa using fun hc' => hblank ⟨c, hc, hc'⟩

/-- An identifier that does not survive is read as another one, but for two numbers. -/
theorem readIdent_ne (hnull : '\x00' ∉ value) (h : ¬Survives value) :
    (Reader.readIdent (Text.trimEnd (identText value))).1 ≠ value ∨
      value = ['3', '3'] ∨ value = ['-', '3', '3'] := by
  rcases readIdent_cases hnull with hsurvives | ⟨front, hread, -, hne⟩ |
    ⟨front, c, back, rfl, hcoded, hread⟩
  · exact absurd hsurvives h
  · exact .inl (by rwa [hread])
  · rw [hread, ne_eq, List.append_cancel_left_eq]
    by_cases hdigits : Nat.toDigits 16 c.toNat = c :: back
    · obtain ⟨rfl, hfront⟩ := (digits_of_isCoded hcoded).2.2 (by rw [hdigits]; rfl)
      obtain rfl : ['3'] = back := (List.cons.inj hdigits).2
      rcases hfront with rfl | rfl
      · exact .inr (.inl rfl)
      · exact .inr (.inr rfl)
    · exact .inl hdigits

/-- No apostrophe gets into what is read. -/
theorem quote_not_mem_readIdent (hnull : '\x00' ∉ value) (hquote : '\'' ∉ value) :
    '\'' ∉ (Reader.readIdent (Text.trimEnd (identText value))).1 := by
  rcases readIdent_cases hnull with hsurvives | ⟨front, hread, hinitial, -⟩ |
    ⟨front, c, back, rfl, hcoded, hread⟩
  · rwa [readIdent_survives hnull hsurvives]
  · rw [hread]
    exact fun hmem => hquote (hinitial.subset hmem)
  · rw [hread, List.mem_append, not_or]
    refine ⟨fun hmem => hquote (List.mem_append_left _ hmem), fun hmem => ?_⟩
    exact absurd ((digits_of_isCoded hcoded).2.1 _ hmem) (by decide)

/-- Behind the digits of these two numbers stands no selector. -/
theorem IsMark.readSelectors_number (h : IsMark sign make)
    (hvalue : value = ['3', '3'] ∨ value = ['-', '3', '3']) (selectors : List Complex) :
    readSelectors (sign :: Text.trimEnd (identText value)) ≠ .ok selectors := by
  rcases h with ⟨rfl, rfl⟩ | ⟨rfl, rfl⟩ <;> rcases hvalue with rfl | rfl <;>
    (intro hread; cases hread)

/-- **The path of a selector of one identifier tests for the identifier just where that
survives.** -/
theorem IsMark.cssToXPath_iff (h : IsMark sign make) (lead : String) (hnull : '\x00' ∉ value)
    (hquote : '\'' ∉ value) :
    Query.cssToXPath (String.ofList (sign :: identText value)) lead =
        .ok (String.ofList
          (lead.toList ++ '*' :: '[' :: (XPath.conditionTest (make value) ++ [']']))) ↔
      Survives value := by
  have htrim : Text.trim (String.ofList (sign :: identText value)).toList =
      sign :: Text.trimEnd (identText value) := by rw [String.toList_ofList, h.trim]
  rw [Query.cssToXPath, htrim]
  constructor
  · intro hok
    by_contra hsurvives
    cases hread : readSelectors (sign :: Text.trimEnd (identText value)) with
    | error refusal =>
        rw [hread] at hok
        contradiction
    | ok selectors =>
        obtain ⟨conditions, tail, others, hselectors⟩ := h.readSelectors_head hread
        obtain ⟨more, hmore⟩ := ofSelectors_head lead.toList
          (make (Reader.readIdent (Text.trimEnd (identText value))).1) conditions tail others
        rw [hread, hselectors] at hok
        dsimp only at hok
        rw [hmore, Except.ok.injEq, String.ofList_inj, List.append_cancel_left_eq, List.cons.injEq,
          List.cons.injEq] at hok
        have hname := h.conditionTest_injective (quote_not_mem_readIdent hnull hquote) hquote
          hok.2.2
        rcases readIdent_ne hnull hsurvives with hne | hvalue
        · exact hne hname
        · exact h.readSelectors_number hvalue selectors hread
  · intro hsurvives
    rw [h.readSelectors_alone (readIdent_survives hnull hsurvives)]
    simp [XPath.ofSelectors, XPath.pathOf, XPath.nodeTest, XPath.predicates]

end Extractor.Css

namespace Extractor.Query

open Css

theorem ofList_cons_identText (sign : Char) (value : String) :
    String.ofList (sign :: identText value.toList) = String.ofList [sign] ++ identifier value := by
  rw [identifier, ← String.ofList_append, List.singleton_append]

/-- The path of an id names it. -/
theorem idPath_eq (value lead : String) (hquote : '\'' ∉ value.toList) :
    String.ofList (lead.toList ++ '*' :: '[' ::
      (XPath.conditionTest (.hasId value.toList) ++ [']'])) =
        lead ++ "*[@id = '" ++ value ++ "']" := by
  have hopen : "*[@id = '".toList = '*' :: '[' :: ("@id = ".toList ++ ['\'']) := by decide
  have hclose : "']".toList = ['\'', ']'] := by decide
  rw [← String.toList_inj, String.toList_ofList]
  dsimp only [XPath.conditionTest]
  simp only [literal_of_not_mem hquote, String.toList_append, hopen, hclose, List.append_assoc,
    List.cons_append, List.nil_append]

/-- The path of a class names it among the words of the attribute. -/
theorem classPath_eq (value lead : String) (hquote : '\'' ∉ value.toList) :
    String.ofList (lead.toList ++ '*' :: '[' ::
      (XPath.conditionTest (.hasClass value.toList) ++ [']'])) =
        lead ++ "*[@class and contains(concat(' ', normalize-space(@class), ' '), ' " ++ value
          ++ " ')]" := by
  have hopen : "*[@class and contains(concat(' ', normalize-space(@class), ' '), ' ".toList =
      '*' :: '[' :: '@' :: ("class".toList ++ (" and contains(concat(' ', normalize-space(@".toList
        ++ ("class".toList ++ ("), ' '), ".toList ++ ['\'', ' '])))) := by decide
  have hclose : " ')]".toList = [' ', '\'', ')', ']'] := by decide
  have hspaced : '\'' ∉ ' ' :: (value.toList ++ [' ']) := by simpa using hquote
  rw [← String.toList_inj, String.toList_ofList]
  dsimp only [XPath.conditionTest]
  simp only [XPath.wordTest, literal_of_not_mem hspaced, String.toList_append, hopen, hclose,
    List.append_assoc, List.cons_append, List.nil_append]

/-- **Identifiers are kept but for codes and white space at the end.** A selector of one id or class
in its standard text becomes a path that tests for it, exactly if no character of it is written by
its code and it does not end with white space. -/
theorem cssToXPath_identifier (value lead : String) (hnull : '\x00' ∉ value.toList)
    (hquote : '\'' ∉ value.toList) :
    (cssToXPath ("#" ++ identifier value) lead = .ok (lead ++ "*[@id = '" ++ value ++ "']") ↔
      Survives value.toList) ∧
    (cssToXPath ("." ++ identifier value) lead =
        .ok (lead ++ "*[@class and contains(concat(' ', normalize-space(@class), ' '), ' " ++ value
          ++ " ')]") ↔
      Survives value.toList) := by
  have hid := IsMark.cssToXPath_iff (.inl ⟨rfl, rfl⟩) lead hnull hquote
  have hclass := IsMark.cssToXPath_iff (.inr ⟨rfl, rfl⟩) lead hnull hquote
  rw [ofList_cons_identText, idPath_eq value lead hquote] at hid
  rw [ofList_cons_identText, classPath_eq value lead hquote] at hclass
  exact ⟨hid, hclass⟩

/-- An identifier with a dot and a colon survives as an id and as a class. -/
theorem cssToXPath_identifier_dotted :
    identifier "a.b:2" = "a\\.b\\:2" ∧ Survives "a.b:2".toList ∧
    cssToXPath "#a\\.b\\:2" XPath.defaultPrefix = .ok "descendant-or-self::*[@id = 'a.b:2']" ∧
    cssToXPath ".a\\.b\\:2" XPath.defaultPrefix = .ok ("descendant-or-self::*[@class and " ++
      "contains(concat(' ', normalize-space(@class), ' '), ' a.b:2 ')]") := by
  have htext : identifier "a.b:2" = "a\\.b\\:2" := by decide
  have hsurvives : Survives "a.b:2".toList := by decide
  have hkept := cssToXPath_identifier "a.b:2" XPath.defaultPrefix (by decide) (by decide)
  rw [htext] at hkept
  exact ⟨htext, hsurvives, hkept.1.mpr hsurvives, hkept.2.mpr hsurvives⟩

/-- A digit at the start is written by its code, and the code is read as an identifier of its own
with another selector behind it; a space at the end is lost. -/
theorem cssToXPath_misreads :
    identifier "1a" = "\\31 a" ∧
    cssToXPath "#\\31 a" XPath.defaultPrefix =
      .ok "descendant-or-self::*[@id = '31']/descendant-or-self::*/a" ∧
    identifier "a " = "a\\ " ∧
    cssToXPath "#a\\ " XPath.defaultPrefix = .ok "descendant-or-self::*[@id = 'a']" := by
  decide

end Extractor.Query
