import Extractor.Libraries.Standard
import Extractor.Proofs.Lexing

/-!
# Extractor.Proofs.Numerals

Numbers come back from their digits. An integer is read from the digits that it
is written with (`Scans.integer`). How decimals are written and read is the affair
of a library, of which `LawfulDecimals` says what is needed: a decimal is written
with all digits of its scale, and these are read one by one without rounding, as
long as the decimal is within the bounds that everything read is within. So it is
a token of its text (`Scans.fraction`).
-/

namespace Extractor

/-! ## digits -/

namespace Text

/-- Nothing but digits. -/
def Digits (cs : List Char) : Prop := ∀ c ∈ cs, isAsciiDigit c = true

/-- Nothing that goes on with a number. -/
def EndsNumber (rest : List Char) : Prop :=
  ∀ c ∈ rest.head?, isAsciiDigit c = false ∧ c ≠ '_' ∧ c ≠ '.'

/-- Numbers are written with digits. -/
theorem digits_toDigits (n : Nat) : Digits (Nat.toDigits 10 n) := fun _ hc =>
  Nat.isDigit_of_mem_toDigits (by decide) (by decide) hc

theorem Digits.append {cs ds : List Char} (hcs : Digits cs) (hds : Digits ds) :
    Digits (cs ++ ds) := fun c hc => (List.mem_append.mp hc).elim (hcs c) (hds c)

/-- What holds of the ten digits holds of each character that is one. -/
theorem forall_digit {P : Char → Prop} (h : ∀ n < 10, P (Char.ofNat (48 + n))) :
    ∀ c, isAsciiDigit c = true → P c := by
  intro c hc
  rw [isAsciiDigit, Bool.and_eq_true, decide_eq_true_eq, decide_eq_true_eq] at hc
  have hfirst : 48 ≤ c.toNat := hc.1
  have hlast : c.toNat ≤ 57 := hc.2
  have hP := h (c.toNat - 48) (by omega)
  rwa [Nat.add_sub_cancel' hfirst, Char.ofNat_toNat] at hP

/-- What starts a number starts nothing else. -/
theorem of_isAsciiDigit : ∀ c, isAsciiDigit c = true →
    isBlank c = false ∧ c ≠ '#' ∧ c ≠ 'r' ∧ c ≠ '.' ∧ c ≠ '-' ∧ c ≠ '+' ∧
      Lexer.punctuation? c = none ∧ Lexer.isQuote c = false ∧ Lexer.isNameStart c = false :=
  forall_digit (by decide +kernel)

/-- More digits make no smaller value. -/
theorem le_ofDigitChars (n : Nat) (cs : List Char) : n ≤ Nat.ofDigitChars 10 cs n := by
  induction cs generalizing n with
  | nil => exact Nat.le_refl n
  | cons c cs ih =>
      rw [Nat.ofDigitChars_cons]
      exact Nat.le_trans (by omega) (ih _)

end Text

open Text

theorem Lexer.digitsValue_eq (digits : List Char) :
    digitsValue digits = Nat.ofDigitChars 10 digits 0 := by
  simp only [digitsValue, Nat.ofDigitChars, Decimal.digitValue, Nat.mul_comm]

/-! ## decimals -/

namespace Decimal

variable {d : Decimal} {m scale : Nat} {front back digits : List Char}

/-- The decimal is within the bounds of its mantissa and its scale. -/
def Fits (d : Decimal) : Prop := d.mantissa < mantissaBound ∧ d.scale ≤ maxScale

instance (d : Decimal) : Decidable d.Fits := inferInstanceAs (Decidable (_ ∧ _))

/-! ### what is read fits -/

/-- Rounding keeps to the bounds. -/
theorem fits_of_roundOff {c : Char} {r : Nat × Nat} (hm : m < mantissaBound)
    (hscale : scale ≤ maxScale) (h : roundOff m scale c = some r) :
    r.1 < mantissaBound ∧ r.2 ≤ maxScale := by
  unfold roundOff at h
  split at h
  · cases h
    exact ⟨hm, hscale⟩
  · split at h
    · next hnext =>
        cases h
        exact ⟨hnext, hscale⟩
    · split at h
      · cases h
      · cases h
        exact ⟨Nat.lt_of_le_of_lt (by omega) hm, Nat.le_trans (Nat.sub_le _ _) hscale⟩

/-- Every part of a decimal that is read keeps to the bounds. -/
theorem fits_of_readFraction {r : Nat × Nat} (hm : m < mantissaBound) (hscale : scale ≤ maxScale)
    (h : readFraction m scale digits = some r) : r.1 < mantissaBound ∧ r.2 ≤ maxScale := by
  fun_induction readFraction m scale digits with
  | case1 =>
      cases h
      exact ⟨hm, hscale⟩
  | case2 => cases h
  | case3 => exact fits_of_roundOff hm hscale h
  | case4 m scale c cs hdigit hroom ih =>
      simp only [Bool.or_eq_true, beq_iff_eq, decide_eq_true_eq, not_or, ge_iff_le,
        Nat.not_le] at hroom
      exact ih hroom.2 (by omega) h

theorem fits_of_readInteger {r : Nat × Nat} (hm : m < mantissaBound)
    (h : readInteger m digits = some r) : r.1 < mantissaBound ∧ r.2 ≤ maxScale := by
  fun_induction readInteger m digits with
  | case1 =>
      cases h
      exact ⟨hm, Nat.zero_le _⟩
  | case2 => exact fits_of_readFraction hm (Nat.zero_le _) h
  | case3 => cases h
  | case4 => cases h
  | case5 m c cs hpoint hdigit hroom ih => exact ih (Nat.lt_of_not_le hroom) h

theorem fits_of_readUnsigned? {r : Nat × Nat} (h : readUnsigned? digits = some r) :
    r.1 < mantissaBound ∧ r.2 ≤ maxScale := by
  rw [readUnsigned?] at h
  split at h
  · exact fits_of_readInteger (by decide) h
  · cases h

/-- **Every decimal that is read is within the bounds.** -/
theorem fits_of_parse? (h : parse? digits = some d) : d.Fits := by
  obtain ⟨r, hr, rfl⟩ := Option.map_eq_some_iff.mp h
  exact fits_of_readUnsigned? hr

/-! ### what fits is read -/

/-- A fraction is read digit by digit as long as it fits. -/
theorem readFraction_digits (hback : Digits back) (hscale : scale + back.length ≤ maxScale)
    (hbound : Nat.ofDigitChars 10 back m < mantissaBound) :
    readFraction m scale back = some (Nat.ofDigitChars 10 back m, scale + back.length) := by
  induction back generalizing m scale with
  | nil => rfl
  | cons c back ih =>
      obtain ⟨hc, hback⟩ := List.forall_mem_cons.mp hback
      rw [List.length_cons] at hscale
      have hvalue : 10 * m + (c.toNat - '0'.toNat) = m * 10 + digitValue c := by
        rw [Nat.mul_comm, digitValue]
      rw [Nat.ofDigitChars_cons, hvalue] at hbound ⊢
      -- all digits together do not overflow, so none of them does
      have hroom :
          (scale == maxScale || decide (m * 10 + digitValue c ≥ mantissaBound)) = false := by
        have hprefix := le_ofDigitChars (m * 10 + digitValue c) back
        simp only [Bool.or_eq_false_iff, beq_eq_false_iff_ne, decide_eq_false_iff_not]
        omega
      rw [readFraction, hc, hroom, ih hback (by omega) hbound, List.length_cons, Nat.add_assoc,
        Nat.add_comm 1]
      rfl

/-- The digits in front of the point are read as they are. -/
theorem readInteger_append (hfront : Digits front)
    (hbound : Nat.ofDigitChars 10 front m < mantissaBound) :
    readInteger m (front ++ '.' :: back) = readFraction (Nat.ofDigitChars 10 front m) 0 back := by
  induction front generalizing m with
  | nil => rfl
  | cons c front ih =>
      obtain ⟨hc, hfront⟩ := List.forall_mem_cons.mp hfront
      have hvalue : 10 * m + (c.toNat - '0'.toNat) = m * 10 + digitValue c := by
        rw [Nat.mul_comm, digitValue]
      rw [Nat.ofDigitChars_cons, hvalue] at hbound ⊢
      have hprefix := le_ofDigitChars (m * 10 + digitValue c) front
      have hpoint : (c == '.') = false := beq_eq_false_iff_ne.mpr (of_isAsciiDigit c hc).2.2.2.1
      rw [List.cons_append, readInteger, hpoint, hc, if_neg Bool.false_ne_true,
        if_neg (by decide), if_neg (by omega), ih hfront hbound]

/-- Digits with a point among them are read without rounding if the decimal fits. -/
theorem parse?_append (hne : front ≠ []) (hfront : Digits front) (hback : Digits back)
    (hscale : back.length ≤ maxScale)
    (hbound : Nat.ofDigitChars 10 (front ++ back) 0 < mantissaBound) :
    parse? (front ++ '.' :: back) =
      some ⟨false, Nat.ofDigitChars 10 (front ++ back) 0, back.length⟩ := by
  obtain ⟨c, front, rfl⟩ := List.exists_cons_of_ne_nil hne
  have hc := hfront c List.mem_cons_self
  obtain ⟨-, -, -, -, hminus, hplus, -⟩ := of_isAsciiDigit c hc
  rw [Nat.ofDigitChars_append] at hbound ⊢
  have hinteger := Nat.lt_of_le_of_lt (le_ofDigitChars _ back) hbound
  have hread : readUnsigned? (c :: front ++ '.' :: back) =
      some (Nat.ofDigitChars 10 back (Nat.ofDigitChars 10 (c :: front) 0), back.length) := by
    rw [readUnsigned?, if_pos (by simp [hc]), readInteger_append hfront hinteger,
      readFraction_digits hback (by omega) hbound, Nat.zero_add]
  unfold parse?
  split
  next negative digits hmatch =>
    split at hmatch
    · next heq => exact absurd (List.cons.inj heq).1 hminus
    · next heq => exact absurd (List.cons.inj heq).1 hplus
    · obtain ⟨rfl, rfl⟩ := Prod.mk.inj hmatch
      rw [hread]
      rfl

/-! ### written forms -/

/-- The padded digits of a decimal have its value, with at least one in front of the point. -/
theorem paddedDigits_spec (d : Decimal) : Digits d.paddedDigits ∧ d.scale < d.paddedDigits.length ∧
    Nat.ofDigitChars 10 d.paddedDigits 0 = d.mantissa := by
  have hzeros : ∀ n, Digits (List.replicate n '0') := fun n c hc => by
    rw [(List.mem_replicate.mp hc).2]
    decide
  refine ⟨(hzeros _).append (digits_toDigits d.mantissa), ?_, ?_⟩
  · rw [paddedDigits, List.length_append, List.length_replicate]
    omega
  · rw [paddedDigits, Nat.ofDigitChars_append, Nat.ofDigitChars_replicate_zero, Nat.mul_zero]
    exact Nat.ofDigitChars_toDigits (by decide) (by decide)

/-- A decimal that is not negative and has a fraction is written as digits with a point among them,
as many behind it as the scale says. -/
theorem exists_chars_eq (hnegative : d.negative = false) (hscale : 1 ≤ d.scale) :
    ∃ front back, d.chars = front ++ '.' :: back ∧ front ≠ [] ∧ Digits front ∧ Digits back ∧
      back.length = d.scale ∧ Nat.ofDigitChars 10 (front ++ back) 0 = d.mantissa := by
  obtain ⟨hdigits, hlength, hvalue⟩ := d.paddedDigits_spec
  refine ⟨d.paddedDigits.take (d.paddedDigits.length - d.scale),
    d.paddedDigits.drop (d.paddedDigits.length - d.scale), ?_, ?_,
    fun c hc => hdigits c (List.mem_of_mem_take hc),
    fun c hc => hdigits c (List.mem_of_mem_drop hc), ?_, ?_⟩
  · have hfraction : (d.scale == 0) = false := beq_eq_false_iff_ne.mpr (by omega)
    simp only [chars, hnegative, hfraction, Bool.false_eq_true, if_false]
  · refine List.ne_nil_of_length_pos ?_
    rw [List.length_take]
    omega
  · rw [List.length_drop]
    omega
  · rw [List.take_append_drop, hvalue]

/-- A negative decimal is written as its opposite behind a sign. -/
theorem chars_of_negative (hnegative : d.negative = true) : d.chars = '-' :: d.neg.chars := by
  simp [chars, neg, hnegative, paddedDigits]

/-- A decimal that fits is read back from its characters. -/
theorem parse?_chars (hnegative : d.negative = false) (hscale : 1 ≤ d.scale) (hfits : d.Fits) :
    parse? d.chars = some d := by
  obtain ⟨front, back, hchars, hne, hfront, hback, hlength, hvalue⟩ :=
    exists_chars_eq hnegative hscale
  rw [hchars, parse?_append hne hfront hback (hlength ▸ hfits.2) (hvalue ▸ hfits.1), hvalue,
    hlength, ← hnegative]

end Decimal

/-! ## the library of decimals -/

namespace Libraries

/-- The library writes decimals exactly and reads them back: a sign is written in front, a decimal
with a fraction is written with all digits of its scale, and what is written is read without
rounding if it is within the bounds. -/
class LawfulDecimals [Libraries] : Prop where
  /-- Every decimal that is read is within the bounds. -/
  fits_of_read {digits : List Char} {d : Decimal} : readDecimal? digits = some d → d.Fits
  /-- The text of a negative decimal is that of its negative behind a sign. -/
  chars_of_negative {d : Decimal} :
    d.negative = true → decimalChars d = '-' :: decimalChars d.neg
  /-- There are as many digits behind the point as the scale says. -/
  exists_chars_eq {d : Decimal} : d.negative = false → 1 ≤ d.scale →
    ∃ front back, decimalChars d = front ++ '.' :: back ∧ front ≠ [] ∧ Digits front ∧
      Digits back ∧ back.length = d.scale
  /-- What has been written is read back. -/
  read_chars {d : Decimal} : d.negative = false → 1 ≤ d.scale → d.Fits →
    readDecimal? (decimalChars d) = some d

instance : LawfulDecimals where
  fits_of_read := Decimal.fits_of_parse?
  chars_of_negative := Decimal.chars_of_negative
  exists_chars_eq hnegative hscale := by
    obtain ⟨front, back, hchars, hne, hfront, hback, hlength, -⟩ :=
      Decimal.exists_chars_eq hnegative hscale
    exact ⟨front, back, hchars, hne, hfront, hback, hlength⟩
  read_chars := Decimal.parse?_chars

end Libraries

/-! ## reading numbers -/

namespace Lexer

variable {p : Position} {front back rest : List Char} {fraction : Bool}

/-- Digits end where no number goes on. -/
theorem readDigits_end (hrest : EndsNumber rest) :
    readDigits fraction p rest = ([], fraction, ⟨p, rest⟩) := by
  cases rest with
  | nil => rfl
  | cons c rest =>
      obtain ⟨hdigit, hunderscore, hpoint⟩ := hrest c rfl
      simp [readDigits, hdigit, hunderscore, hpoint]

/-- Digits are read up to the end of the number. -/
theorem readDigits_digits (hfront : Digits front) (hrest : EndsNumber rest) :
    readDigits fraction p (front ++ rest) = (front, fraction, ⟨p.after front, rest⟩) := by
  induction front generalizing p with
  | nil => exact readDigits_end hrest
  | cons c front ih =>
      obtain ⟨hc, hfront⟩ := List.forall_mem_cons.mp hfront
      rw [List.cons_append, readDigits, if_pos hc, ih hfront]
      rfl

/-- The first point with a digit behind it is read with the digits around it. -/
theorem readDigits_point (hfront : Digits front) (hne : back ≠ []) (hback : Digits back)
    (hrest : EndsNumber rest) : readDigits false p (front ++ '.' :: back ++ rest) =
      (front ++ '.' :: back, true, ⟨p.after (front ++ '.' :: back), rest⟩) := by
  induction front generalizing p with
  | nil =>
      obtain ⟨c, back, rfl⟩ := List.exists_cons_of_ne_nil hne
      have hc := hback c List.mem_cons_self
      have hpoint : Text.isAsciiDigit '.' = false := by decide
      have hnext : (c :: back ++ rest).head?.any isAsciiDigit = true := hc
      rw [List.nil_append, List.cons_append, readDigits, hpoint, hnext, if_neg Bool.false_ne_true,
        if_neg (by decide), if_pos (by decide), readDigits_digits hback hrest]
      rfl
  | cons c front ih =>
      obtain ⟨hc, hfront⟩ := List.forall_mem_cons.mp hfront
      rw [List.cons_append, List.cons_append, readDigits, if_pos hc, ih hfront]
      rfl

/-- A digit in front starts a number. -/
theorem readToken_number [Libraries] {c : Char} {cs digits : List Char} {token : Token}
    {after : Cursor} (hc : isAsciiDigit c = true)
    (hdigits : readDigits false p (c :: cs) = (digits, fraction, after))
    (htoken : numberToken p digits fraction = .ok token) :
    readToken p c cs = .ok (token, after) := by
  obtain ⟨-, -, hraw, -, -, -, hpunctuation, hquote, hstart⟩ := of_isAsciiDigit c hc
  rw [readToken, hpunctuation]
  simp only [hquote, hraw, hstart, hc, decide_false, Bool.false_and, Bool.false_eq_true, if_false,
    if_true, hdigits, htoken]
  rfl

end Lexer

namespace Scans

variable [Libraries]

variable {text rest : List Char} {tokens : List Token} {token : Token}

/-- A number is read whose digits are all taken. -/
theorem number {fraction : Bool} (hne : text ≠ []) (hhead : ∀ c ∈ text.head?, isAsciiDigit c = true)
    (hdigits : ∀ p, Lexer.readDigits false p (text ++ rest) =
      (text, fraction, ⟨p.after text, rest⟩))
    (htoken : ∀ p, Lexer.numberToken p text fraction = .ok token) (hend : token ≠ .endOfInput)
    (h : Scans rest tokens) : Scans (text ++ rest) (token :: tokens) := by
  obtain ⟨c, text, rfl⟩ := List.exists_cons_of_ne_nil hne
  have hc := hhead c rfl
  obtain ⟨hblank, hcomment, -⟩ := of_isAsciiDigit c hc
  refine cons hblank hcomment hend (by simp) (fun p => ?_) h
  exact ⟨_, Lexer.readToken_number hc (hdigits p) (htoken p)⟩

/-- **An integer is read from its digits.** -/
theorem integer {n : Nat} (hn : n < Nat.pow 2 63) (hrest : EndsNumber rest)
    (h : Scans rest tokens) :
    Scans (Nat.toDigits 10 n ++ rest) (.integer n :: tokens) := by
  have hvalue : Lexer.digitsValue (Nat.toDigits 10 n) = n :=
    (Lexer.digitsValue_eq _).trans (Nat.ofDigitChars_toDigits (by decide) (by decide))
  refine number Nat.toDigits_ne_nil (fun c hc => digits_toDigits n c (List.mem_of_mem_head? hc))
    (fun p => Lexer.readDigits_digits (digits_toDigits n) hrest) (fun p => ?_) (by simp) h
  rw [Lexer.numberToken, hvalue, if_neg Bool.false_ne_true, if_pos hn]

/-- **A decimal is read from its text**, with its scale. -/
theorem fraction [Libraries.LawfulDecimals] {d : Decimal} (hnegative : d.negative = false)
    (hscale : 1 ≤ d.scale) (hfits : d.Fits) (hrest : EndsNumber rest) (h : Scans rest tokens) :
    Scans (Libraries.decimalChars d ++ rest) (.float d :: tokens) := by
  obtain ⟨front, back, hchars, hne, hfront, hback, hlength⟩ :=
    Libraries.LawfulDecimals.exists_chars_eq hnegative hscale
  have hread := Libraries.LawfulDecimals.read_chars hnegative hscale hfits
  have hback_ne : back ≠ [] := List.ne_nil_of_length_pos (by omega)
  rw [hchars] at hread ⊢
  refine number (by simp) (fun c hc => ?_)
    (fun p => Lexer.readDigits_point hfront hback_ne hback hrest) (fun p => ?_) (by simp) h
  · rw [List.head?_append_of_ne_nil _ hne] at hc
    exact hfront c (List.mem_of_mem_head? hc)
  · rw [Lexer.numberToken, hread, if_pos rfl]

end Scans

end Extractor
