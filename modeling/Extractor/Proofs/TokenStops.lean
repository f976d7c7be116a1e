import Extractor.Proofs.XPathText

/-!
# Extractor.Proofs.TokenStops

Where the tokens of a query end. Every text has at most one sequence of tokens, and it
is accepted exactly if that derives from the grammar (`Scans.accepts_iff`). No token
goes on across white space or a slash, but for a literal and for the two slashes of
one separator. So a text that is cut there into two is cut into tokens part by part
(`Scans.cut`).
-/

namespace Extractor.XPath

open Outcome

/-! ## what a token leaves -/

theorem isNamePart_of_isNameStart {c : Char} (h : isNameStart c = true) : isNamePart c = true := by
  simp only [isNameStart, isNamePart, Text.isAlphanumeric, Bool.or_eq_true] at h ⊢
  tauto

theorem isNamePart_of_isAsciiDigit {c : Char} (h : Text.isAsciiDigit c = true) :
    isNamePart c = true :=
  isNamePart_of_isPlainChar (Css.isPlainChar_of_isAsciiDigit h)

/-- What each reader leaves is the end of the text. -/
theorem skipLiteral?_suffix {quote : Char} {cs rest : List Char}
    (h : skipLiteral? quote cs = some rest) : rest <:+ cs := by
  induction cs with
  | nil => cases h
  | cons c cs ih =>
      rw [skipLiteral?] at h
      split at h
      · cases h
        exact List.suffix_cons c _
      · exact (ih h).trans (List.suffix_cons c cs)

theorem skipLiteral?_eq_none {quote : Char} {cs : List Char} (h : quote ∉ cs) :
    skipLiteral? quote cs = none := by
  induction cs with
  | nil => rfl
  | cons c cs ih =>
      obtain ⟨hc, hcs⟩ := List.ne_and_not_mem_of_not_mem_cons h
      rw [skipLiteral?, if_neg hc.symm, ih hcs]

theorem skipNumber_suffix (cs : List Char) : skipNumber cs <:+ cs.dropWhile Text.isAsciiDigit := by
  rw [skipNumber]
  split
  · next heq =>
      rw [heq]
      exact (List.dropWhile_suffix _).trans (List.suffix_cons _ _)
  · exact List.suffix_refl _

theorem readName_suffix (cs : List Char) : (readName cs).2 <:+ cs.dropWhile isNamePart := by
  rw [readName, List.span_eq_takeWhile_dropWhile]
  dsimp only
  split
  · next heq =>
      rw [heq]
      exact (List.suffix_cons _ _).trans (List.suffix_cons _ _)
  · next heq =>
      rw [heq]
      split
      · rw [List.span_eq_takeWhile_dropWhile]
        exact (List.dropWhile_suffix _).trans (List.suffix_cons _ _)
      · exact List.suffix_refl _
  · exact List.suffix_refl _

/-- A token leaves the end of the text behind it. -/
theorem readToken_suffix {c : Char} {cs rest : List Char} {t : Token}
    (h : readToken c cs = .ok (t, rest)) : rest <:+ cs := by
  unfold readToken at h
  split at h
  · cases h
    exact List.tail_suffix cs
  · split at h
    · next hnumber =>
        cases h
        by_cases hdigit : Text.isAsciiDigit c = true
        · have hsuffix := skipNumber_suffix (c :: cs)
          rw [List.dropWhile_cons_of_pos hdigit] at hsuffix
          exact hsuffix.trans (List.dropWhile_suffix _)
        · obtain rfl : c = '.' := by simp_all
          exact List.dropWhile_suffix _
    · split at h
      · cases h
        exact List.suffix_refl _
      · split at h
        · split at h
          · next hskip =>
              cases h
              exact skipLiteral?_suffix hskip
          · cases h
        · split at h
          · next hstart =>
              cases h
              have hsuffix := readName_suffix (c :: cs)
              rw [List.dropWhile_cons_of_pos (isNamePart_of_isNameStart hstart)] at hsuffix
              exact hsuffix.trans (List.dropWhile_suffix _)
          · cases h

/-- Pairs of signs are neither names nor stars. -/
theorem double?_ne_name {c d : Char} {n : String} : double? c d ≠ some (.name n) := by
  unfold double?
  split <;> simp

theorem double?_ne_star {c d : Char} : double? c d ≠ some .star := by
  unfold double?
  split <;> simp

theorem single?_ne_name {c : Char} {n : String} : single? c ≠ some (.name n) := by
  unfold single?
  split <;> simp

theorem eq_of_single?_star {c : Char} (h : single? c = some .star) : c = '*' := by
  unfold single? at h
  split at h <;> first | rfl | cases h

/-- The shapes of tokens, by the character they start with. -/
inductive TokenShape (c : Char) (cs rest : List Char) : Token → Prop
  | pair {d t} (h : double? c d = some t) : TokenShape c cs rest t
  | mark {t} (h : single? c = some t) (hrest : rest = cs) : TokenShape c cs rest t
  | number (h : Text.isAsciiDigit c = true ∨ c = '.') : TokenShape c cs rest .number
  | literal (h : c = '"' ∨ c = '\'') : TokenShape c cs rest .literal
  | name {n} (hstart : isNameStart c = true) (hrest : rest = (readName (c :: cs)).2) :
      TokenShape c cs rest (.name n)

/-- The kind of a token tells how it was read. -/
theorem readToken_shape {c : Char} {cs rest : List Char} {t : Token}
    (h : readToken c cs = .ok (t, rest)) : TokenShape c cs rest t := by
  unfold readToken at h
  split at h
  · next hpair =>
      cases h
      obtain ⟨d, -, hd⟩ := Option.bind_eq_some_iff.mp hpair
      exact .pair hd
  · split at h
    · next hnumber =>
        cases h
        simp only [Bool.or_eq_true, Bool.and_eq_true, decide_eq_true_eq] at hnumber
        exact .number (hnumber.imp_right And.left)
    · split at h
      · next hmark =>
          cases h
          exact .mark hmark rfl
      · split at h
        · next hquote =>
            split at h <;> cases h
            exact .literal (by simpa using hquote)
        · split at h <;> cases h
          next hstart => exact .name hstart rfl

/-! ## texts and their tokens -/

namespace Scans

variable {cs rest : List Char} {us vs : List Token}

/-- How a text with tokens starts: with white space or with the first of them. -/
theorem cons_iff {c : Char} : Scans (c :: cs) us ↔ Text.isBlank c = true ∧ Scans cs us ∨
    Text.isBlank c = false ∧
      ∃ t rest vs, readToken c cs = .ok (t, rest) ∧ us = t :: vs ∧ Scans rest vs := by
  constructor
  · intro h
    generalize htext : c :: cs = text at h
    cases h with
    | nil => cases htext
    | blank hc h =>
        cases htext
        exact .inl ⟨hc, h⟩
    | token hc ht h =>
        cases htext
        exact .inr ⟨hc, _, _, _, ht, rfl, h⟩
  · rintro (⟨hc, h⟩ | ⟨hc, t, rest, vs, ht, rfl, h⟩)
    · exact .blank hc h
    · obtain ⟨piece, rfl⟩ := readToken_suffix ht
      exact .token hc ht h

theorem blanks_iff {front : List Char} (hfront : ∀ c ∈ front, Text.isBlank c = true) :
    Scans (front ++ cs) us ↔ Scans cs us := by
  induction front with
  | nil => rfl
  | cons c front ih =>
      obtain ⟨hc, hfront⟩ := List.forall_mem_cons.mp hfront
      rw [List.cons_append, cons_iff, ih hfront]
      simp [hc]

/-- A text has one sequence of tokens at most. -/
theorem unique (h : Scans cs us) (h' : Scans cs vs) : us = vs := by
  obtain ⟨ts, hscan, htokens⟩ := h.scanFrom_eq cs.length (Nat.lt_succ_self _)
  obtain ⟨ts', hscan', htokens'⟩ := h'.scanFrom_eq cs.length (Nat.lt_succ_self _)
  rw [hscan] at hscan'
  cases hscan'
  exact List.append_cancel_right (htokens.symm.trans htokens')

/-- A text that is cut has tokens. -/
theorem of_scanFrom {size fuel : Nat} {ts : List Lexeme} (h : scanFrom size fuel cs = .ok ts)
    (hfuel : cs.length < fuel) : ∃ us, Scans cs us := by
  induction fuel generalizing cs ts with
  | zero => exact absurd hfuel (Nat.not_lt_zero _)
  | succ fuel ih =>
      have hcs : cs.takeWhile Text.isBlank ++ cs.dropWhile Text.isBlank = cs :=
        List.takeWhile_append_dropWhile
      have hblanks := List.all_eq_true.mp (List.all_takeWhile (p := Text.isBlank) (l := cs))
      have hfirst := List.head?_dropWhile_not Text.isBlank cs
      rw [scanFrom] at h
      split at h
      · next hnil =>
          rw [hnil] at hcs
          exact ⟨[], hcs ▸ (blanks_iff hblanks).mpr .nil⟩
      · next c more hcons =>
          rw [hcons] at hcs hfirst
          split at h
          · cases h
          · next t rest hread =>
              obtain ⟨others, hothers, -⟩ := bind_eq_ok.mp h
              obtain ⟨piece, rfl⟩ := readToken_suffix hread
              have hlength := congrArg List.length hcs
              simp only [List.length_append, List.length_cons] at hlength
              obtain ⟨us, hus⟩ := ih hothers (by omega)
              exact ⟨t :: us, hcs ▸ (blanks_iff hblanks).mpr (.token hfirst hread hus)⟩

/-- What the recogniser accepts derives from the grammar. -/
theorem derives (h : Scans cs us) (haccepts : accepts (String.ofList cs) = true) :
    Derives .expression us [] := by
  obtain ⟨ts, hscan, htokens⟩ := h.scanFrom_eq cs.length (Nat.lt_succ_self _)
  have hm : Marks ts us := ⟨htokens, h.no_end⟩
  have hlength := hm.length
  rw [accepts, XPath.checkSyntax] at haccepts
  split at haccepts
  · cases haccepts
  · rw [String.toList_ofList, scan, hscan, ok_bind, recognise] at haccepts
    cases hread : readBinary (16 * (ts.length + 1)) 0 ts with
    | error e =>
        rw [hread] at haccepts
        cases haccepts
    | ok rest =>
        obtain ⟨vs, hvs, hderives⟩ := (sound _).binary (b := .or) hm (by omega) hread
        rw [hread, ok_bind] at haccepts
        split at haccepts
        · next hcurrent => rwa [hvs.eq_nil hcurrent] at hderives
        · cases haccepts

/-- **A text is accepted exactly if its tokens derive from the grammar.** -/
theorem accepts_iff (h : Scans cs us) :
    accepts (String.ofList cs) = true ↔ Derives .expression us [] := by
  refine ⟨h.derives, fun hderives => ?_⟩
  rw [accepts, h.checkSyntax hderives]
  rfl

end Scans

theorem exists_scans {query : String} (h : accepts query = true) : ∃ us, Scans query.toList us := by
  rw [accepts, checkSyntax] at h
  split at h
  · cases h
  · cases hscan : scan query.toList with
    | error e =>
        rw [hscan] at h
        cases h
    | ok ts => exact Scans.of_scanFrom hscan (Nat.lt_succ_self _)

/-! ## where no token goes on -/

/-- Whether the character ends the token in front of it. -/
def isStop (c : Char) : Bool := c = '/' || Text.isBlank c

/-- The text starts with a character that ends a token, and closes no literal. -/
structure Stops (rest : List Char) : Prop where
  head : ∀ c ∈ rest.head?, isStop c = true
  quote : ∀ c ∈ rest, c ≠ '"' ∧ c ≠ '\''

/-- Where a token stops no name and no number goes on. -/
theorem isNamePart_of_isStop {c : Char} (h : isStop c = true) : isNamePart c = false := by
  simp only [isStop, Bool.or_eq_true, decide_eq_true_eq] at h
  rcases h with rfl | h
  · decide
  · have hsigns : ∀ d ∈ "_-.".toList, c ≠ d := Text.forall_mem_ne_of_all h (by decide)
    simp only [isNamePart, Text.isAlphanumeric_of_isBlank h, Bool.false_or]
    simp_all

theorem isAsciiDigit_of_isStop {c : Char} (h : isStop c = true) : Text.isAsciiDigit c = false := by
  by_contra hdigit
  have hpart := isNamePart_of_isAsciiDigit (by simpa using hdigit)
  rw [isNamePart_of_isStop h] at hpart
  contradiction

theorem ne_of_isStop {c d : Char} (h : isStop c = true) (hd : isStop d = false) : c ≠ d := by
  rintro rfl
  rw [h] at hd
  contradiction

theorem double?_of_isStop {c d : Char} (h : isStop d = true) (hslash : ¬ (c = '/' ∧ d = '/')) :
    double? c d = none := by
  unfold double?
  split
  · exact absurd ⟨rfl, rfl⟩ hslash
  all_goals first | rfl | exact absurd h (by decide)

namespace Stops

variable {c : Char} {cs rest : List Char} {t : Token}

/-- Readers of characters do not see what stands behind a stop. -/
theorem takeWhile_append (h : Stops rest) {p : Char → Bool}
    (hp : ∀ c, isStop c = true → p c = false) (cs : List Char) :
    (cs ++ rest).takeWhile p = cs.takeWhile p :=
  Text.takeWhile_append (fun c hc => hp c (h.head c hc)) cs

theorem dropWhile_append (h : Stops rest) {p : Char → Bool}
    (hp : ∀ c, isStop c = true → p c = false) (cs : List Char) :
    (cs ++ rest).dropWhile p = cs.dropWhile p ++ rest :=
  Text.dropWhile_append (fun c hc => hp c (h.head c hc)) cs

theorem skipNumber_append (h : Stops rest) (cs : List Char) :
    skipNumber (cs ++ rest) = skipNumber cs ++ rest := by
  have hdigit : ∀ c, isStop c = true → Text.isAsciiDigit c = false :=
    fun _ => isAsciiDigit_of_isStop
  rw [skipNumber, skipNumber, h.dropWhile_append hdigit]
  cases hdrop : cs.dropWhile Text.isAsciiDigit with
  | nil =>
      cases rest with
      | nil => rfl
      | cons c rest =>
          have hdot := ne_of_isStop (h.head c rfl) (d := '.') (by decide)
          simp [hdot]
  | cons c ds =>
      by_cases hdot : c = '.'
      · subst hdot
        exact h.dropWhile_append hdigit ds
      · simp [hdot]

/-- A name is read as it is, whatever stands behind a stop. -/
theorem readName_append (h : Stops rest) (cs : List Char) :
    readName (cs ++ rest) = ((readName cs).1, (readName cs).2 ++ rest) := by
  have hpart : ∀ c, isStop c = true → isNamePart c = false := fun _ => isNamePart_of_isStop
  simp only [readName, List.span_eq_takeWhile_dropWhile, h.takeWhile_append hpart,
    h.dropWhile_append hpart]
  rcases hdrop : cs.dropWhile isNamePart with _ | ⟨c, ds⟩
  · -- the name goes up to the stop
    rcases rest with _ | ⟨d, rest⟩
    · rfl
    · have hcolon := ne_of_isStop (h.head d rfl) (d := ':') (by decide)
      simp [hcolon]
  · by_cases hcolon : c = ':'
    · subst hcolon
      rcases ds with _ | ⟨d, ds⟩
      · -- a colon in front of the stop does not belong to the name
        rcases rest with _ | ⟨d, rest⟩
        · rfl
        · have hstar := ne_of_isStop (h.head d rfl) (d := '*') (by decide)
          have hstart : isNameStart d = false := by
            by_contra hstart
            have hd := isNamePart_of_isNameStart (by simpa using hstart)
            rw [hpart d (h.head d rfl)] at hd
            cases hd
          simp [hstart]
      · by_cases hstar : d = '*'
        · subst hstar
          rfl
        · have htake := h.takeWhile_append hpart (d :: ds)
          have hdrop := h.dropWhile_append hpart (d :: ds)
          rw [List.cons_append] at htake hdrop
          by_cases hstart : isNameStart d = true <;> simp [hstart, htake, hdrop]
    · simp [hcolon]

theorem skipLiteral?_append (h : Stops rest) (hc : c = '"' ∨ c = '\'') (cs : List Char) :
    skipLiteral? c (cs ++ rest) = (skipLiteral? c cs).map (· ++ rest) := by
  induction cs with
  | nil =>
      have hrest : c ∉ rest := fun hmem => hc.elim (h.quote c hmem).1 (h.quote c hmem).2
      exact skipLiteral?_eq_none hrest
  | cons d cs ih =>
      rw [List.cons_append, skipLiteral?, skipLiteral?, ih]
      split <;> rfl

/-- A token in front of the stop is the same as without what follows. -/
theorem readToken_append_iff (h : Stops rest) (hslash : c = '/' → cs = [] → rest.head? ≠ some '/')
    {after : List Char} :
    readToken c (cs ++ rest) = .ok (t, after) ↔
      ∃ left, readToken c cs = .ok (t, left) ∧ after = left ++ rest := by
  have hpair : (cs ++ rest).head?.bind (double? c) = cs.head?.bind (double? c) := by
    rcases cs with _ | ⟨d, cs⟩
    · rcases rest with _ | ⟨d, rest⟩
      · rfl
      · refine double?_of_isStop (h.head d rfl) ?_
        rintro ⟨rfl, rfl⟩
        exact hslash rfl rfl rfl
    · rfl
  have hdot : (cs ++ rest).head?.any Text.isAsciiDigit = cs.head?.any Text.isAsciiDigit := by
    rcases cs with _ | ⟨d, cs⟩
    · rcases rest with _ | ⟨d, rest⟩
      · rfl
      · exact isAsciiDigit_of_isStop (h.head d rfl)
    · rfl
  rw [readToken, readToken, hpair, hdot]
  cases hhead : cs.head?.bind (double? c) with
  | some u =>
      have hne : cs ≠ [] := by
        rintro rfl
        cases hhead
      simp [List.tail_append_of_ne_nil hne, eq_comm]
  | none =>
      dsimp only
      split
      · have hskip := h.skipNumber_append (c :: cs)
        rw [List.cons_append] at hskip
        simp [hskip, eq_comm]
      · cases single? c with
        | some u => simp [eq_comm]
        | none =>
            dsimp only
            split
            · next hquote =>
                rw [h.skipLiteral?_append (by simpa using hquote)]
                cases skipLiteral? c cs with
                | none => simp
                | some left => simp [eq_comm]
            · split
              · have hname := h.readName_append (c :: cs)
                rw [List.cons_append] at hname
                simp [hname, eq_comm]
              · simp

end Stops

theorem stops_slash : Stops ['/'] := ⟨by simp [isStop], by simp⟩

namespace Scans

variable {text rest : List Char} {us vs : List Token}

/-- The tokens of a text are its tokens in front of every stop, if no slash stands at its end. -/
theorem lexes (h : Scans text us) (hlast : text.getLast? ≠ some '/') : Lexes Stops text us := by
  induction h with
  | nil => exact .nil
  | @blank c cs us hc h ih =>
      intro rest vs hrest hvs
      have hcs : cs.getLast? ≠ some '/' := fun hslash => hlast (by
        rw [List.getLast?_cons, hslash]
        rfl)
      exact .blank hc (ih hcs rest vs hrest hvs)
  | @token c piece after t us hc ht h ih =>
      intro rest vs hrest hvs
      have hread := (hrest.readToken_append_iff ?_).mpr ⟨after, ht, rfl⟩
      · have hafter : after.getLast? ≠ some '/' := fun hslash => hlast (by
          rw [← List.cons_append, List.getLast?_append, hslash]
          rfl)
        exact cons_iff.mpr (.inr ⟨hc, t, _, _, hread, rfl, ih hafter rest vs hrest hvs⟩)
      · rintro rfl hnil
        rw [hnil] at hlast
        exact absurd rfl hlast

/-- **A text that is cut at a stop is cut into tokens part by part**, unless the cut goes through
the two slashes of a separator. -/
theorem cut (h : Scans (text ++ rest) us) (hstops : Stops rest) :
    (∃ vs ws, us = vs ++ ws ∧ Scans text vs ∧ Scans rest ws) ∨
    ∃ front back vs ws, text = front ++ ['/'] ∧ rest = '/' :: back ∧
      us = vs ++ .doubleSlash :: ws ∧ Scans front vs ∧ Scans back ws := by
  generalize hwhole : text ++ rest = whole at h
  induction h generalizing text with
  | nil =>
      obtain ⟨rfl, rfl⟩ := List.append_eq_nil_iff.mp hwhole
      exact .inl ⟨[], [], rfl, .nil, .nil⟩
  | @blank c cs us hc h ih =>
      rcases text with _ | ⟨d, text⟩
      · obtain rfl : rest = c :: cs := hwhole
        exact .inl ⟨[], us, rfl, .nil, .blank hc h⟩
      · obtain ⟨rfl, hcs⟩ := List.cons.inj hwhole
        rcases ih hcs with ⟨vs, ws, rfl, hvs, hws⟩ | ⟨front, back, vs, ws, rfl, rfl, rfl, hvs, hws⟩
        · exact .inl ⟨vs, ws, rfl, .blank hc hvs, hws⟩
        · exact .inr ⟨d :: front, back, vs, ws, rfl, rfl, rfl, .blank hc hvs, hws⟩
  | @token c piece after t us hc ht h ih =>
      rcases text with _ | ⟨d, text⟩
      · obtain rfl : rest = c :: (piece ++ after) := hwhole
        exact .inl ⟨[], t :: us, rfl, .nil, .token hc ht h⟩
      · obtain ⟨rfl, hcs⟩ := List.cons.inj hwhole
        replace hcs : text ++ rest = piece ++ after := hcs
        rw [← hcs] at ht
        by_cases hslash : d = '/' ∧ text = [] ∧ rest.head? = some '/'
        · obtain ⟨rfl, rfl, hrest⟩ := hslash
          obtain ⟨back, rfl⟩ := List.head?_eq_some_iff.mp hrest
          cases ht
          exact .inr ⟨[], back, [], us, rfl, rfl, rfl, .nil, h⟩
        · obtain ⟨left, hleft, rfl⟩ := (hstops.readToken_append_iff (by tauto)).mp ht
          rcases ih rfl with
            ⟨vs, ws, rfl, hvs, hws⟩ | ⟨front, back, vs, ws, rfl, rfl, rfl, hvs, hws⟩
          · have htext := cons_iff.mpr (.inr ⟨hc, t, left, vs, hleft, rfl, hvs⟩)
            exact .inl ⟨t :: vs, ws, rfl, htext, hws⟩
          · obtain ⟨piece, rfl⟩ := readToken_suffix hleft
            rw [← List.append_assoc] at hleft
            have hnot : d = '/' → piece ++ front ≠ [] := by
              rintro rfl hnil
              obtain ⟨rfl, rfl⟩ := List.append_eq_nil_iff.mp hnil
              cases hleft
            -- the token is the same without the slash at the end
            obtain ⟨left, hread, heq⟩ :=
              (stops_slash.readToken_append_iff fun hd hnil => absurd hnil (hnot hd)).mp hleft
            obtain rfl := List.append_cancel_right heq
            exact .inr ⟨d :: (piece ++ front), back, t :: vs, ws, by simp, rfl, rfl,
              cons_iff.mpr (.inr ⟨hc, t, front, vs, hread, rfl, hvs⟩), hws⟩

/-- A slash at the end of a text is the last token, alone or with another one. -/
theorem exists_separator (h : Scans (text ++ ['/']) us) :
    ∃ vs sep, us = vs ++ [sep] ∧ sep ∈ separators := by
  have hslash : Scans ['/'] [.slash] := @Scans.token '/' [] [] .slash [] (by decide) rfl .nil
  rcases h.cut stops_slash with ⟨vs, ws, rfl, -, hws⟩ | ⟨front, back, vs, ws, -, hback, rfl, -, hws⟩
  · exact ⟨vs, .slash, by rw [hws.unique hslash], by decide⟩
  · obtain ⟨-, rfl⟩ := List.cons.inj hback
    exact ⟨vs, .doubleSlash, by rw [hws.unique .nil], by decide⟩

end Scans

end Extractor.XPath
