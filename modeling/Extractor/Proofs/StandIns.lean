import Mathlib.Data.List.TakeWhile
import Extractor.Css.StandIn
import Extractor.Libraries.Standard
import Extractor.Proofs.SelectorText

/-!
# Extractor.Proofs.StandIns

When a step on an axis is taken for CSS. The name of the axis is read as a type,
and no selector has two colons behind a type (`isSelectorList_axis`). This is one of
the two things that the results need of the library that reads selectors
(`LawfulSelectors`). But before a query is judged, a pseudo-element is replaced
together with its colons, and those of the axis are as good as any. So the step is
taken for a selector only if the text behind the axis starts with a pseudo-element
(`exists_standInElement`).
-/

namespace Extractor

namespace Css

/-! ## names of pseudo-elements -/

theorem isUpper_or_toLower_eq (c : Char) : c.isUpper = true ∨ c.toLower = c := by
  unfold Char.toLower
  split
  · next hupper => exact .inl (decide_eq_true hupper)
  · exact .inr rfl

theorem isPlainStart_of_isUpper {c : Char} (h : c.isUpper = true) : isPlainStart c = true := by
  have hletter : c.isAlpha = (c.isUpper || c.isLower) := rfl
  rw [isPlainStart, hletter, h]
  rfl

theorem isName_of_lower {name : List Char} (h : isName (lower name) = true) :
    isName name = true := by
  cases name with
  | nil => exact h
  | cons c name =>
      simp only [lower, List.map_cons, isName, Bool.and_eq_true, List.all_eq_true,
        List.forall_mem_map] at h ⊢
      refine ⟨?_, fun d hd => ?_⟩
      · rcases isUpper_or_toLower_eq c with hupper | hsame
        · exact isPlainStart_of_isUpper hupper
        · exact hsame ▸ h.1
      · rcases isUpper_or_toLower_eq d with hupper | hsame
        · exact isPlainChar_of_isPlainStart (isPlainStart_of_isUpper hupper)
        · exact hsame ▸ h.2 d hd

/-- The name is that of a pseudo-element, in letters of either case. -/
def IsPseudoElement (name : List Char) : Prop := String.ofList (lower name) ∈ pseudoElements

instance : DecidablePred IsPseudoElement := fun name =>
  inferInstanceAs (Decidable (String.ofList (lower name) ∈ pseudoElements))

/-- The names of pseudo-elements are names. -/
theorem IsPseudoElement.isName {name : List Char} (h : IsPseudoElement name) :
    isName name = true := by
  have hall : ∀ s ∈ pseudoElements, Css.isName s.toList = true := by decide
  have hlower := hall _ h
  rw [String.toList_ofList] at hlower
  exact isName_of_lower hlower

theorem isPseudoNamePart_of_isPlainChar {c : Char} (h : isPlainChar c = true) :
    isPseudoNamePart c = true := by
  obtain ⟨n, hn, rfl⟩ := exists_ofNat_of_isPlainChar h
  revert n
  decide

theorem IsPseudoElement.standInElement?_eq {name : List Char} (h : IsPseudoElement name) :
    standInElement? pseudoElements name = some [] := by
  have hparts : ∀ c ∈ name, isPseudoNamePart c = true := fun c hc =>
    isPseudoNamePart_of_isPlainChar (isPlainChar_of_isName h.isName c hc)
  have hcontains : pseudoElements.contains (String.ofList (lower name)) = true :=
    List.contains_iff_mem.mpr h
  rw [standInElement?, List.takeWhile_eq_self_iff.mpr hparts, List.dropWhile_eq_nil_iff.mpr hparts,
    hcontains]
  rfl

/-- White space ends a selector, and so does a comma or a colon behind it. -/
theorem endsSelector_append {cs behind : List Char} (h : endsSelector (cs ++ behind) = true) :
    (∀ c ∈ cs, Text.isBlank c = true) ∧ endsSelector behind = true ∨
      ∃ blanks c rest, cs = blanks ++ c :: rest ∧ (∀ b ∈ blanks, Text.isBlank b = true) ∧
        (c = ',' ∨ c = ':') := by
  induction cs with
  | nil => exact .inl ⟨by simp, h⟩
  | cons c cs ih =>
      rw [List.cons_append, endsSelector, List.dropWhile_cons] at h
      by_cases hc : Text.isBlank c = true
      · rw [if_pos hc, ← endsSelector] at h
        obtain ⟨hblank, hbehind⟩ | ⟨blanks, d, rest, rfl, hblanks, hd⟩ := ih h
        · exact .inl ⟨List.forall_mem_cons.mpr ⟨hc, hblank⟩, hbehind⟩
        · exact .inr ⟨c :: blanks, d, rest, rfl, List.forall_mem_cons.mpr ⟨hc, hblanks⟩, hd⟩
      · rw [if_neg hc] at h
        exact .inr ⟨[], c, cs, rfl, by simp, by simpa using h⟩

/-- A pseudo-element in a text is one in every part of it that ends where no name goes on. -/
theorem exists_isPseudoElement {cs behind after : List Char}
    (hbehind : ∀ c ∈ behind.head?, isPseudoNamePart c = false)
    (h : standInElement? pseudoElements (cs ++ behind) = some after) :
    ∃ name rest, IsPseudoElement name ∧ cs = name ++ rest ∧
      endsSelector (rest ++ behind) = true := by
  rw [standInElement?, Text.takeWhile_append hbehind, Text.dropWhile_append hbehind] at h
  split at h
  · next hcond =>
      simp only [Bool.and_eq_true, List.contains_iff_mem] at hcond
      exact ⟨_, _, hcond.1, List.takeWhile_append_dropWhile.symm, hcond.2⟩
  · cases h

/-! ## an axis as components -/

theorem isNamePart_of_isPlainChar {c : Char} (h : isPlainChar c = true) : isNamePart c = true := by
  obtain ⟨n, hn, rfl⟩ := exists_ofNat_of_isPlainChar h
  revert n
  decide

theorem readToken_of_isPlainStart {c : Char} (h : isPlainStart c = true) (cs : List Char) :
    readToken c cs = readIdentLike (c :: cs) := by
  have hclass : isSpace c = false ∧ isDigit c = false ∧ isNameStart c = true := by
    obtain ⟨n, hn, rfl⟩ := exists_ofNat_of_isPlainChar (isPlainChar_of_isPlainStart h)
    revert n
    decide
  have hsign : ∀ d ∈ ['"', '\'', '#', '+', '-', '.', '\\'], c ≠ d :=
    Text.forall_mem_ne_of_all h (by decide)
  obtain ⟨hspace, hdigit, hstart⟩ := hclass
  simp only [List.forall_mem_cons] at hsign
  have hnumber : startsNumber (c :: cs) = false := by simp [startsNumber, hdigit, hsign]
  have hident : startsIdent (c :: cs) = true := by simp [startsIdent, hstart, hsign]
  simp [readToken, hspace, hnumber, hident, hsign]

/-- A name is read up to what cannot stand in one. -/
theorem readName_append {name rest : List Char} (hname : ∀ c ∈ name, isNamePart c = true)
    (hrest : ∀ c ∈ rest.head?, isNamePart c = false ∧ c ≠ '\\') (fuel : Nat) :
    readName (name.length + fuel) (name ++ rest) = (name, rest) := by
  induction name with
  | nil =>
      cases fuel with
      | zero => simp [readName]
      | succ fuel =>
          cases rest with
          | nil => simp [readName]
          | cons c rest =>
              obtain ⟨hpart, hescape⟩ := hrest c rfl
              simp [readName, hpart, hescape]
  | cons c name ih =>
      obtain ⟨hc, hname⟩ := List.forall_mem_cons.mp hname
      rw [List.length_cons, Nat.succ_add, List.cons_append, readName, if_pos hc, ih hname]

theorem tokens_name {name rest : List Char} (hname : isName name = true)
    (hrest : ∀ c ∈ rest.head?, isNamePart c = false ∧ c ≠ '\\' ∧ c ≠ '(') (fuel : Nat) :
    tokens (fuel + 1) (name ++ rest) = .ident name :: tokens fuel rest := by
  have hparts : ∀ c ∈ name, isNamePart c = true := fun c hc =>
    isNamePart_of_isPlainChar (isPlainChar_of_isName hname c hc)
  have hread := readName_append hparts (fun c hc => ⟨(hrest c hc).1, (hrest c hc).2.1⟩) rest.length
  rw [← List.length_append] at hread
  have hident : readIdentLike (name ++ rest) = (.ident name, rest) := by
    rw [readIdentLike, hread]
    dsimp only
    split
    · exact absurd rfl (hrest _ rfl).2.2
    · rfl
  cases name with
  | nil => contradiction
  | cons c name =>
      rw [isName, Bool.and_eq_true] at hname
      have hslash : c ≠ '/' := by
        rintro rfl
        exact absurd hname.1 (by decide)
      rw [List.cons_append] at hident ⊢
      rw [tokens, readToken_of_isPlainStart hname.1, hident]
      exact fun _ h _ => hslash h

/-- An axis is read as its name and two colons. -/
theorem exists_ofChars_axis {axis : List Char} (haxis : isName axis = true) (cs : List Char) :
    ∃ more, Component.ofChars (axis ++ ':' :: ':' :: cs) =
      .token (.ident axis) :: .token .colon :: .token .colon :: more := by
  have hlength : ∃ fuel, (axis ++ ':' :: ':' :: cs).length = fuel + 3 :=
    ⟨axis.length + cs.length - 1, by cases axis <;> simp_all [isName]; omega⟩
  have hrest : ∀ c ∈ (':' :: ':' :: cs).head?, isNamePart c = false ∧ c ≠ '\\' ∧ c ≠ '(' :=
    fun c hc => Option.some.inj hc ▸ by decide
  obtain ⟨fuel, hfuel⟩ := hlength
  have htokens : tokens (axis ++ ':' :: ':' :: cs).length (axis ++ ':' :: ':' :: cs) =
      .ident axis :: .colon :: .colon :: tokens fuel cs := by
    rw [hfuel, tokens_name haxis hrest]
    rfl
  rw [Component.ofChars, htokens]
  exact ⟨_, rfl⟩

/-! ## an axis is no selector -/

/-- The readers stop at the second of two colons behind a type, whatever steps they may take. -/
theorem isSelector_axis (fuel : Nat) (context : Context) (name : List Char) (cs : List Component) :
    isSelector fuel context false
      (.token (.ident name) :: .token .colon :: .token .colon :: cs) = false := by
  have hsimples (fuel : Nat) : ∃ rest, readSimples fuel context true
      (.token .colon :: .token .colon :: cs) = .error rest := by
    cases fuel <;> exact ⟨_, rfl⟩
  have hcompound (fuel : Nat) : ∃ rest, readCompound fuel context
      (.token (.ident name) :: .token .colon :: .token .colon :: cs) = .error rest := by
    cases fuel with
    | zero => exact ⟨_, rfl⟩
    | succ fuel =>
        obtain ⟨rest, hrest⟩ := hsimples fuel
        refine ⟨rest, ?_⟩
        rw [readCompound]
        change (readSimples fuel context true _ >>= _) = _
        rw [hrest]
        rfl
  have hcomplex (fuel : Nat) : ∃ rest, readComplex fuel context
      (.token (.ident name) :: .token .colon :: .token .colon :: cs) = .error rest := by
    cases fuel with
    | zero => exact ⟨_, rfl⟩
    | succ fuel =>
        obtain ⟨rest, hrest⟩ := hcompound fuel
        refine ⟨rest, ?_⟩
        rw [readComplex, hrest]
        rfl
  have hselector (fuel : Nat) : ∃ rest, readSelector fuel context false
      (.token (.ident name) :: .token .colon :: .token .colon :: cs) = .error rest := by
    cases fuel with
    | zero => exact ⟨_, rfl⟩
    | succ fuel => exact hcomplex fuel
  cases fuel with
  | zero => rfl
  | succ fuel =>
      obtain ⟨rest, hrest⟩ := hselector fuel
      rw [isSelector, hrest]

/-- Cutting at commas gives at least one piece. -/
theorem exists_splitCommas (cs : List Component) :
    ∃ piece rest, splitCommas cs = piece :: rest := by
  unfold splitCommas
  split
  · exact ⟨_, _, rfl⟩
  · split
    · exact ⟨_, _, rfl⟩
    · split <;> exact ⟨_, _, rfl⟩

theorem splitCommas_cons {c : Component} {cs piece : List Component} {rest : List (List Component)}
    (hc : c.isComma = false) (h : splitCommas cs = piece :: rest) :
    splitCommas (c :: cs) = (c :: piece) :: rest := by
  rw [splitCommas, if_neg (by simp [hc]), h]

/-- **An axis with its colons is no selector**, whatever stands behind it. -/
theorem isSelectorList_axis {axis : List Char} (haxis : isName axis = true) (cs : List Char) :
    isSelectorList (axis ++ ':' :: ':' :: cs) = false := by
  obtain ⟨more, hmore⟩ := exists_ofChars_axis haxis cs
  obtain ⟨piece, rest, hpiece⟩ := exists_splitCommas more
  have hsecond := splitCommas_cons (c := .token .colon) rfl hpiece
  have hfirst := splitCommas_cons (c := .token .colon) rfl hsecond
  have htype := splitCommas_cons (c := .token (.ident axis)) rfl hfirst
  rw [isSelectorList, hmore, htype, List.all_cons, isSelector_axis, Bool.false_and]

/-- **A type with a pseudo-class behind it is a selector.** -/
theorem isSelectorList_root {name : List Char} (hname : isName name = true) :
    isSelectorList (name ++ ":root".toList) = true := by
  have hlength : ∃ fuel, (name ++ ":root".toList).length = fuel + 3 :=
    ⟨name.length + 2, by simp⟩
  obtain ⟨fuel, hfuel⟩ := hlength
  have hrest : ∀ c ∈ (":root".toList).head?, isNamePart c = false ∧ c ≠ '\\' ∧ c ≠ '(' :=
    fun c hc => Option.some.inj (hc : some ':' = some c) ▸ by decide
  have htokens : tokens (name ++ ":root".toList).length (name ++ ":root".toList) =
      [.ident name, .colon, .ident "root".toList] := by
    rw [hfuel, tokens_name hname hrest]
    cases fuel <;> rfl
  have hcomponents : Component.ofChars (name ++ ":root".toList) =
      [.token (.ident name), .token .colon, .token (.ident "root".toList)] := by
    rw [Component.ofChars, htokens]
    rfl
  rw [isSelectorList, hcomponents]
  rfl

end Css

namespace Libraries

/-- What is needed of the library that reads selectors, in queries that start like a step on an
axis. -/
class LawfulSelectors [Libraries] : Prop where
  /-- No selector has two colons behind a type. -/
  isSelectorList_axis {axis : List Char} : Css.isName axis = true →
    ∀ cs, isSelectorList (axis ++ ':' :: ':' :: cs) = false
  /-- A type may have a pseudo-class behind it. -/
  isSelectorList_root {name : List Char} : Css.isName name = true →
    isSelectorList (name ++ ":root".toList) = true

instance : LawfulSelectors where
  isSelectorList_axis := Css.isSelectorList_axis
  isSelectorList_root := Css.isSelectorList_root

end Libraries

namespace Css

/-! ## what is replaced behind an axis -/

/-- Names stay as they are. -/
theorem replaceStandIns_append {name cs : List Char} (h : ∀ c ∈ name, isPlainChar c = true)
    (fuel brackets : Nat) : replaceStandIns (name.length + fuel) none brackets (name ++ cs) =
      name ++ replaceStandIns fuel none brackets cs := by
  induction name with
  | nil => rw [List.length_nil, Nat.zero_add, List.nil_append, List.nil_append]
  | cons c name ih =>
      obtain ⟨hc, hname⟩ := List.forall_mem_cons.mp h
      have hsign : ∀ d ∈ ['"', '\'', '[', ']', ':'], c ≠ d :=
        Text.forall_mem_ne_of_all hc (by decide)
      simp only [List.forall_mem_cons] at hsign
      rw [List.length_cons, Nat.succ_add, List.cons_append, replaceStandIns, ih hname]
      simp [hsign]

/-- A colon is replaced if the name of a stand-in follows. -/
theorem replaceStandIns_colon (fuel : Nat) (cs : List Char) :
    replaceStandIns (fuel + 1) none 0 (':' :: cs) =
      (standIn? cs).elim (':' :: replaceStandIns fuel none 0 cs)
        fun rest => ":root".toList ++ replaceStandIns fuel none 0 rest := by
  rw [replaceStandIns]
  cases standIn? cs <;> simp

section Axis

variable {axis cs rest : List Char} (haxis : isName axis = true)
include haxis

theorem withStandIns_axis : withStandIns (axis ++ ':' :: ':' :: cs) =
    axis ++ replaceStandIns (cs.length + 2) none 0 (':' :: ':' :: cs) := by
  rw [withStandIns, List.length_append, replaceStandIns_append (isPlainChar_of_isName haxis)]
  rfl

/-- A pseudo-element behind an axis is replaced together with the colons. -/
theorem withStandIns_element (h : standInElement? pseudoElements cs = some rest) :
    withStandIns (axis ++ ':' :: ':' :: cs) =
      axis ++ (":root".toList ++ replaceStandIns (cs.length + 1) none 0 rest) := by
  rw [withStandIns_axis haxis, replaceStandIns_colon, standIn?, h, Option.elim_some]

/-- Both colons stay where no pseudo-element follows them. What is behind the second may still be
replaced, as a pseudo-class, and has a colon in front then. -/
theorem exists_withStandIns (h : standInElement? pseudoElements cs = none) :
    ∃ more, withStandIns (axis ++ ':' :: ':' :: cs) = axis ++ ':' :: ':' :: more := by
  rw [withStandIns_axis haxis, replaceStandIns_colon, standIn?, h, Option.elim_none,
    replaceStandIns_colon]
  cases standIn? cs with
  | none => exact ⟨_, rfl⟩
  | some rest => exact ⟨_, rfl⟩

/-- **A step on an axis is taken for a selector only if a pseudo-element follows the colons.** -/
theorem exists_standInElement [Libraries] [Libraries.LawfulSelectors]
    (h : Libraries.isSelectorList (withStandIns (axis ++ ':' :: ':' :: cs)) = true) :
    ∃ rest, standInElement? pseudoElements cs = some rest := by
  rw [← Option.isSome_iff_exists, Option.isSome_iff_ne_none]
  intro hnone
  obtain ⟨more, hmore⟩ := exists_withStandIns haxis hnone
  rw [hmore, Libraries.LawfulSelectors.isSelectorList_axis haxis] at h
  cases h

end Axis

end Css

end Extractor
