import Extractor.Libraries.Standard
import Extractor.Proofs.RoundTrip

/-!
# Extractor.Proofs.Restoration

From CSS to XPath, back to CSS, and to XPath once more. What comes back of a
query has the very same path again if no star stands in front of other compound
selectors, no name needs an escape, no value holds quotes of both kinds, and no
word has white space around it (`Query.cssToXPath_xpathToCss`). Without these
conditions it may have another one (`Query.xpathToCss_drops`).
-/

namespace Extractor.Css

/-! ## what the reader sees to -/

/-- The name of an attribute is not empty, and a place can be counted. -/
def Condition.IsRead : Condition → Prop
  | hasAttribute name | attributeIs name _ _ => name ≠ []
  | nthChild n => 1 ≤ n ∧ n < Nat.pow 2 64
  | _ => True

/-- There is a type or a condition, and a type starts like a name. -/
structure Compound.IsRead (c : Compound) : Prop where
  element : ∀ name ∈ c.element, name = ['*'] ∨ ∃ d cs, name = d :: cs ∧ IsTypeStart d
  nonempty : c.element = none → c.conditions ≠ []
  conditions : ∀ condition ∈ c.conditions, condition.IsRead

/-- All compound selectors are as they are read. -/
structure Complex.IsRead (s : Complex) : Prop where
  head : s.head.IsRead
  tail : ∀ compound ∈ s.tail.map Prod.snd, compound.IsRead

namespace Reader

open Outcome

variable {cs rest : List Char} {condition : Condition} {compound : Compound} {fuel : Nat}

/-- A number of 64 bits is below their power. -/
theorem unsigned64?_lt {n : Nat} (h : Number.unsigned64? cs = some n) : n < Nat.pow 2 64 := by
  unfold Number.unsigned64? at h
  dsimp only at h
  rw [Option.ite_none_right_eq_some] at h
  obtain ⟨hfits, hvalue⟩ := h
  simp only [Bool.and_eq_true, decide_eq_true_eq] at hfits
  rw [← Option.some.inj hvalue]
  exact hfits.2

/-- Whatever the reader returns has been read, condition by condition. -/
theorem isRead_readAttribute (h : readAttribute cs = .ok (condition, rest)) : condition.IsRead := by
  rw [readAttribute] at h
  dsimp only at h
  split at h
  · cases h
  · next hname =>
      rw [List.isEmpty_iff] at hname
      split at h
      · cases h
        exact hname
      · obtain ⟨⟨operator, others⟩, -, h⟩ := bind_eq_ok.mp h
        obtain ⟨⟨value, last⟩, -, h⟩ := bind_eq_ok.mp h
        dsimp only at h
        split at h
        · cases h
          exact hname
        · cases h

theorem isRead_pseudoCondition {name : List Char} {argument : Option (List Char)}
    (h : pseudoCondition name argument = .ok condition) : condition.IsRead := by
  unfold pseudoCondition at h
  split at h
  · cases h
    trivial
  · cases h
    trivial
  · cases h
    trivial
  · cases h
    trivial
  · split at h
    · next hnumber =>
        cases h
        exact ⟨Nat.succ_pos _, unsigned64?_lt hnumber⟩
    · cases h
  · cases h

theorem isRead_readPseudo (h : readPseudo cs = .ok (condition, rest)) : condition.IsRead := by
  rw [readPseudo] at h
  split at h
  · cases h
  · dsimp only at h
    obtain ⟨⟨argument, others⟩, -, h⟩ := bind_eq_ok.mp h
    dsimp only at h
    split at h
    · next hcondition =>
        cases h
        exact isRead_pseudoCondition hcondition
    · cases h

theorem isRead_readCondition? (h : readCondition? cs = .ok (some (condition, rest))) :
    condition.IsRead := by
  unfold readCondition? at h
  split at h
  · cases h
    trivial
  · cases h
    trivial
  · obtain ⟨read, hread, h⟩ := bind_eq_ok.mp h
    obtain rfl := Option.some.inj (pure_eq_ok.mp h)
    exact isRead_readAttribute hread
  · obtain ⟨read, hread, h⟩ := bind_eq_ok.mp h
    obtain rfl := Option.some.inj (pure_eq_ok.mp h)
    exact isRead_readPseudo hread
  · cases h

theorem isRead_readConditions {conditions : List Condition}
    (h : readConditions fuel cs = .ok (conditions, rest)) :
    ∀ condition ∈ conditions, condition.IsRead := by
  induction fuel generalizing cs conditions rest with
  | zero =>
      cases h
      nofun
  | succ fuel ih =>
      rw [readConditions, bind_eq_ok] at h
      obtain ⟨read, hread, h⟩ := h
      cases read with
      | none =>
          cases h
          nofun
      | some read =>
          obtain ⟨condition, others⟩ := read
          obtain ⟨⟨conditions, last⟩, hconditions, h⟩ := bind_eq_ok.mp h
          cases h
          exact List.forall_mem_cons.mpr ⟨isRead_readCondition? hread, ih hconditions⟩

/-- A name that starts like one starts with its first character. -/
theorem readIdent_of_isTypeStart {c : Char} (h : IsTypeStart c) (cs : List Char) :
    ∃ ds, (readIdent (c :: cs)).1 = c :: ds := by
  have hescape : c ≠ '\\' := by
    rintro rfl
    exact absurd h (by simp [IsTypeStart]; decide)
  have hpart : isIdentPart c = true := by
    obtain hletter | rfl := h
    · simp [isIdentPart, Text.isAlphanumeric, hletter]
    · decide
  refine ⟨(readIdent cs).1, ?_⟩
  rw [readIdent, if_pos hpart]
  · exact fun h _ => hescape h
  · exact fun _ _ h _ => hescape h

theorem isRead_readElement {element : Option (List Char)} (h : readElement cs = (element, rest)) :
    ∀ name ∈ element, name = ['*'] ∨ ∃ d ds, name = d :: ds ∧ IsTypeStart d := by
  intro name hname
  unfold readElement at h
  split at h
  · obtain ⟨rfl, -⟩ := Prod.mk.inj h
    exact .inl (Option.some.inj hname).symm
  · next c cs hstar =>
      split at h
      · next hstart =>
          have hstart : IsTypeStart c := by simpa [IsTypeStart] using hstart
          obtain ⟨rfl, -⟩ := Prod.mk.inj h
          obtain ⟨ds, hds⟩ := readIdent_of_isTypeStart hstart cs
          exact .inr ⟨c, ds, (Option.some.inj hname).symm.trans hds, hstart⟩
      · obtain ⟨rfl, -⟩ := Prod.mk.inj h
        cases hname
  · obtain ⟨rfl, -⟩ := Prod.mk.inj h
    cases hname

/-- The compounds of a selector that is read have been read, and so has the selector. -/
theorem isRead_readCompound (h : readCompound cs = .ok (compound, rest)) : compound.IsRead := by
  rw [readCompound] at h
  dsimp only at h
  obtain ⟨⟨conditions, others⟩, hconditions, h⟩ := bind_eq_ok.mp h
  dsimp only at h
  split at h
  · cases h
  · next hsome =>
      cases h
      refine ⟨isRead_readElement rfl, fun hnone hnil => hsome ?_, isRead_readConditions hconditions⟩
      dsimp only at hnone hnil
      rw [hnone, hnil]
      rfl

theorem isRead_readTail {tail : List (Combinator × Compound)}
    (h : readTail fuel cs = .ok (tail, rest)) :
    ∀ compound ∈ tail.map Prod.snd, compound.IsRead := by
  induction fuel generalizing cs tail rest with
  | zero =>
      cases h
      nofun
  | succ fuel ih =>
      rw [readTail] at h
      split at h
      · cases h
        nofun
      · obtain ⟨⟨compound, others⟩, hcompound, h⟩ := bind_eq_ok.mp h
        obtain ⟨⟨tail, last⟩, htail, h⟩ := bind_eq_ok.mp h
        cases h
        exact List.forall_mem_cons.mpr ⟨isRead_readCompound hcompound, ih htail⟩

theorem isRead_readComplex {selector : Complex} (h : readComplex cs = .ok (selector, rest)) :
    selector.IsRead := by
  rw [readComplex, bind_eq_ok] at h
  obtain ⟨⟨head, others⟩, hhead, h⟩ := h
  obtain ⟨⟨tail, last⟩, htail, h⟩ := bind_eq_ok.mp h
  cases h
  exact ⟨isRead_readCompound hhead, isRead_readTail htail⟩

theorem isRead_readGroup {selectors : List Complex} (h : readGroup fuel cs = .ok selectors) :
    ∀ selector ∈ selectors, selector.IsRead := by
  induction fuel generalizing cs selectors with
  | zero => cases h
  | succ fuel ih =>
      rw [readGroup, bind_eq_ok] at h
      obtain ⟨⟨selector, others⟩, hselector, h⟩ := h
      have hread := isRead_readComplex hselector
      dsimp only at h
      split at h
      · cases h
        exact List.forall_mem_singleton.mpr hread
      · obtain ⟨selectors, hselectors, h⟩ := bind_eq_ok.mp h
        cases h
        exact List.forall_mem_cons.mpr ⟨hread, ih hselectors⟩
      · cases h

/-- A group that is read is not empty. -/
theorem readGroup_ne_nil {selectors : List Complex} (h : readGroup fuel cs = .ok selectors) :
    selectors ≠ [] := by
  cases fuel with
  | zero => cases h
  | succ fuel =>
      rw [readGroup, bind_eq_ok] at h
      obtain ⟨⟨selector, others⟩, -, h⟩ := h
      dsimp only at h
      split at h
      · cases h
        exact List.cons_ne_nil _ _
      · obtain ⟨selectors, -, h⟩ := bind_eq_ok.mp h
        cases h
        exact List.cons_ne_nil _ _
      · cases h

end Reader

/-! ## faithful selectors -/

/-- What a condition compares with. -/
def Condition.value? : Condition → Option (List Char)
  | hasClass value | hasId value | attributeIs _ _ value => some value
  | _ => none

/-- What a condition looks for among the words of an attribute. -/
def Condition.word? : Condition → Option (List Char)
  | hasClass value | attributeIs _ .word value => some value
  | _ => none

/-- A name without characters that need an escape, and without white space around it. -/
def IsUnescaped (name : List Char) : Prop :=
  (∀ c ∈ name, Reader.isIdentPart c = true) ∧ Text.Unpadded name

instance (name : List Char) : Decidable (IsUnescaped name) :=
  decidable_of_iff (name.all Reader.isIdentPart = true ∧ Text.Unpadded name)
    (by rw [IsUnescaped, List.all_eq_true])

/-- The condition needs no escapes, no quotes of both kinds in one value, and no white space around
a word. -/
def Condition.IsFaithful (c : Condition) : Prop :=
  (∀ name ∈ c.attribute?, IsUnescaped name) ∧
    (∀ value ∈ c.value?, ¬('"' ∈ value ∧ '\'' ∈ value)) ∧
    ∀ word ∈ c.word?, Text.Unpadded word

instance (c : Condition) : Decidable c.IsFaithful := inferInstanceAs (Decidable (_ ∧ _))

/-- The compound selector needs no more than its conditions do. -/
def Compound.IsFaithful (c : Compound) : Prop :=
  (∀ name ∈ c.element, name = ['*'] ∨ IsUnescaped name) ∧
    ∀ condition ∈ c.conditions, condition.IsFaithful

instance (c : Compound) : Decidable c.IsFaithful := inferInstanceAs (Decidable (_ ∧ _))

/-- The complex selector needs no more than its compound selectors do, and no star stands in front
of others. -/
def Complex.IsFaithful (s : Complex) : Prop :=
  (s.head = .star → s.tail = []) ∧ ∀ compound ∈ s.head :: s.tail.map Prod.snd, compound.IsFaithful

instance (s : Complex) : Decidable s.IsFaithful := inferInstanceAs (Decidable (_ ∧ _))

/-- Faithful conditions and compounds that have been read are plain. -/
theorem Condition.IsFaithful.isPlain {c : Condition} (h : c.IsFaithful) (hread : c.IsRead) :
    c.IsPlain := by
  obtain ⟨hattribute, hvalue, hword⟩ := h
  cases c with
  | hasClass value => exact ⟨hvalue value rfl, hword value rfl⟩
  | hasId value => exact hvalue value rfl
  | hasAttribute name => exact ⟨hread, (hattribute name rfl).1, (hattribute name rfl).2⟩
  | attributeIs name operator value =>
      refine ⟨⟨hread, (hattribute name rfl).1, (hattribute name rfl).2⟩, hvalue value rfl, ?_⟩
      rintro rfl
      exact hword value rfl
  | firstChild | lastChild | onlyChild | empty => trivial
  | nthChild n => exact hread

theorem Compound.IsFaithful.isPlain {c : Compound} (h : c.IsFaithful) (hread : c.IsRead) :
    c.IsPlain where
  element name hname := by
    obtain rfl | hunescaped := h.1 name hname
    · exact .inl rfl
    · obtain rfl | ⟨d, cs, rfl, hstart⟩ := hread.element name hname
      · exact .inl rfl
      · exact .inr ⟨⟨List.cons_ne_nil d cs, hunescaped.1, hunescaped.2⟩,
          fun c hc => Option.some.inj hc ▸ hstart⟩
  nonempty := hread.nonempty
  conditions condition hmem := (h.2 condition hmem).isPlain (hread.conditions condition hmem)

/-- What is read and faithful keeps all it says. -/
theorem Complex.IsFaithful.isPlain {s : Complex} (h : s.IsFaithful) (hread : s.IsRead) :
    s.IsPlain := by
  obtain ⟨hhead, htail⟩ := List.forall_mem_cons.mp h.2
  exact ⟨hhead.isPlain hread.head,
    fun compound hmem => (htail compound hmem).isPlain (hread.tail compound hmem), h.1⟩

end Extractor.Css

namespace Extractor.Query

/-! ## queries -/

/-- The text of a group is converted to its path. -/
theorem cssToXPath_groupText {selectors : List Css.Complex} (hne : selectors ≠ [])
    (h : ∀ selector ∈ selectors, selector.IsReadable) (lead : String) :
    cssToXPath (String.ofList (Css.groupText selectors)) lead =
      .ok (String.ofList (XPath.ofSelectors lead.toList selectors)) := by
  rw [cssToXPath, String.toList_ofList, Text.trim_eq_self (Css.unpadded_of_isReadable h),
    Css.readSelectors_groupText h hne]

/-- What comes back of plain selectors is the shortest text of them. -/
theorem xpathToCss_eq_ok {selectors : List Css.Complex} (hne : selectors ≠ [])
    (h : ∀ selector ∈ selectors, selector.IsPlain) {text : String}
    (htext : xpathToCss (String.ofList (XPath.ofSelectors XPath.defaultPrefix.toList selectors)) =
      .ok text) :
    text = String.ofList (Css.groupText (selectors.map XPath.shortestComplex)) := by
  rw [xpathToCss, String.toList_ofList, XPath.selectorsOf_eq hne h] at htext
  cases htexts : selectors.mapM XPath.restoredComplex with
  | error e =>
      rw [htexts] at htext
      cases htext
  | ok texts =>
      obtain ⟨-, rfl⟩ := (XPath.mapM_restoredComplex h).mp htexts
      rw [htexts] at htext
      rw [Css.groupText, List.map_map]
      exact (Except.ok.inj htext).symm

/-- **Back and forth to the same path.** For every query whose selectors are faithful, if CSS comes
back from its path, then the path of that is the same. -/
theorem cssToXPath_xpathToCss (query path text : String) (selectors : List Css.Complex)
    (hread : Css.readSelectors (Text.trim query.toList) = .ok selectors)
    (hfaithful : ∀ selector ∈ selectors, selector.IsFaithful)
    (hpath : cssToXPath query XPath.defaultPrefix = .ok path) (htext : xpathToCss path = .ok text) :
    cssToXPath text XPath.defaultPrefix = .ok path := by
  have hplain : ∀ selector ∈ selectors, selector.IsPlain := fun selector hmem =>
    (hfaithful selector hmem).isPlain (Css.Reader.isRead_readGroup hread selector hmem)
  have hne := Css.Reader.readGroup_ne_nil hread
  rw [cssToXPath, hread] at hpath
  obtain rfl := Except.ok.inj hpath
  obtain rfl := xpathToCss_eq_ok hne hplain htext
  rw [cssToXPath_groupText (by simpa using hne) (List.forall_mem_map.mpr fun selector hmem =>
    XPath.isReadable_shortestComplex (hplain selector hmem)), XPath.ofSelectors_shortestComplex]

/-- Faithful selectors that come back in a shorter text: a star and a place that say nothing new, an
identifier tested like any attribute, and a name outside ASCII. -/
def roundabout : List Css.Complex :=
  [⟨⟨some ['*'], [.hasClass "a".toList]⟩, [(.child, ⟨some "li".toList, [.nthChild 1]⟩),
      (.adjacent, ⟨some "é".toList, [.attributeIs "class".toList .word "b c".toList]⟩)]⟩,
    ⟨⟨none, [.attributeIs "id".toList .equals "x".toList]⟩, [(.sibling, .star)]⟩]

/-- A group that comes back in another form, with the same path. -/
theorem cssToXPath_xpathToCss_roundabout :
    ∃ path, cssToXPath "*.a > li:nth-child(1) + é[class~='b c'], [id=x]~*" XPath.defaultPrefix =
        .ok path ∧
      xpathToCss path = .ok ".a > li:first-child + é[class~=\"b c\"], #x ~ *" ∧
      cssToXPath ".a > li:first-child + é[class~=\"b c\"], #x ~ *" XPath.defaultPrefix =
        .ok path := by
  have hread : Css.readSelectors
      (Text.trim "*.a > li:nth-child(1) + é[class~='b c'], [id=x]~*".toList) = .ok roundabout := by
    decide +kernel
  have hpath : cssToXPath "*.a > li:nth-child(1) + é[class~='b c'], [id=x]~*"
      XPath.defaultPrefix =
        .ok (String.ofList (XPath.ofSelectors XPath.defaultPrefix.toList roundabout)) := by
    rw [cssToXPath, hread]
  have hback : XPath.selectorsOf (XPath.ofSelectors XPath.defaultPrefix.toList roundabout) =
      .ok ".a > li:first-child + é[class~=\"b c\"], #x ~ *".toList := by
    decide +kernel
  have htext : xpathToCss
      (String.ofList (XPath.ofSelectors XPath.defaultPrefix.toList roundabout)) =
        .ok ".a > li:first-child + é[class~=\"b c\"], #x ~ *" := by
    rw [xpathToCss, String.toList_ofList, hback]
    exact congrArg Except.ok String.ofList_toList
  exact ⟨_, hpath, htext, cssToXPath_xpathToCss _ _ _ roundabout hread (by decide) hpath htext⟩

/-- The query is accepted and `text` comes back from its path, but has another path. -/
def IsAltered [Libraries] (query path text : String) : Prop :=
  checkCss query = .ok () ∧ cssToXPath query XPath.defaultPrefix = .ok path ∧
    xpathToCss path = .ok text ∧ cssToXPath text XPath.defaultPrefix ≠ .ok path

instance [Libraries] (query path text : String) : Decidable (IsAltered query path text) :=
  inferInstanceAs (Decidable (_ ∧ _))

/-- What comes back may be without a star that stood in front, without the white space around a word
or a name, with a class for an escaped dot, and with two tests for a value that looks like them. -/
theorem xpathToCss_drops :
    IsAltered "* > a" "descendant-or-self::*/a" "a" ∧
    IsAltered "[title~=' a']" ("descendant-or-self::*[@title and " ++
      "contains(concat(' ', normalize-space(@title), ' '), '  a ')]") "[title~=\"a\"]" ∧
    IsAltered "[a\u3000=b]" "descendant-or-self::*[@a\u3000 = 'b']" "[a=\"b\"]" ∧
    IsAltered "h1 + a\\.b" ("descendant-or-self::h1/following-sibling::*[(name() = 'a.b') and " ++
      "(position() = 1)]") "h1 + a.b" ∧
    IsAltered "[a=x\\\"\\]\\[\\@b\\=\\\"y\\']" "descendant-or-self::*[@a = \"x\"][@b=\"y'\"]"
      "[a=\"x\"][b=\"y'\"]" := by
  decide +kernel

end Extractor.Query
