import Extractor.Libraries.Standard
import Extractor.Proofs.Characters
import Extractor.Proofs.Draft
import Mathlib.Data.List.TakeDrop
import Mathlib.Data.List.TakeWhile

/-!
# Extractor.Proofs.PatternFlags

What becomes of the flags that a pattern is given with. A flag is asked for by
an argument, or by a letter of the group in front of the pattern (`Pattern.Asks`);
what is stored is a pattern with flags again, so that both sides are read the
same way. Lifting the letters of the group out of the pattern loses none of them
(`Pattern.Asks.normalise`), but not every operation stores both flags:

* `Pattern.keeps_flags` — the case is ignored wherever that was asked for, and a
  dot matches line breaks in the operations that store this flag, and in the
  others just if the letter is still in front of the pattern.
-/

namespace Extractor

open Outcome

/-! ## flags -/

/-- The flags that operations know of. -/
inductive Flag where
  | ignoreCase
  | dotAll
  deriving DecidableEq, Repr

/-- The letter of a flag in a group of flags. -/
def Flag.letter : Flag → Char
  | ignoreCase => 'i'
  | dotAll => 's'

namespace Pattern

variable {flag : Flag} {p : Pattern} {source : String} {ignoreCase dotAll : Bool}

/-- The flags that the group in front of a pattern turns on: the letters of `(?is)`, and of `(?i-s)`
those before the dash. Without such a group there are none. -/
def inlineFlags : List Char → List Char
  | '(' :: '?' :: inner =>
      if ')' ∈ inner ∧ (inner.takeWhile (· ≠ ')')).all (fun c => c.isAlpha || c = '-') = true then
        (inner.takeWhile (· ≠ ')')).takeWhile (· ≠ '-')
      else []
  | _ => []

/-- The flag that stands beside the pattern. -/
def field (p : Pattern) : Flag → Bool
  | .ignoreCase => p.ignoreCase
  | .dotAll => p.dotAll

/-- The pattern asks for the flag: beside it, or in the group in front of it. -/
def Asks (flag : Flag) (p : Pattern) : Prop :=
  p.field flag = true ∨ flag.letter ∈ inlineFlags p.source.toList

instance (flag : Flag) (p : Pattern) : Decidable (p.Asks flag) :=
  inferInstanceAs (Decidable (_ ∨ _))

/-- The letters that are lifted are those that the group turns on. -/
theorem inlineFlags_of_leadingFlags? {cs flags rest : List Char}
    (h : leadingFlags? cs = some (flags, rest)) : inlineFlags cs = flags := by
  unfold leadingFlags? at h
  split at h
  · next inner =>
      rw [List.span_eq_takeWhile_dropWhile] at h
      split at h
      · next read rest' hspan =>
          obtain ⟨hread, hrest⟩ := Prod.mk.inj hspan
          split at h
          · next hletters =>
              obtain ⟨rfl, -⟩ := Prod.mk.inj (Option.some.inj h)
              rw [Bool.and_eq_true, List.all_eq_true] at hletters
              have hclose : ')' ∈ inner :=
                (List.dropWhile_suffix _).subset (hrest ▸ List.mem_cons_self)
              have hletter : ∀ c ∈ read, (c.isAlpha || c = '-') = true ∧ c ≠ '-' := by
                intro c hc
                refine ⟨by rw [hletters.2 c hc, Bool.true_or], ?_⟩
                rintro rfl
                exact absurd (hletters.2 _ hc) (by decide)
              rw [inlineFlags, hread, if_pos ⟨hclose, List.all_eq_true.mpr fun c hc =>
                (hletter c hc).1⟩]
              exact List.takeWhile_eq_self_iff.mpr fun c hc => by simpa using (hletter c hc).2
          · contradiction
      · contradiction
  · contradiction

theorem isAlpha_of_leadingFlags? {cs flags rest : List Char}
    (h : leadingFlags? cs = some (flags, rest)) : ∀ c ∈ flags, c.isAlpha = true := by
  unfold leadingFlags? at h
  split at h
  · split at h
    · split at h
      · next hletters =>
          obtain ⟨rfl, -⟩ := Prod.mk.inj (Option.some.inj h)
          rw [Bool.and_eq_true, List.all_eq_true] at hletters
          exact hletters.2
      · contradiction
    · contradiction
  · contradiction

/-- No flag gets lost when the group in front of a pattern is lifted out of it. -/
theorem Asks.normalise (h : Asks flag ⟨source, ignoreCase, dotAll⟩) :
    (normalise source ignoreCase dotAll).Asks flag := by
  unfold Pattern.normalise
  split
  · exact h
  · next flags rest hflags =>
      left
      rw [Asks, inlineFlags_of_leadingFlags? hflags] at h
      cases flag with
      | ignoreCase => simpa [field, Flag.letter] using h
      | dotAll => simpa [field, Flag.letter] using h

/-- Behind a group in front of the pattern whose letters are all lifted, a second group asks once
more that dots match line breaks. -/
def AsksTwice (p : Pattern) : Prop :=
  ∃ flags rest, leadingFlags? p.source.toList = some (flags, rest) ∧
    (∀ c ∈ flags, isLifted c = true) ∧
      's' ∈ inlineFlags (if flags.contains 'x' then flatten false false rest else rest)

/-- What is kept of the flags that were asked for: whether the case is ignored always, and what a
dot matches just if there is a place to store it, or if the group in front of the pattern is left
there, or if a second one has the letter, too. -/
structure Keeps (dots : Bool) (asked stored : Pattern) : Prop where
  ignoreCase : asked.Asks .ignoreCase → stored.Asks .ignoreCase
  dotAll : asked.Asks .dotAll → (stored.Asks .dotAll ↔
    dots = true ∨ leadingFlags? asked.source.toList = none ∨ asked.AsksTwice)

/-- A pattern that is normalised keeps the flags that it is asked with. -/
theorem keeps_normalise (asked : Pattern) :
    Keeps true asked (normalise asked.source asked.ignoreCase asked.dotAll) :=
  ⟨Asks.normalise, fun h => iff_of_true h.normalise (.inl rfl)⟩

/-- The letters that are left of a lifted group are in a group again. -/
theorem inlineFlags_group {kept body : List Char} (hne : kept ≠ [])
    (hkept : ∀ c ∈ kept, c.isAlpha = true) :
    inlineFlags ('(' :: '?' :: (kept ++ ')' :: body)) = kept := by
  have hclose : ∀ c ∈ kept, (decide (c ≠ ')')) = true := fun c hc => by
    simp only [ne_eq, decide_not, Bool.not_eq_true', decide_eq_false_iff_not]
    rintro rfl
    exact absurd (hkept _ hc) (by decide)
  refine @inlineFlags_of_leadingFlags? _ kept body ?_
  rw [leadingFlags?, Text.span_append hclose (by simp)]
  simp only [List.isEmpty_eq_false_iff.mpr hne, List.all_eq_true.mpr hkept, Bool.not_false,
    Bool.and_self, if_true]

theorem inlineFlags_normalise {flags rest : List Char}
    (h : leadingFlags? source.toList = some (flags, rest)) :
    's' ∈ inlineFlags (normalise source ignoreCase dotAll).source.toList ↔
      (∀ c ∈ flags, isLifted c = true) ∧
        's' ∈ inlineFlags (if flags.contains 'x' then flatten false false rest else rest) := by
  rw [normalise, h]
  dsimp only
  rw [String.toList_ofList]
  by_cases hlifted : ∀ c ∈ flags, isLifted c = true
  · have hkept : flags.filter (!isLifted ·) = [] := by simpa using hlifted
    rw [hkept, List.isEmpty_nil, if_pos rfl, and_iff_right hlifted]
  · have hkept : flags.filter (!isLifted ·) ≠ [] := by simpa using hlifted
    have hgroup := @inlineFlags_group _
      (if flags.contains 'x' then flatten false false rest else rest) hkept
      fun c hc => isAlpha_of_leadingFlags? h c (List.mem_of_mem_filter hc)
    rw [List.isEmpty_eq_false_iff.mpr hkept, if_neg (by decide), hgroup]
    exact iff_of_false (by simp [isLifted]) fun hall => hlifted hall.1

/-- Where there is no place for the flag on dots, only the group in front of a pattern can ask for
it. -/
theorem keeps_normalise_source (source : String) (ignoreCase : Bool) :
    Keeps false ⟨source, ignoreCase, false⟩ ⟨(normalise source ignoreCase false).source,
      (normalise source ignoreCase false).ignoreCase, false⟩ where
  ignoreCase h := Asks.normalise h
  dotAll h := by
    have hasked : 's' ∈ inlineFlags source.toList := h.resolve_left (by simp [field])
    rw [Asks, or_iff_right (by simp [field])]
    cases hflags : leadingFlags? source.toList with
    | none =>
        have hsource : normalise source ignoreCase false = ⟨source, ignoreCase, false⟩ := by
          rw [normalise, hflags]
        rw [hsource]
        exact iff_of_true hasked (.inr (.inl rfl))
    | some lifted =>
        obtain ⟨flags, rest⟩ := lifted
        refine (inlineFlags_normalise hflags).trans ⟨fun hagain => ?_, ?_⟩
        · exact .inr (.inr ⟨flags, rest, hflags, hagain⟩)
        · rintro (hdots | hnone | ⟨flags', rest', hflags', hagain⟩)
          · cases hdots
          · cases hnone
          · cases hflags.symm.trans hflags'
            exact hagain

theorem eq_normalise_of_checked [Libraries] (h : checked source ignoreCase dotAll = .ok p) :
    p = normalise source ignoreCase dotAll := by
  obtain ⟨-, -, h⟩ := bind_eq_ok.mp h
  exact (pure_eq_ok.mp h).symm

end Pattern

/-! ## calls -/

/-- The pattern that a call on a chain is given, with the flags asked for by arguments. -/
def Call.pattern? : Call → Option Pattern
  | .regex source _ ignoreCase dotAll | .regexAll source ignoreCase dotAll
  | .regexSub source _ ignoreCase dotAll => some ⟨source, ignoreCase, dotAll⟩
  | .isMatch _ source ignoreCase _ => some ⟨source, ignoreCase, false⟩
  | _ => none

/-- The pattern that a call on a filter of texts is given. -/
def TextFilter.Call.pattern? : TextFilter.Call → Option Pattern
  | .pattern source ignoreCase => some ⟨source, ignoreCase, false⟩
  | _ => none

/-- The pattern that a call on a filter of elements is given. -/
def ElementFilter.Call.pattern? : ElementFilter.Call → Option Pattern
  | .textPattern source ignoreCase | .rawPattern source ignoreCase
  | .attributePattern _ source ignoreCase => some ⟨source, ignoreCase, false⟩
  | _ => none

/-- The pattern of an operation with the flags stored beside it. -/
def Operation.stored? : Operation → Option Pattern
  | .regex p _ | .regexAll p | .regexSub p _ => some p
  | .isMatch _ source ignoreCase _ => some ⟨source, ignoreCase, false⟩
  | _ => none

/-- Whether the operation stores what a dot matches. -/
def Operation.storesDots : Operation → Bool
  | .regex .. | .regexAll _ | .regexSub .. => true
  | _ => false

/-- The pattern of a condition on texts with the flag stored beside it. -/
def TextPredicate.stored? : TextPredicate → Option Pattern
  | .pattern source ignoreCase => some ⟨source, ignoreCase, false⟩
  | _ => none

/-- The pattern of a condition on elements with the flag stored beside it. -/
def ElementPredicate.stored? : ElementPredicate → Option Pattern
  | .textPattern source ignoreCase | .rawPattern source ignoreCase
  | .attributePattern _ source ignoreCase => some ⟨source, ignoreCase, false⟩
  | _ => none

open Pattern (Keeps keeps_normalise keeps_normalise_source eq_normalise_of_checked)

/-- What a call with a pattern adds to a chain is the pattern, with its flags lifted. -/
theorem Draft.apply_pattern [Libraries] {d d' : Draft} {call : Call} {asked : Pattern}
    (hasked : call.pattern? = some asked) (h : d.apply call = .ok d') :
    ∃ operation accepts returns stored, d' = d.push operation accepts returns ∧
      operation.stored? = some stored ∧ Keeps operation.storesDots asked stored := by
  cases call with
  | regex source group ignoreCase dotAll =>
      obtain ⟨-, -, h⟩ := bind_eq_ok.mp h
      obtain ⟨found, -, h⟩ := bind_eq_ok.mp h
      obtain ⟨-, -, h⟩ := bind_eq_ok.mp h
      exact ⟨_, _, _, _, (pure_eq_ok.mp h).symm, rfl, Option.some.inj hasked ▸ keeps_normalise _⟩
  | regexAll source ignoreCase dotAll =>
      obtain ⟨-, -, h⟩ := bind_eq_ok.mp h
      obtain ⟨found, -, h⟩ := bind_eq_ok.mp h
      obtain ⟨-, -, h⟩ := bind_eq_ok.mp h
      exact ⟨_, _, _, _, (pure_eq_ok.mp h).symm, rfl, Option.some.inj hasked ▸ keeps_normalise _⟩
  | regexSub source replacement ignoreCase dotAll =>
      obtain ⟨type, -, h⟩ := bind_eq_ok.mp h
      obtain ⟨p, hp, h⟩ := bind_eq_ok.mp h
      obtain rfl := eq_normalise_of_checked hp
      exact ⟨_, _, _, _, (pure_eq_ok.mp h).symm, rfl, Option.some.inj hasked ▸ keeps_normalise _⟩
  | isMatch scope source ignoreCase message =>
      obtain ⟨p, hp, h⟩ := bind_eq_ok.mp h
      obtain rfl := eq_normalise_of_checked hp
      obtain ⟨type, -, h⟩ := bind_eq_ok.mp h
      exact ⟨_, _, _, _, (pure_eq_ok.mp h).symm, rfl,
        Option.some.inj hasked ▸ keeps_normalise_source _ _⟩
  | _ => contradiction

theorem TextFilter.apply_pattern [Libraries] {f f' : TextFilter} {call : TextFilter.Call}
    {asked : Pattern} (hasked : call.pattern? = some asked) (h : f.apply call = .ok f') :
    ∃ leaf stored, f' = f.push leaf ∧ leaf.stored? = some stored ∧ Keeps false asked stored := by
  cases call with
  | pattern source ignoreCase =>
      obtain ⟨p, hp, h⟩ := bind_eq_ok.mp h
      obtain rfl := eq_normalise_of_checked hp
      exact ⟨_, _, (pure_eq_ok.mp h).symm, rfl,
        Option.some.inj hasked ▸ keeps_normalise_source _ _⟩
  | _ => contradiction

theorem ElementFilter.apply_pattern [Libraries] {f f' : ElementFilter} {call : ElementFilter.Call}
    {asked : Pattern} (hasked : call.pattern? = some asked) (h : f.apply call = .ok f') :
    ∃ leaf stored, (f' = f.push leaf ∨ ∃ key, f' = f.pushGuarded key leaf) ∧
      leaf.stored? = some stored ∧ Keeps false asked stored := by
  cases call with
  | textPattern source ignoreCase =>
      obtain ⟨p, hp, h⟩ := bind_eq_ok.mp h
      obtain rfl := eq_normalise_of_checked hp
      exact ⟨_, _, .inl (pure_eq_ok.mp h).symm, rfl,
        Option.some.inj hasked ▸ keeps_normalise_source _ _⟩
  | rawPattern source ignoreCase =>
      obtain ⟨p, hp, h⟩ := bind_eq_ok.mp h
      obtain rfl := eq_normalise_of_checked hp
      exact ⟨_, _, .inl (pure_eq_ok.mp h).symm, rfl,
        Option.some.inj hasked ▸ keeps_normalise_source _ _⟩
  | attributePattern key source ignoreCase =>
      obtain ⟨p, hp, h⟩ := bind_eq_ok.mp h
      obtain rfl := eq_normalise_of_checked hp
      exact ⟨_, _, .inr ⟨key, (pure_eq_ok.mp h).symm⟩, rfl,
        Option.some.inj hasked ▸ keeps_normalise_source _ _⟩
  | _ => contradiction

/-- **What is kept of the flags of a pattern.** Each call that is given a pattern and succeeds adds
one part with a pattern, and of the flags that were asked for by arguments or in front of the
pattern none is lost, but for one: where there is no place to store what a dot matches, a group in
front of the pattern asks for it in vain. -/
theorem Pattern.keeps_flags [Libraries] (asked : Pattern) :
    (∀ (d d' : Draft) (call : Call), call.pattern? = some asked → d.apply call = .ok d' →
      ∃ operation accepts returns stored, d' = d.push operation accepts returns ∧
        operation.stored? = some stored ∧ Keeps operation.storesDots asked stored) ∧
    (∀ (f f' : TextFilter) (call : TextFilter.Call), call.pattern? = some asked →
      f.apply call = .ok f' → ∃ leaf stored, f' = f.push leaf ∧ leaf.stored? = some stored ∧
        Keeps false asked stored) ∧
    ∀ (f f' : ElementFilter) (call : ElementFilter.Call), call.pattern? = some asked →
      f.apply call = .ok f' → ∃ leaf stored,
        (f' = f.push leaf ∨ ∃ key, f' = f.pushGuarded key leaf) ∧ leaf.stored? = some stored ∧
          Keeps false asked stored :=
  ⟨fun _ _ _ hasked h => Draft.apply_pattern hasked h,
    fun _ _ _ hasked h => TextFilter.apply_pattern hasked h,
    fun _ _ _ hasked h => ElementFilter.apply_pattern hasked h⟩

/-- A chain on the text of the page. -/
def Draft.pageText : Draft := ⟨[.plain .text .document .string], false⟩

/-- Both flags in front of the pattern of a search are stored beside it. In a filter, a group with a
dash is left where it is. -/
theorem Pattern.keeps_flags_search :
    (∃ operation accepts returns stored,
      Draft.pageText.push (.regex ⟨"(?m)^(a.b)", true, true⟩ 1) .string .string =
        Draft.pageText.push operation accepts returns ∧ operation.stored? = some stored ∧
          Keeps operation.storesDots ⟨"(?mis)^(a.b)", false, false⟩ stored) ∧
    (∃ leaf stored, ⟨some (.pattern "(?s-i)a.b" true)⟩ = TextFilter.empty.push leaf ∧
      leaf.stored? = some stored ∧ Keeps false ⟨"(?s-i)a.b", true, false⟩ stored) ∧
    ∃ leaf stored, (⟨some (.textPattern "a" true)⟩ = ElementFilter.empty.push leaf ∨
        ∃ key, ⟨some (.textPattern "a" true)⟩ = ElementFilter.empty.pushGuarded key leaf) ∧
      leaf.stored? = some stored ∧ Keeps false ⟨"(?i)a", false, false⟩ stored := by
  have hgroups : Pattern.countGroups (normalise "(?mis)^(a.b)" false false).source = .ok 1 := by
    decide +kernel
  have hsearch : Draft.pageText.apply (.regex "(?mis)^(a.b)" 1 false false) =
      .ok (Draft.pageText.push (.regex ⟨"(?m)^(a.b)", true, true⟩ 1) .string .string) := by
    have hnormal : normalise "(?mis)^(a.b)" false false = ⟨"(?m)^(a.b)", true, true⟩ := by decide
    rw [← hnormal]
    exact bind_eq_ok.mpr ⟨.string, rfl, bind_eq_ok.mpr ⟨1, hgroups, rfl⟩⟩
  exact ⟨(Pattern.keeps_flags _).1 _ _ (.regex "(?mis)^(a.b)" 1 false false) rfl hsearch,
    (Pattern.keeps_flags _).2.1 .empty _ (.pattern "(?s-i)a.b" true) rfl (by decide +kernel),
    (Pattern.keeps_flags _).2.2 .empty _ (.textPattern "(?i)a" false) rfl (by decide +kernel)⟩

/-- An assertion and a filter drop the flag on dots that stands in front of their pattern, and what
they store is the same as without it. -/
theorem Pattern.loses_dotAll :
    Asks .dotAll ⟨"(?s)a.b", false, false⟩ ∧
    Draft.pageText.apply (.isMatch .one "(?s)a.b" false "") =
      .ok (Draft.pageText.push (.isMatch .one "a.b" false "") .string .string) ∧
    TextFilter.empty.apply (.pattern "(?s)a.b" false) = .ok ⟨some (.pattern "a.b" false)⟩ ∧
    ElementFilter.empty.apply (.textPattern "(?s)a.b" false) =
      .ok ⟨some (.textPattern "a.b" false)⟩ ∧
    ¬ Asks .dotAll ⟨"a.b", false, false⟩ := by
  have hchecked : Pattern.checked "(?s)a.b" false false = .ok ⟨"a.b", false, true⟩ := by
    decide +kernel
  refine ⟨by decide, bind_eq_ok.mpr ⟨_, hchecked, rfl⟩, ?_, ?_, by decide⟩
  · exact bind_eq_ok.mpr ⟨_, hchecked, rfl⟩
  · exact bind_eq_ok.mpr ⟨_, hchecked, rfl⟩

end Extractor
