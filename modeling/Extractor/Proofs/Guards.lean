import Extractor.Proofs.Draft

/-!
# Extractor.Proofs.Guards

Conditions on elements test an attribute only where it is there. A condition is
evaluated from left to right, and what stands behind a connective only as long
as it matters (`ElementPredicate.evaluate`). The demand for an attribute that
stands in a conjunction holds wherever the conjunction does
(`mem_attributes_of_requiresAttribute`), so that a test may stand behind it
without a demand of its own, and no call on a filter tears the two apart
(`ElementFilter.Guarded.apply`).
-/

namespace Extractor

open Outcome

/-- An element as conditions see it: the attributes that it has, and the answer of every other
test. -/
structure ElementView where
  attributes : List String
  answer : ElementPredicate → Bool

/-- What comes of a condition, and the parts of it that were asked on the way, in order. -/
structure Evaluation where
  value : Bool
  asked : List ElementPredicate

namespace ElementPredicate

variable {p q : ElementPredicate} {key : String} {e : ElementView}

/-! ## evaluation -/

/-- Evaluates a condition from left to right. The right side of "and" is asked only if the left side
holds, that of "or" only if it does not. -/
def evaluate (e : ElementView) : ElementPredicate → Evaluation
  | hasAttribute keys => ⟨keys.any (e.attributes.contains ·), [hasAttribute keys]⟩
  | and left right =>
      let first := left.evaluate e
      if first.value then ⟨(right.evaluate e).value, first.asked ++ (right.evaluate e).asked⟩
      else ⟨false, first.asked⟩
  | or left right =>
      let first := left.evaluate e
      if first.value then ⟨true, first.asked⟩
      else ⟨(right.evaluate e).value, first.asked ++ (right.evaluate e).asked⟩
  | not operand => ⟨!(operand.evaluate e).value, (operand.evaluate e).asked⟩
  | leaf => ⟨e.answer leaf, [leaf]⟩

/-- The attribute whose value a part of a condition tests. -/
def tested? : ElementPredicate → Option String
  | attributeValue _ key _ | attributePattern key _ _ => some key
  | _ => none

/-- Whatever the element, the condition tests no attribute that is not there. -/
def Guarded (p : ElementPredicate) : Prop :=
  ∀ e : ElementView, ∀ leaf ∈ (p.evaluate e).asked, ∀ key, leaf.tested? = some key →
    key ∈ e.attributes

/-- The left side of "and" is asked, and the right side only where the left one holds. -/
theorem asked_and {leaf : ElementPredicate} (h : leaf ∈ ((p.and q).evaluate e).asked) :
    leaf ∈ (p.evaluate e).asked ∨ (p.evaluate e).value = true ∧ leaf ∈ (q.evaluate e).asked := by
  rw [evaluate] at h
  split at h
  · next hvalue => exact (List.mem_append.mp h).imp_right fun hright => ⟨hvalue, hright⟩
  · exact .inl h

/-- What "or" asks is asked by one of its sides. -/
theorem asked_or {leaf : ElementPredicate} (h : leaf ∈ ((p.or q).evaluate e).asked) :
    leaf ∈ (p.evaluate e).asked ∨ leaf ∈ (q.evaluate e).asked := by
  rw [evaluate] at h
  split at h
  · exact .inl h
  · exact List.mem_append.mp h

/-- If "and" holds so do both sides. -/
theorem value_and (h : ((p.and q).evaluate e).value = true) :
    (p.evaluate e).value = true ∧ (q.evaluate e).value = true := by
  rw [evaluate] at h
  split at h
  · next hvalue => exact ⟨hvalue, h⟩
  · contradiction

/-- Where a condition holds that contains the demand for an attribute, the attribute is there. -/
theorem mem_attributes_of_requiresAttribute (hrequires : p.requiresAttribute key = true)
    (hvalue : (p.evaluate e).value = true) : key ∈ e.attributes := by
  induction p with
  | hasAttribute keys =>
      have hkeys : keys = [key] := by simpa [requiresAttribute] using hrequires
      simpa [evaluate, hkeys] using hvalue
  | and left right ihleft ihright =>
      obtain ⟨hleft, hright⟩ := value_and hvalue
      rw [requiresAttribute, Bool.or_eq_true] at hrequires
      exact hrequires.elim (ihleft · hleft) (ihright · hright)
  | _ => contradiction

/-! ## guarded conditions -/

/-- A part without connectives that tests no attribute. -/
theorem guarded_leaf (hleaf : ∀ e, (p.evaluate e).asked = [p]) (htested : p.tested? = none) :
    p.Guarded := by
  intro e leaf hmem key hkey
  rw [hleaf, List.mem_singleton] at hmem
  rw [hmem, htested] at hkey
  contradiction

/-- Conditions that are joined or negated stay guarded. -/
theorem Guarded.and (hp : p.Guarded) (hq : q.Guarded) : (p.and q).Guarded := by
  intro e leaf hmem
  obtain hleft | ⟨-, hright⟩ := asked_and hmem
  · exact hp e leaf hleft
  · exact hq e leaf hright

theorem Guarded.or (hp : p.Guarded) (hq : q.Guarded) : (p.or q).Guarded := fun e leaf hmem =>
  (asked_or hmem).elim (hp e leaf) (hq e leaf)

theorem Guarded.not (hp : p.Guarded) : p.not.Guarded := hp

/-- Behind a condition with the demand for an attribute, the attribute may be tested. -/
theorem Guarded.and_test (hp : p.Guarded) (hrequires : p.requiresAttribute key = true)
    (hleaf : ∀ e, (q.evaluate e).asked = [q]) (htested : q.tested? = some key) :
    (p.and q).Guarded := by
  intro e leaf hmem other hother
  obtain hleft | ⟨hvalue, hright⟩ := asked_and hmem
  · exact hp e leaf hleft other hother
  · rw [hleaf, List.mem_singleton] at hright
    rw [hright, htested] at hother
    exact Option.some.inj hother ▸ mem_attributes_of_requiresAttribute hrequires hvalue

end ElementPredicate

namespace ElementFilter

open ElementPredicate (guarded_leaf)

variable {f g : ElementFilter} {p q : ElementPredicate} {key : String}

/-- A filter whose condition, if it has one, is guarded. -/
def Guarded (f : ElementFilter) : Prop := ∀ p, f.predicate = some p → p.Guarded

/-- A filter stays guarded whatever guarded condition is added to it. -/
theorem Guarded.push (hf : f.Guarded) (hp : p.Guarded) : (f.push p).Guarded :=
  forall_push .and hf hp

/-- A test stands behind the demand for its attribute, old or new. -/
theorem Guarded.pushGuarded (hf : f.Guarded) (hleaf : ∀ e, (p.evaluate e).asked = [p])
    (htested : p.tested? = some key) : (f.pushGuarded key p).Guarded := by
  obtain ⟨predicate⟩ := f
  have hdemand : (ElementPredicate.hasAttribute [key]).requiresAttribute key = true := by
    simp [ElementPredicate.requiresAttribute]
  have hguard : (ElementPredicate.hasAttribute [key]).Guarded := guarded_leaf (fun _ => rfl) rfl
  cases predicate with
  | none =>
      intro q hq
      exact Option.some.inj hq ▸ hguard.and_test hdemand hleaf htested
  | some current =>
      have hcurrent := hf current rfl
      intro q hq
      rw [ElementFilter.pushGuarded, Option.any_some] at hq
      split at hq
      · next hrequires =>
          exact Option.some.inj hq ▸ hcurrent.and_test hrequires hleaf htested
      · refine Option.some.inj hq ▸ (hcurrent.and hguard).and_test ?_ hleaf htested
        rw [ElementPredicate.requiresAttribute, hdemand, Bool.or_true]

theorem Guarded.pushFilter {other : Option ElementPredicate} (hf : f.Guarded)
    (hother : ∀ p, other = some p → p.Guarded) : (f.pushFilter other).Guarded :=
  forall_pushFilter .and hf hother

theorem Guarded.orElse (hf : f.Guarded) (hg : g.Guarded) : (f.orElse g).Guarded :=
  forall_orElse .or hf hg

/-- A call on a guarded filter leaves a guarded one, if the filter it refers to is guarded. -/
theorem Guarded.apply [Libraries] {call : Call} (hf : f.Guarded)
    (hoperand : ∀ other, call.operand? = some other → other.Guarded)
    (h : f.apply call = .ok g) : g.Guarded := by
  cases call with
  | finds dialect query =>
      obtain ⟨trimmed, -, h⟩ := bind_eq_ok.mp h
      exact pure_eq_ok.mp h ▸ hf.push (guarded_leaf (fun _ => rfl) rfl)
  | hasText values => exact Except.ok.inj h ▸ hf.push (guarded_leaf (fun _ => rfl) rfl)
  | hasRaw values => exact Except.ok.inj h ▸ hf.push (guarded_leaf (fun _ => rfl) rfl)
  | textPattern source ignoreCase =>
      obtain ⟨pattern, -, h⟩ := bind_eq_ok.mp h
      exact pure_eq_ok.mp h ▸ hf.push (guarded_leaf (fun _ => rfl) rfl)
  | rawPattern source ignoreCase =>
      obtain ⟨pattern, -, h⟩ := bind_eq_ok.mp h
      exact pure_eq_ok.mp h ▸ hf.push (guarded_leaf (fun _ => rfl) rfl)
  | hasAttribute keys => exact Except.ok.inj h ▸ hf.push (guarded_leaf (fun _ => rfl) rfl)
  | attributeValue test key values =>
      exact Except.ok.inj h ▸ hf.pushGuarded (fun _ => rfl) rfl
  | attributePattern key source ignoreCase =>
      obtain ⟨pattern, -, h⟩ := bind_eq_ok.mp h
      exact pure_eq_ok.mp h ▸ hf.pushGuarded (fun _ => rfl) rfl
  | and other => exact Except.ok.inj h ▸ hf.pushFilter (hoperand other rfl)
  | or other => exact Except.ok.inj h ▸ hf.orElse (hoperand other rfl)
  | not other =>
      refine Except.ok.inj h ▸ hf.pushFilter fun p hp => ?_
      obtain ⟨q, hq, rfl⟩ := Option.map_eq_some_iff.mp hp
      exact (hoperand other rfl q hq).not

/-- Whatever is built step by step is guarded. -/
theorem Built.guarded [Libraries] (h : f.Built) : f.Guarded := by
  induction h with
  | empty => exact nofun
  | call _ _ happly hf hoperand => exact hf.apply hoperand happly

/-- **Attributes are tested only where they are.** Whatever calls a filter comes from, and whatever
the element, the evaluation of its condition asks for the value of no attribute that the element
does not have. -/
theorem asks_present_attributes [Libraries] (hf : f.Built) (hp : f.predicate = some p)
    (e : ElementView) :
    ∀ leaf ∈ (p.evaluate e).asked, ∀ key, leaf.tested? = some key → key ∈ e.attributes :=
  hf.guarded p hp e

/-- What has one of two attributes, and a certain value of the second. -/
def sourced : ElementFilter :=
  ⟨some (.and (.and (.hasAttribute ["href", "src"]) (.hasAttribute ["src"]))
    (.attributeValue .eq "src" ["x.png"]))⟩

/-- The condition of a filter that joins this one by "or". The demand for `href` on the left of "or"
does not cover what follows, so that the last test comes with another one. -/
def linked : ElementPredicate :=
  .and (.and (.and (.or (.and (.hasAttribute ["href"]) (.attributePattern "href" "^https" false))
      (.and (.and (.hasAttribute ["href", "src"]) (.hasAttribute ["src"]))
        (.attributeValue .eq "src" ["x.png"])))
    (.not (.and (.hasAttribute ["href"]) (.attributeValue .ends "href" [".pdf"]))))
    (.hasAttribute ["href"])) (.attributeValue .contains "href" ["a"])

/-- The filters of the example are built step by step. -/
theorem built_sourced : sourced.Built := by
  have hdemand : Built ⟨some (.hasAttribute ["href", "src"])⟩ :=
    @Built.call _ _ _ (.hasAttribute ["href", "src"]) .empty (by rintro _ ⟨⟩) rfl
  exact @Built.call _ _ _ (.attributeValue .eq "src" ["x.png"]) hdemand (by rintro _ ⟨⟩) (by decide)

theorem built_linked : Built ⟨some linked⟩ := by
  have hlink : Built ⟨some (.and (.hasAttribute ["href"])
      (.attributePattern "href" "^https" false))⟩ :=
    @Built.call _ _ _ (.attributePattern "href" "^https" false) .empty (by rintro _ ⟨⟩)
      (by decide +kernel)
  have hfile : Built ⟨some (.and (.hasAttribute ["href"])
      (.attributeValue .ends "href" [".pdf"]))⟩ :=
    @Built.call _ _ _ (.attributeValue .ends "href" [".pdf"]) .empty (by rintro _ ⟨⟩) (by decide)
  have heither := @Built.call _ _ _ (.or sourced) hlink (by rintro _ ⟨⟩; exact built_sourced) rfl
  have hneither := @Built.call _ _ _ (.not _) heither (by rintro _ ⟨⟩; exact hfile) rfl
  exact @Built.call _ _ _ (.attributeValue .contains "href" ["a"]) hneither (by rintro _ ⟨⟩)
    (by decide)

/-- Of an element with a source only, the value of the source is asked for. -/
theorem asks_present_attributes_linked :
    (linked.evaluate ⟨["src"], fun _ => true⟩).asked =
        [.hasAttribute ["href"], .hasAttribute ["href", "src"], .hasAttribute ["src"],
          .attributeValue .eq "src" ["x.png"], .hasAttribute ["href"], .hasAttribute ["href"]] ∧
      ∀ leaf ∈ (linked.evaluate ⟨["src"], fun _ => true⟩).asked, ∀ key,
        leaf.tested? = some key → key ∈ ["src"] :=
  ⟨by decide, asks_present_attributes built_linked rfl ⟨["src"], fun _ => true⟩⟩

end ElementFilter

end Extractor
