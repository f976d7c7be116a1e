import Extractor.Libraries.Standard
import Extractor.Proofs.Flow

/-!
# Extractor.Proofs.Draft

Chains that are built call by call. Every call that succeeds adds sound steps
which take the type at the end of the chain, or puts a default in front of
nothing but the source of the page (`Draft.Sound.apply`). So every chain that
any sequence of calls leaves is well typed, and the check has nothing to say
about it (`Draft.Start.run_checked`).
-/

namespace Extractor

open Outcome

/-! ## operations within a chain -/

/-- An operation that is neither a default nor a reference, with arguments that are accepted. -/
structure Operation.Plain [Libraries] (operation : Operation) : Prop where
  not_default : operation.isDefault = false
  not_reference : operation.isReference = false
  accepted : operation.Accepted

/-- A plain operation on an open type is a sound step. -/
theorem Operation.Plain.sound [Libraries] {operation : Operation} {accepts returns : ValueType}
    (h : operation.Plain) (hopen : accepts.isOpen = true) :
    (Step.plain operation accepts returns).Sound where
  not_default := h.not_default
  takes_open := hopen
  reference_closes href := by
    rw [Step.plain, h.not_reference] at href
    contradiction
  accepted := h.accepted

/-- Whether the operation has nothing in it that could be refused. -/
def Operation.isSimple : Operation → Bool
  | default _ | select .. | selectAll .. | remove .. | filter _ | filterElements _ | format _
  | regex .. | regexAll _ | regexSub .. | isFound .. | isMatch .. | nested .. | jsonify .. => false
  | _ => true

/-- Operations without patterns, queries and references are plain. -/
theorem Operation.plain_of_isSimple [Libraries] {operation : Operation}
    (h : operation.isSimple = true) :
    operation.Plain := by
  cases operation
  case default | select | selectAll | remove | filter | filterElements | format | regex | regexAll
      | regexSub | isFound | isMatch | nested | jsonify => contradiction
  all_goals exact ⟨rfl, rfl, ⟨by simp, rfl, by simp [queries, query?]⟩⟩

/-- A reference holds nothing that could be refused. -/
theorem Operation.accepted_of_isReference [Libraries] {operation : Operation}
    (h : operation.isReference = true) : operation.Accepted := by
  cases operation
  case nested | jsonify => exact ⟨by simp, rfl, by simp [queries, query?]⟩
  all_goals contradiction

/-- An operation with one query is in order when the query is. -/
theorem Operation.plain_of_query? [Libraries] {operation : Operation} {dialect : Dialect}
    {query : String} (hquery : operation.query? = some (dialect, query))
    (h : Query.check dialect query = .ok ()) : operation.Plain := by
  have hqueries : operation.queries = [(dialect, query)] := by
    cases operation <;> first | contradiction | simp [queries, hquery]
  have haccepted : ∀ q ∈ operation.queries, Query.check q.1 q.2 = .ok () := by
    rw [hqueries]
    intro q hq
    rw [List.mem_singleton.mp hq]
    exact h
  cases operation <;> first | contradiction | exact ⟨rfl, rfl, ⟨by simp, rfl, haccepted⟩⟩

/-- A template with a slot is plain, and so are the other operations whose checks have passed. -/
theorem plain_format [Libraries] {template : String} (h : Draft.hasSlot template = true) :
    (Operation.format template).Plain :=
  ⟨rfl, rfl, ⟨fun other hother => by cases hother; exact h, rfl, by
    simp [Operation.queries, Operation.query?]⟩⟩

theorem plain_regex [Libraries] {pattern : Pattern} {group found : Nat}
    (hfound : Pattern.countGroups pattern.source = .ok found)
    (hgroup : Pattern.checkGroup pattern.source found group = .ok ()) :
    (Operation.regex pattern group).Plain := by
  refine ⟨rfl, rfl, ⟨by simp, ?_, by simp [Operation.queries, Operation.query?]⟩⟩
  rw [checkPatterns, bind_eq_ok]
  exact ⟨found, hfound, hgroup⟩

theorem plain_regexAll [Libraries] {pattern : Pattern} {found : Nat}
    (hfound : Pattern.countGroups pattern.source = .ok found)
    (hall : Pattern.checkFindAll pattern.source found = .ok ()) :
    (Operation.regexAll pattern).Plain := by
  refine ⟨rfl, rfl, ⟨by simp, ?_, by simp [Operation.queries, Operation.query?]⟩⟩
  rw [checkPatterns, bind_eq_ok]
  exact ⟨found, hfound, hall⟩

/-- The operations that ask for nothing but accepted patterns. -/
theorem Operation.plain_of_patterns [Libraries] {operation : Operation}
    (hkind : (∃ p r, operation = .regexSub p r) ∨ (∃ c s i m, operation = .isMatch c s i m) ∨
      ∃ p, operation = .filter p)
    (h : ∀ source ∈ operation.patterns, ∃ found, Pattern.countGroups source = .ok found) :
    operation.Plain := by
  have hpatterns : checkPatterns operation = .ok () :=
    (checkPatterns_eq_ok (by rintro p n rfl; simp at hkind) (by rintro p rfl; simp at hkind)).mpr h
  rcases hkind with ⟨p, r, rfl⟩ | ⟨c, s, i, m, rfl⟩ | ⟨p, rfl⟩
  all_goals exact ⟨rfl, rfl, ⟨by simp, hpatterns, by simp [queries, query?]⟩⟩

/-- A condition on elements whose patterns and queries are accepted. -/
structure ElementPredicate.Accepted [Libraries] (p : ElementPredicate) : Prop where
  patterns : ∀ source ∈ p.patterns, ∃ found, Pattern.countGroups source = .ok found
  queries : ∀ q ∈ p.queries, Query.check q.1 q.2 = .ok ()

theorem plain_filterElements [Libraries] {p : ElementPredicate} (h : p.Accepted) :
    (Operation.filterElements p).Plain :=
  ⟨rfl, rfl, ⟨by simp, (checkPatterns_eq_ok (by simp) (by simp)).mpr h.patterns, h.queries⟩⟩

/-- A query without suffix that is let through is accepted as it is stored. -/
theorem Query.check_of_plain [Libraries] {dialect : Dialect} {method query trimmed : String}
    (h : Query.plain dialect method query = .ok trimmed) :
    Query.check dialect trimmed = .ok () := by
  rw [Query.plain, bind_eq_ok] at h
  obtain ⟨_, _, h⟩ := h
  rw [bind_eq_ok] at h
  obtain ⟨_, hcheck, h⟩ := h
  rw [pure_eq_ok] at h
  exact h ▸ hcheck

/-- A pattern that is let through is accepted as it is stored. -/
theorem Pattern.exists_groups [Libraries] {source : String} {ignoreCase dotAll : Bool} {p : Pattern}
    (h : Pattern.checked source ignoreCase dotAll = .ok p) :
    ∃ found, Pattern.countGroups p.source = .ok found := by
  rw [Pattern.checked, bind_eq_ok] at h
  obtain ⟨found, hfound, h⟩ := h
  rw [pure_eq_ok] at h
  exact ⟨found, h ▸ hfound⟩

/-! ## filters on elements -/

namespace ElementFilter

/-- The filter that a call refers to. -/
def Call.operand? : Call → Option ElementFilter
  | .and other | .or other | .not other => some other
  | _ => none

/-- Filters that come from the empty one by calls, whose operands are such filters again. -/
inductive Built [Libraries] : ElementFilter → Prop
  | empty : Built .empty
  | call {f g : ElementFilter} {call : Call} (hf : Built f)
      (hoperand : ∀ other, call.operand? = some other → Built other)
      (happly : f.apply call = .ok g) : Built g

variable {f g : ElementFilter} {p q : ElementPredicate}

section Conditions

variable {P : ElementPredicate → Prop} {other : Option ElementPredicate}

/-- What conjunctions pass on holds behind another condition. -/
theorem forall_push (hand : ∀ {p q}, P p → P q → P (.and p q))
    (hf : ∀ p, f.predicate = some p → P p) (hp : P p) :
    ∀ q, (f.push p).predicate = some q → P q := by
  obtain ⟨predicate⟩ := f
  intro q hq
  cases predicate with
  | none => exact Option.some.inj hq ▸ hp
  | some current => exact Option.some.inj hq ▸ hand (hf current rfl) hp

/-- Joining another filter preserves what joining its predicate preserves. -/
theorem forall_pushFilter (hand : ∀ {p q}, P p → P q → P (.and p q))
    (hf : ∀ p, f.predicate = some p → P p) (hother : ∀ p, other = some p → P p) :
    ∀ q, (f.pushFilter other).predicate = some q → P q := by
  cases other with
  | none => exact hf
  | some p => exact forall_push hand hf (hother p rfl)

/-- What disjunctions pass on holds of two filters joined by one. -/
theorem forall_orElse (hor : ∀ {p q}, P p → P q → P (.or p q))
    (hf : ∀ p, f.predicate = some p → P p) (hg : ∀ p, g.predicate = some p → P p) :
    ∀ q, (f.orElse g).predicate = some q → P q := by
  obtain ⟨left⟩ := f
  obtain ⟨right⟩ := g
  cases left with
  | none => simpa [ElementFilter.orElse] using hg
  | some p =>
      cases right with
      | none => simpa [ElementFilter.orElse] using hf
      | some q =>
          intro r hr
          exact Option.some.inj hr ▸ hor (hf p rfl) (hg q rfl)

end Conditions

/-- A filter whose condition, if it has one, is accepted. -/
def Accepted [Libraries] (f : ElementFilter) : Prop := ∀ p, f.predicate = some p → p.Accepted

/-- A single test is accepted if its pattern and its query are. -/
theorem accepted_leaf [Libraries] (hleaf : p.leaves = [p])
    (hpattern : ∀ source, p.pattern? = some source →
      ∃ found, Pattern.countGroups source = .ok found)
    (hquery : ∀ q, p.query? = some q → Query.check q.1 q.2 = .ok ()) : p.Accepted := by
  constructor
  · intro source hsource
    rw [ElementPredicate.patterns, hleaf, List.mem_filterMap] at hsource
    obtain ⟨leaf, hmem, hsource⟩ := hsource
    exact hpattern source (List.mem_singleton.mp hmem ▸ hsource)
  · intro q hq
    rw [ElementPredicate.queries, hleaf, List.mem_filterMap] at hq
    obtain ⟨leaf, hmem, hq⟩ := hq
    exact hquery q (List.mem_singleton.mp hmem ▸ hq)

/-- Accepted predicates may be joined and negated. -/
theorem accepted_and [Libraries] (hp : p.Accepted) (hq : q.Accepted) : (p.and q).Accepted := by
  constructor
  · intro source hsource
    rw [ElementPredicate.patterns, ElementPredicate.leaves, List.filterMap_append,
      List.mem_append] at hsource
    exact hsource.elim (hp.patterns source) (hq.patterns source)
  · intro query hquery
    rw [ElementPredicate.queries, ElementPredicate.leaves, List.filterMap_append,
      List.mem_append] at hquery
    exact hquery.elim (hp.queries query) (hq.queries query)

theorem accepted_or [Libraries] (hp : p.Accepted) (hq : q.Accepted) : (p.or q).Accepted := by
  have h := accepted_and hp hq
  exact ⟨h.patterns, h.queries⟩

theorem accepted_not [Libraries] (hp : p.Accepted) : p.not.Accepted := ⟨hp.patterns, hp.queries⟩

/-- What is pushed to an accepted filter keeps it accepted, whatever the way of pushing. -/
theorem Accepted.push [Libraries] (hf : f.Accepted) (hp : p.Accepted) : (f.push p).Accepted :=
  forall_push accepted_and hf hp

theorem Accepted.pushGuarded [Libraries] {key : String} (hf : f.Accepted) (hp : p.Accepted) :
    (f.pushGuarded key p).Accepted := by
  have hguard : (ElementPredicate.hasAttribute [key]).Accepted :=
    accepted_leaf rfl nofun nofun
  rw [ElementFilter.pushGuarded]
  split
  · exact hf.push hp
  · exact (hf.push hguard).push hp

theorem Accepted.pushFilter [Libraries] {other : Option ElementPredicate} (hf : f.Accepted)
    (hother : ∀ p, other = some p → p.Accepted) : (f.pushFilter other).Accepted :=
  forall_pushFilter accepted_and hf hother

theorem Accepted.orElse [Libraries] (hf : f.Accepted) (hg : g.Accepted) : (f.orElse g).Accepted :=
  forall_orElse accepted_or hf hg

/-- A call on an accepted filter leaves an accepted one. -/
theorem Accepted.apply [Libraries] {call : Call} (hf : f.Accepted)
    (hoperand : ∀ other, call.operand? = some other → other.Accepted)
    (h : f.apply call = .ok g) : g.Accepted := by
  cases call with
  | finds dialect query =>
      rw [ElementFilter.apply, bind_eq_ok] at h
      obtain ⟨trimmed, hplain, h⟩ := h
      rw [pure_eq_ok] at h
      refine h ▸ hf.push (accepted_leaf rfl nofun fun q hq => ?_)
      obtain rfl : (dialect, trimmed) = q := by simpa [ElementPredicate.query?] using hq
      exact Query.check_of_plain hplain
  | hasText values =>
      rw [ElementFilter.apply, Except.ok.injEq] at h
      exact h ▸ hf.push (accepted_leaf rfl nofun nofun)
  | hasRaw values =>
      rw [ElementFilter.apply, Except.ok.injEq] at h
      exact h ▸ hf.push (accepted_leaf rfl nofun nofun)
  | textPattern source ignoreCase =>
      rw [ElementFilter.apply, bind_eq_ok] at h
      obtain ⟨p, hp, h⟩ := h
      rw [pure_eq_ok] at h
      exact h ▸ hf.push (accepted_leaf rfl (by rintro _ ⟨⟩; exact Pattern.exists_groups hp) nofun)
  | rawPattern source ignoreCase =>
      rw [ElementFilter.apply, bind_eq_ok] at h
      obtain ⟨p, hp, h⟩ := h
      rw [pure_eq_ok] at h
      exact h ▸ hf.push (accepted_leaf rfl (by rintro _ ⟨⟩; exact Pattern.exists_groups hp) nofun)
  | hasAttribute keys =>
      rw [ElementFilter.apply, Except.ok.injEq] at h
      exact h ▸ hf.push (accepted_leaf rfl nofun nofun)
  | attributeValue test key values =>
      rw [ElementFilter.apply, Except.ok.injEq] at h
      exact h ▸ hf.pushGuarded (accepted_leaf rfl nofun nofun)
  | attributePattern key source ignoreCase =>
      rw [ElementFilter.apply, bind_eq_ok] at h
      obtain ⟨p, hp, h⟩ := h
      rw [pure_eq_ok] at h
      exact h ▸ hf.pushGuarded
        (accepted_leaf rfl (by rintro _ ⟨⟩; exact Pattern.exists_groups hp) nofun)
  | and other =>
      rw [ElementFilter.apply, Except.ok.injEq] at h
      exact h ▸ hf.pushFilter (hoperand other rfl)
  | or other =>
      rw [ElementFilter.apply, Except.ok.injEq] at h
      exact h ▸ hf.orElse (hoperand other rfl)
  | not other =>
      rw [ElementFilter.apply, Except.ok.injEq] at h
      refine h ▸ hf.pushFilter fun p hp => ?_
      obtain ⟨q, hq, rfl⟩ := Option.map_eq_some_iff.mp hp
      exact accepted_not (hoperand other rfl q hq)

/-- Every filter that calls can build is accepted. -/
theorem Built.accepted [Libraries] (h : f.Built) : f.Accepted := by
  induction h with
  | empty => exact nofun
  | call _ _ happly hf hoperand => exact hf.apply hoperand happly

end ElementFilter

/-! ## drafts -/

/-- A call whose filter of elements, if it has one, is accepted. -/
def Call.Accepted [Libraries] (call : Call) : Prop := ∀ f, call = .filterElements f → f.Accepted

namespace Draft

variable {d d' : Draft} {method : String} {accepted : List ValueType}
  {type accepts returns : ValueType} {operation : Operation}

/-- A draft of a sound chain. As long as it is nothing but the source of the page, it has a step
besides a default. -/
structure Sound [Libraries] (d : Draft) : Prop where
  chain : Chain.Sound d.chain
  source : d.isSource = true → ∃ step ∈ d.chain, step.isDefault = false

/-- Where only open types are asked for, the type at hand is one of them. -/
theorem expect_eq_ok (hopen : ∀ t ∈ accepted, t.isOpen = true)
    (h : d.expect method accepted = .ok type) : type = d.cursor ∧ type ∈ accepted := by
  rw [expect] at h
  split at h
  · next hfits =>
      rw [Except.ok.injEq] at h
      subst h
      simp only [Bool.and_eq_true, decide_eq_true_eq, List.any_eq_true] at hfits
      obtain ⟨hany, t, ht, htype⟩ := hfits
      have hnotAny : t ≠ .any := by
        rintro rfl
        exact absurd (hopen _ ht) (by decide)
      have heq : t = d.cursor := by simpa [ValueType.accepts, hany, hnotAny] using htype
      exact ⟨rfl, heq ▸ ht⟩
  · contradiction

/-- Of one type that is expected, the draft has that type. -/
theorem expect_singleton (hopen : accepts.isOpen = true)
    (h : d.expect method [accepts] = .ok type) : type = accepts :=
  List.mem_singleton.mp (expect_eq_ok (by simpa using hopen) h).2

/-- A sound step that takes the type at the end keeps a draft sound. -/
theorem Sound.push [Libraries] (h : d.Sound) (haccepts : accepts = d.cursor)
    (hstep : (Step.plain operation accepts returns).Sound) :
    (d.push operation accepts returns).Sound :=
  ⟨h.chain.append haccepts hstep, nofun⟩

/-- A plain operation may be added on the type that was asked for, whatever it gives. -/
theorem Sound.pushExpected [Libraries] (h : d.Sound) (hopen : ∀ t ∈ accepted, t.isOpen = true)
    (htype : d.expect method accepted = .ok type) (hplain : operation.Plain) :
    (d.push operation type returns).Sound := by
  obtain ⟨hcursor, hmem⟩ := expect_eq_ok hopen htype
  exact h.push hcursor (hplain.sound (hopen type hmem))

/-- A default is put in front of nothing, or of the source of the page. -/
theorem addDefault_eq_ok {value : Literal} (h : d.addDefault value = .ok d') :
    (d.chain = [] ∨ d.isSource = true ∧ d.chain.length = 1) ∧
      d' = { d with chain := .plain (.default value) .any .any :: d.chain } := by
  unfold Draft.addDefault at h
  split at h
  · contradiction
  · next hplace =>
      refine ⟨by simpa [List.isEmpty_iff, or_iff_not_imp_left] using hplace, ?_⟩
      split at h
      · contradiction
      · contradiction
      · exact (Except.ok.inj h).symm

/-- A default in front keeps a draft sound. -/
theorem Sound.addDefault [Libraries] {value : Literal} (h : d.Sound)
    (hok : d.addDefault value = .ok d') :
    d'.Sound := by
  obtain ⟨hplace, rfl⟩ := addDefault_eq_ok hok
  have hflow : Chain.Flow .document d.chain := by
    rcases h.chain with hflow | ⟨other, steps, hchain, -⟩
    · exact hflow
    · -- a second default would stand where the source of the page has its only step
      rcases hplace with hempty | ⟨hsource, hone⟩
      · rw [hempty] at hchain
        contradiction
      · obtain ⟨step, hmem, hstep⟩ := h.source hsource
        have hnil : steps = [] := by simpa [hchain] using hone
        rw [hchain, hnil, List.mem_singleton] at hmem
        rw [hmem] at hstep
        contradiction
  refine ⟨.inr ⟨value, d.chain, rfl, hflow⟩, fun hsource => ?_⟩
  obtain ⟨step, hmem, hstep⟩ := h.source hsource
  exact ⟨step, List.mem_cons_of_mem _ hmem, hstep⟩

/-- Adds an operation that takes the type at hand, whatever it gives. -/
theorem Sound.pushAny [Libraries] {gives : ValueType → ValueType} (h : d.Sound)
    (hopen : ∀ t ∈ accepted, t.isOpen = true) (hplain : operation.Plain)
    (hok : (d.expect method accepted >>= fun type => pure (d.push operation type (gives type))) =
      .ok d') : d'.Sound := by
  rw [bind_eq_ok] at hok
  obtain ⟨type, htype, hok⟩ := hok
  rw [pure_eq_ok] at hok
  exact hok ▸ h.pushExpected hopen htype hplain

/-- Adds one of two operations, by the type at hand. -/
theorem Sound.pushEither [Libraries] {one many : Operation}
    {first second oneType manyType : ValueType} {choose : ValueType → Except BuildError Draft}
    (h : d.Sound) (hopen : ∀ t ∈ [first, second], t.isOpen = true) (hone : one.Plain)
    (hmany : many.Plain) (hfirst : choose first = .ok (d.push one first oneType))
    (hsecond : choose second = .ok (d.push many second manyType))
    (hok : d.expect method [first, second] >>= choose = .ok d') : d'.Sound := by
  rw [bind_eq_ok] at hok
  obtain ⟨type, htype, hok⟩ := hok
  rcases List.mem_pair.mp (expect_eq_ok hopen htype).2 with rfl | rfl
  · rw [hfirst] at hok
    exact Except.ok.inj hok ▸ h.pushExpected hopen htype hone
  · rw [hsecond] at hok
    exact Except.ok.inj hok ▸ h.pushExpected hopen htype hmany

/-- The calls keep a draft sound where they succeed, one lemma for each way of adding a step. -/
theorem Sound.pushFrom [Libraries] (h : d.Sound)
    (hstep : (Step.plain operation accepts returns).Sound)
    (hok : d.pushFrom method operation accepts returns = .ok d') : d'.Sound := by
  rw [Draft.pushFrom, bind_eq_ok] at hok
  obtain ⟨type, htype, hok⟩ := hok
  rw [pure_eq_ok] at hok
  have hopen : ∀ t ∈ [accepts], t.isOpen = true :=
    List.forall_mem_singleton.mpr hstep.takes_open
  obtain ⟨hcursor, hmem⟩ := expect_eq_ok hopen htype
  exact hok ▸ h.push (List.mem_singleton.mp hmem ▸ hcursor) hstep

/-- An extraction is for one element or for several. -/
theorem Sound.pushExtraction [Libraries] {one many : Operation} {oneType : ValueType} (h : d.Sound)
    (hone : one.Plain) (hmany : many.Plain)
    (hok : d.pushExtraction method one many oneType = .ok d') : d'.Sound :=
  h.pushEither (by decide) hone hmany rfl rfl hok

theorem Sound.pushAttributes [Libraries] {keys : List String} (h : d.Sound)
    (hok : d.pushAttributes keys = .ok d') : d'.Sound := by
  unfold Draft.pushAttributes at hok
  dsimp only at hok
  split at hok
  · contradiction
  · exact h.pushExtraction (Operation.plain_of_isSimple rfl) (Operation.plain_of_isSimple rfl) hok

theorem Sound.pushText [Libraries] (h : d.Sound) (hok : d.pushText = .ok d') : d'.Sound :=
  h.pushExtraction (Operation.plain_of_isSimple rfl) (Operation.plain_of_isSimple rfl) hok

theorem Sound.pushRaw [Libraries] (h : d.Sound) (hok : d.pushRaw = .ok d') : d'.Sound :=
  h.pushExtraction (Operation.plain_of_isSimple rfl) (Operation.plain_of_isSimple rfl) hok

/-- What a suffix of a query asks for is extracted. -/
theorem Sound.pushSuffix [Libraries] {extraction : Option Extraction} (h : d.Sound)
    (hok : d.pushSuffix extraction = .ok d') : d'.Sound := by
  match extraction with
  | none => exact Except.ok.inj hok ▸ h
  | some .text => exact h.pushText hok
  | some .raw => exact h.pushRaw hok
  | some (.attributes names) => exact h.pushAttributes hok

/-- A selection adds the query that is left without its suffix, then what the suffix extracts. -/
theorem Sound.pushSelection [Libraries] {dialect : Dialect} {query : String}
    {operation : Dialect → String → Operation} (h : d.Sound)
    (hquery : ∀ q, (operation dialect q).query? = some (dialect, q))
    (hok : d.pushSelection method dialect query operation returns = .ok d') : d'.Sound := by
  rw [Draft.pushSelection, bind_eq_ok] at hok
  obtain ⟨type, htype, hok⟩ := hok
  rw [bind_eq_ok] at hok
  obtain ⟨split, -, hok⟩ := hok
  rw [bind_eq_ok] at hok
  obtain ⟨_, hcheck, hok⟩ := hok
  obtain rfl := expect_singleton rfl htype
  have hplain := Operation.plain_of_query? (hquery split.query) hcheck
  exact (h.pushExpected (by decide) htype hplain).pushSuffix hok

/-- A query that is not cut is checked as it is. -/
theorem Sound.pushPlainQuery [Libraries] {dialect : Dialect} {query : String}
    {operation : Dialect → String → Operation} (h : d.Sound)
    (hquery : ∀ q, (operation dialect q).query? = some (dialect, q))
    (hok : d.pushPlainQuery method dialect query operation = .ok d') : d'.Sound := by
  rw [Draft.pushPlainQuery, bind_eq_ok] at hok
  obtain ⟨type, htype, hok⟩ := hok
  rw [bind_eq_ok] at hok
  obtain ⟨trimmed, hplain, hok⟩ := hok
  rw [pure_eq_ok] at hok
  obtain rfl := expect_singleton rfl htype
  have hplain := Operation.plain_of_query? (hquery trimmed) (Query.check_of_plain hplain)
  exact hok ▸ h.pushExpected (by decide) htype hplain

theorem Sound.pushOnText [Libraries] (h : d.Sound) (hplain : operation.Plain)
    (hok : d.pushOnText method operation = .ok d') : d'.Sound :=
  h.pushAny (by decide) hplain hok

/-- A cast is for one text or for several. -/
theorem Sound.pushCast [Libraries] {one many : Operation} {oneType manyType : ValueType}
    (h : d.Sound) (hone : one.Plain) (hmany : many.Plain)
    (hok : d.pushCast method one many oneType manyType = .ok d') : d'.Sound :=
  h.pushEither (by decide) hone hmany rfl rfl hok

theorem Sound.pushHasAttr [Libraries] {key message : String} (h : d.Sound)
    (hok : d.pushHasAttr key message = .ok d') : d'.Sound := by
  have hone : (Operation.hasAttr (Text.trimmed key) message).Plain :=
    Operation.plain_of_isSimple rfl
  have hmany : (Operation.hasListAttr (Text.trimmed key) message).Plain :=
    Operation.plain_of_isSimple rfl
  exact h.pushEither (by decide) hone hmany rfl rfl hok

/-- A comparison is with a value of the type at the end. -/
theorem Sound.pushComparison [Libraries] {value : Literal} (h : d.Sound) (hplain : operation.Plain)
    (hok : d.pushComparison method value operation = .ok d') : d'.Sound := by
  rw [Draft.pushComparison, bind_eq_ok] at hok
  obtain ⟨type, htype, hok⟩ := hok
  split at hok
  · rw [pure_eq_ok] at hok
    exact hok ▸ h.pushExpected (by decide) htype hplain
  · exact absurd hok throw_ne_ok

theorem Sound.pushMembership [Libraries] {value : Literal} {message : String} (h : d.Sound)
    (hok : d.pushMembership value message = .ok d') : d'.Sound := by
  rw [Draft.pushMembership, bind_eq_ok] at hok
  obtain ⟨type, htype, hok⟩ := hok
  split at hok
  · rw [pure_eq_ok] at hok
    exact hok ▸ h.pushExpected (by decide) htype (Operation.plain_of_isSimple rfl)
  · exact absurd hok throw_ne_ok

/-- A filter of texts is added only if it says something. -/
theorem Sound.pushFilter [Libraries] {f : TextFilter} (h : d.Sound)
    (hok : d.pushFilter f = .ok d') :
    d'.Sound := by
  rw [Draft.pushFilter, bind_eq_ok] at hok
  obtain ⟨type, htype, hok⟩ := hok
  obtain rfl := expect_singleton rfl htype
  split at hok
  · exact absurd hok throw_ne_ok
  · next predicate hpredicate =>
      rw [bind_eq_ok] at hok
      obtain ⟨_, hpatterns, hok⟩ := hok
      rw [pure_eq_ok] at hok
      rw [forM_eq_ok] at hpatterns
      have hplain : (Operation.filter predicate).Plain :=
        Operation.plain_of_patterns (.inr (.inr ⟨predicate, rfl⟩)) fun source hsource =>
          discard_eq_ok.mp (hpatterns source hsource)
      exact hok ▸ h.pushExpected (by decide) htype hplain

theorem Sound.pushElementFilter [Libraries] {f : ElementFilter} (h : d.Sound) (hf : f.Accepted)
    (hok : d.pushElementFilter f = .ok d') : d'.Sound := by
  rw [Draft.pushElementFilter, bind_eq_ok] at hok
  obtain ⟨type, htype, hok⟩ := hok
  obtain rfl := expect_singleton rfl htype
  split at hok
  · exact absurd hok throw_ne_ok
  · next predicate hpredicate =>
      rw [pure_eq_ok] at hok
      exact hok ▸ h.pushExpected (by decide) htype (plain_filterElements (hf predicate hpredicate))

/-- A regular expression is added only if the pattern is accepted and has the group. -/
theorem Sound.pushRegex [Libraries] {source : String} {group : Nat} {ignoreCase dotAll : Bool}
    (h : d.Sound) (hok : d.pushRegex source group ignoreCase dotAll = .ok d') : d'.Sound := by
  rw [Draft.pushRegex, bind_eq_ok] at hok
  obtain ⟨type, htype, hok⟩ := hok
  rw [bind_eq_ok] at hok
  obtain ⟨found, hfound, hok⟩ := hok
  rw [bind_eq_ok] at hok
  obtain ⟨_, hgroup, hok⟩ := hok
  rw [pure_eq_ok] at hok
  obtain rfl := expect_singleton rfl htype
  exact hok ▸ h.pushExpected (by decide) htype (plain_regex hfound hgroup)

/-- All matches are asked for only of patterns with at most one group. -/
theorem Sound.pushRegexAll [Libraries] {source : String} {ignoreCase dotAll : Bool} (h : d.Sound)
    (hok : d.pushRegexAll source ignoreCase dotAll = .ok d') : d'.Sound := by
  rw [Draft.pushRegexAll, bind_eq_ok] at hok
  obtain ⟨type, htype, hok⟩ := hok
  rw [bind_eq_ok] at hok
  obtain ⟨found, hfound, hok⟩ := hok
  rw [bind_eq_ok] at hok
  obtain ⟨_, hall, hok⟩ := hok
  rw [pure_eq_ok] at hok
  obtain rfl := expect_singleton rfl htype
  exact hok ▸ h.pushExpected (by decide) htype (plain_regexAll hfound hall)

theorem Sound.pushRegexSub [Libraries] {source replacement : String} {ignoreCase dotAll : Bool}
    (h : d.Sound) (hok : d.pushRegexSub source replacement ignoreCase dotAll = .ok d') :
    d'.Sound := by
  rw [Draft.pushRegexSub, bind_eq_ok] at hok
  obtain ⟨type, htype, hok⟩ := hok
  rw [bind_eq_ok] at hok
  obtain ⟨p, hp, hok⟩ := hok
  rw [pure_eq_ok] at hok
  have hplain : (Operation.regexSub p replacement).Plain :=
    Operation.plain_of_patterns (.inl ⟨p, replacement, rfl⟩) fun source hsource => by
      rw [List.mem_singleton.mp hsource]
      exact Pattern.exists_groups hp
  exact hok ▸ h.pushExpected (by decide) htype hplain

/-- A match is for one text or for several. -/
theorem Sound.pushMatch [Libraries] {scope : MatchScope} {source message : String}
    {ignoreCase : Bool} (h : d.Sound) (hok : d.pushMatch scope source ignoreCase message = .ok d') :
    d'.Sound := by
  rw [Draft.pushMatch, bind_eq_ok] at hok
  obtain ⟨p, hp, hok⟩ := hok
  have hopen : ∀ t ∈ matchTypes scope, t.isOpen = true := by cases scope <;> decide
  have hplain : (Operation.isMatch scope p.source p.ignoreCase message).Plain :=
    Operation.plain_of_patterns (.inr (.inl ⟨_, _, _, _, rfl⟩)) fun source hsource => by
      rw [List.mem_singleton.mp hsource]
      exact Pattern.exists_groups hp
  exact h.pushAny hopen hplain hok

/-- **A call keeps a draft sound**, whatever it is. -/
theorem Sound.apply [Libraries] {call : Call} (h : d.Sound) (hcall : call.Accepted)
    (hok : d.apply call = .ok d') : d'.Sound := by
  cases call with
  | default value => exact h.addDefault hok
  | select dialect query => exact h.pushSelection (fun _ => rfl) hok
  | selectAll dialect query => exact h.pushSelection (fun _ => rfl) hok
  | remove dialect query => exact h.pushPlainQuery (fun _ => rfl) hok
  | attr keys => exact h.pushAttributes hok
  | text => exact h.pushText hok
  | raw => exact h.pushRaw hok
  | attrsMap =>
      exact h.pushExtraction (Operation.plain_of_isSimple rfl) (Operation.plain_of_isSimple rfl) hok
  | index i => exact h.pushAny (by decide) (Operation.plain_of_isSimple rfl) hok
  | join separator => exact h.pushFrom ((Operation.plain_of_isSimple rfl).sound rfl) hok
  | toLen => exact h.pushAny (by decide) (Operation.plain_of_isSimple rfl) hok
  | unique keepOrder => exact h.pushFrom ((Operation.plain_of_isSimple rfl).sound rfl) hok
  | filter f => exact h.pushFilter hok
  | filterElements f => exact h.pushElementFilter (hcall f rfl) hok
  | strip kind piece => exact h.pushOnText (Operation.plain_of_isSimple rfl) hok
  | replace old new => exact h.pushOnText (Operation.plain_of_isSimple rfl) hok
  | replaceMap table =>
      rw [Draft.apply] at hok
      split at hok
      · contradiction
      · exact h.pushOnText (Operation.plain_of_isSimple rfl) hok
  | format template =>
      rw [Draft.apply] at hok
      split at hok
      · next hslot => exact h.pushOnText (plain_format hslot) hok
      · contradiction
  | split separator => exact h.pushFrom ((Operation.plain_of_isSimple rfl).sound rfl) hok
  | unescape => exact h.pushOnText (Operation.plain_of_isSimple rfl) hok
  | regex source group ignoreCase dotAll => exact h.pushRegex hok
  | regexAll source ignoreCase dotAll => exact h.pushRegexAll hok
  | regexSub source replacement ignoreCase dotAll => exact h.pushRegexSub hok
  | toInt =>
      exact h.pushCast (Operation.plain_of_isSimple rfl) (Operation.plain_of_isSimple rfl) hok
  | toFloat =>
      exact h.pushCast (Operation.plain_of_isSimple rfl) (Operation.plain_of_isSimple rfl) hok
  | toBool => exact h.pushAny (by decide) (Operation.plain_of_isSimple rfl) hok
  | isEqual value message => exact h.pushComparison (Operation.plain_of_isSimple rfl) hok
  | isNotEqual value message => exact h.pushComparison (Operation.plain_of_isSimple rfl) hok
  | isContains value message => exact h.pushMembership hok
  | isFound dialect query message =>
      rw [Draft.apply] at hok
      exact h.pushPlainQuery (fun _ => rfl) hok
  | isMatch scope source ignoreCase message => exact h.pushMatch hok
  | hasAttr key message => exact h.pushHasAttr hok
  | jsonify shape start =>
      exact h.pushFrom ⟨rfl, rfl, fun _ => rfl, Operation.accepted_of_isReference rfl⟩ hok
  | jsonifyDynamic start => exact h.pushAny (by decide) (Operation.plain_of_isSimple rfl) hok
  | subParser schema =>
      exact h.pushFrom ⟨rfl, rfl, fun _ => rfl, Operation.accepted_of_isReference rfl⟩ hok

/-- A call that is let through in front of another schema is let through anyway. -/
theorem apply_of_applyNarrowing [Libraries] {call : Call} (h : d.applyNarrowing call = .ok d') :
    d.apply call = .ok d' := by
  unfold applyNarrowing at h
  split at h
  · rw [bind_eq_ok] at h
    obtain ⟨_, _, h⟩ := h
    exact h
  · exact h

/-! ## runs of calls -/

/-- What a chain starts with: the document, the source of the page, or the document in front of
another schema, where calls only narrow it. -/
inductive Start where
  | document
  | source
  | narrowing
  deriving DecidableEq, Repr

namespace Start

/-- The chain without calls. -/
def draft : Start → Draft
  | document | narrowing => .document
  | source => .source

/-- The chain behind a call, which leaves it as it was if it fails. -/
def after [Libraries] (start : Start) (d : Draft) (call : Call) : Draft :=
  match start with
  | document | source => (d.apply call).toOption.getD d
  | narrowing => (d.applyNarrowing call).toOption.getD d

/-- The chain behind calls. -/
def run [Libraries] (start : Start) (calls : List Call) : Draft :=
  calls.foldl start.after start.draft

variable {start : Start} {call : Call} {calls : List Call}

/-- Every draft starts out sound. -/
theorem sound_draft [Libraries] : start.draft.Sound := by
  cases start with
  | document | narrowing => exact ⟨.inl trivial, nofun⟩
  | source =>
      have hraw : (Step.plain .raw .document .string).Sound :=
        (Operation.plain_of_isSimple rfl).sound rfl
      exact ⟨.inl ⟨rfl, hraw, trivial⟩, fun _ => ⟨_, List.mem_singleton_self _, rfl⟩⟩

/-- A call that is refused leaves the draft as it was, and any other keeps it sound. -/
theorem sound_after [Libraries] (h : d.Sound) (hcall : call.Accepted) :
    (start.after d call).Sound := by
  have hkeep : ∀ outcome : Except BuildError Draft,
      (∀ d', outcome = .ok d' → d.apply call = .ok d') → (outcome.toOption.getD d).Sound := by
    intro outcome houtcome
    cases outcome with
    | error e => exact h
    | ok d' => exact h.apply hcall (houtcome d' rfl)
  cases start with
  | document | source => exact hkeep _ fun _ hok => hok
  | narrowing => exact hkeep _ fun _ hok => apply_of_applyNarrowing hok

/-- Calls one behind the other keep a draft sound. -/
theorem sound_run [Libraries] (hcalls : ∀ call ∈ calls, call.Accepted) :
    (start.run calls).Sound := by
  have hfold : ∀ d : Draft, d.Sound → (calls.foldl start.after d).Sound := by
    induction calls with
    | nil => exact fun _ h => h
    | cons call calls ih =>
        intro d h
        exact ih (fun c hc => hcalls c (List.mem_cons_of_mem call hc)) _
          (sound_after h (hcalls call List.mem_cons_self))
  exact hfold start.draft sound_draft

/-- **Every chain that calls build is well typed, and the check finds nothing wrong with it.** The
filters of elements among the arguments are built by calls as well. -/
theorem run_checked [Libraries] (start : Start) (calls : List Call)
    (hcalls : ∀ call ∈ calls, ∀ f, call = .filterElements f → f.Built)
    (hne : (start.run calls).chain ≠ []) :
    Chain.WellTyped (start.run calls).chain ∧
      ∀ schema field, checkChain schema field (start.run calls).chain = [] := by
  have hsound : (start.run calls).Sound :=
    sound_run fun call hcall f hf => (hcalls call hcall f hf).accepted
  exact ⟨hsound.chain.wellTyped, fun schema field => checkChain_of_sound hsound.chain hne⟩

/-- A filter for secure links. -/
def secureLinks : ElementFilter := ⟨some (.and (.hasAttribute ["href"])
  (.attributeValue .starts "href" ["https"]))⟩

/-- The texts of secure links; the second default is refused. -/
def linkCalls : List Call :=
  [.default (.list []), .selectAll .css "a", .filterElements secureLinks, .text, .default .null,
    .join ", "]

theorem run_checked_links :
    Chain.names (document.run linkCalls).chain =
      ["DEFAULT", "CSS_ALL", "DOCUMENT_FILTER", "TEXT_ALL", "JOIN"] ∧
    Chain.WellTyped (document.run linkCalls).chain := by
  have hnames : Chain.names (document.run linkCalls).chain =
      ["DEFAULT", "CSS_ALL", "DOCUMENT_FILTER", "TEXT_ALL", "JOIN"] := by decide +kernel
  have happly : ElementFilter.empty.apply (.attributeValue .starts "href" ["https"]) =
      .ok secureLinks := rfl
  have hbuilt : secureLinks.Built := .call .empty (by nofun) happly
  refine ⟨hnames, (run_checked document linkCalls ?_ ?_).1⟩
  · intro call hcall f hf
    subst hf
    obtain rfl : f = secureLinks := by simpa [linkCalls] using hcall
    exact hbuilt
  · intro hempty
    rw [hempty] at hnames
    contradiction

end Start

end Draft

end Extractor
