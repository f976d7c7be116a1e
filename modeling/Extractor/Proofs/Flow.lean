import Extractor.Check.Chain
import Extractor.Proofs.Outcome

/-!
# Extractor.Proofs.Flow

Chains along which the types fit. A sound chain has at most a default in front;
then each step takes exactly what the one before gives, and its arguments are
accepted (`Flow`). The check of chains, which goes over the steps by a state
of its own, finds nothing wrong with a sound chain (`checkChain_of_sound`).
-/

namespace Extractor

open Outcome

/-! ## arguments -/

/-- What the check of arguments asks for. -/
structure Operation.Accepted [Libraries] (operation : Operation) : Prop where
  slot : ∀ template, operation = .format template → Draft.hasSlot template = true
  patterns : checkPatterns operation = .ok ()
  queries : ∀ q ∈ operation.queries, Query.check q.1 q.2 = .ok ()

/-- The check of arguments is as strict as it is stated. -/
theorem checkArguments_eq_ok [Libraries] {operation : Operation} :
    checkArguments operation = .ok () ↔ operation.Accepted := by
  have hrest : (checkPatterns operation >>= fun _ =>
      operation.queries.forM fun q => Query.check q.1 q.2) = .ok () ↔
      checkPatterns operation = .ok () ∧ ∀ q ∈ operation.queries, Query.check q.1 q.2 = .ok () := by
    rw [bind_eq_ok, forM_eq_ok]
    constructor
    · rintro ⟨_, hp, hq⟩
      exact ⟨hp, hq⟩
    · rintro ⟨hp, hq⟩
      exact ⟨(), hp, hq⟩
  constructor
  · intro h
    cases operation
    case format template =>
      by_cases hslot : Draft.hasSlot template = true
      · simp only [checkArguments, hslot] at h
        obtain ⟨hp, hq⟩ := hrest.mp h
        exact ⟨fun other hother => by cases hother; exact hslot, hp, hq⟩
      · simp [checkArguments, hslot, bind, Except.bind, throw, throwThe, MonadExceptOf.throw] at h
    all_goals
      obtain ⟨hp, hq⟩ := hrest.mp h
      exact ⟨by simp, hp, hq⟩
  · rintro ⟨hslot, hp, hq⟩
    cases operation
    case format template =>
      simp only [checkArguments, hslot template rfl]
      exact hrest.mpr ⟨hp, hq⟩
    all_goals exact hrest.mpr ⟨hp, hq⟩

/-- Except where groups count, an operation is asked for accepted patterns only. -/
theorem checkPatterns_eq_ok [Libraries] {operation : Operation}
    (hregex : ∀ p n, operation ≠ .regex p n) (hall : ∀ p, operation ≠ .regexAll p) :
    checkPatterns operation = .ok () ↔
      ∀ source ∈ operation.patterns, ∃ found, Pattern.countGroups source = .ok found := by
  have hscan : checkPatterns operation =
      operation.patterns.forM fun source => discard (Pattern.countGroups source) := by
    cases operation
    case regex p n => exact absurd rfl (hregex p n)
    case regexAll p => exact absurd rfl (hall p)
    all_goals rfl
  rw [hscan, forM_eq_ok]
  exact forall_congr' fun source => imp_congr_right fun _ => discard_eq_ok

/-! ## steps -/

/-- Whether a chain may go on behind a value of the type. Results of schemas, JSON and nothing at
all end it. -/
def ValueType.isOpen : ValueType → Bool
  | null | nested | json | any => false
  | _ => true

/-- Whether the operation hands the value over to another schema. -/
def Operation.isNested : Operation → Bool
  | nested .. => true
  | _ => false

/-- Whether the operation refers to something else that is declared, a schema or a shape. -/
def Operation.isReference : Operation → Bool
  | nested .. | jsonify .. => true
  | _ => false

theorem Operation.isReference_of_isNested {operation : Operation} (h : operation.isNested = true) :
    operation.isReference = true := by
  cases operation <;> first | rfl | contradiction

/-- A step that does something with a value at hand, with arguments that are accepted. What it takes
is open, and a reference closes the chain. -/
structure Step.Sound [Libraries] (step : Step) : Prop where
  not_default : step.isDefault = false
  takes_open : step.accepts.isOpen = true
  reference_closes : step.operation.isReference = true → step.returns.isOpen = false
  accepted : step.operation.Accepted

namespace Chain

/-- Sound steps from a type on, each of which takes what the one before gives. -/
def Flow [Libraries] : ValueType → Chain → Prop
  | _, [] => True
  | type, step :: rest => step.accepts = type ∧ step.Sound ∧ Flow step.returns rest

/-- The type behind the steps of a flow. -/
def endType (type : ValueType) (chain : Chain) : ValueType :=
  match chain.getLast? with
  | some step => step.returns
  | none => type

/-- A flow from the document on, with at most a default in front. -/
def Sound [Libraries] (chain : Chain) : Prop :=
  Flow .document chain ∨
    ∃ value steps, chain = .plain (.default value) .any .any :: steps ∧ Flow .document steps

variable {type : ValueType} {chain steps : Chain} {step next : Step}

theorem endType_cons : endType type (step :: steps) = endType step.returns steps := by
  cases steps with
  | nil => rfl
  | cons next rest =>
      rw [endType, endType, List.getLast?_cons_cons,
        List.getLast?_eq_some_getLast (List.cons_ne_nil next rest)]

/-- A flow goes on with a sound step that takes what it ends with. -/
theorem Flow.append [Libraries] (h : Flow type steps) (haccepts : step.accepts = endType type steps)
    (hstep : step.Sound) : Flow type (steps ++ [step]) := by
  induction steps generalizing type with
  | nil => exact ⟨haccepts, hstep, trivial⟩
  | cons first rest ih =>
      rw [endType_cons] at haccepts
      exact ⟨h.1, h.2.1, ih h.2.2 haccepts⟩

/-- No step of a flow is a default. -/
theorem Flow.filter [Libraries] (h : Flow type steps) : steps.filter (!·.isDefault) = steps := by
  induction steps generalizing type with
  | nil => rfl
  | cons first rest ih => rw [List.filter_cons_of_pos (by simp [h.2.1.not_default]), ih h.2.2]

/-- The cursor of a chain stands where its flow ends, with or without a default in front. -/
theorem Flow.cursor [Libraries] (h : Flow .document steps) :
    cursor steps = endType .document steps := by
  rw [Chain.cursor, h.filter]
  rfl

theorem Flow.cursor_default [Libraries] {value : Literal} (h : Flow .document steps) :
    Chain.cursor (.plain (.default value) .any .any :: steps) = endType .document steps := by
  have hdefault : (Step.plain (.default value) .any .any).isDefault = true := rfl
  rw [Chain.cursor, List.filter_cons_of_neg (by simp [hdefault]), h.filter]
  rfl

/-- A sound step that takes the type at the end may be added to a sound chain. -/
theorem Sound.append [Libraries] (h : Sound chain) (haccepts : step.accepts = cursor chain)
    (hstep : step.Sound) : Sound (chain ++ [step]) := by
  rcases h with h | ⟨value, steps, rfl, h⟩
  · rw [h.cursor] at haccepts
    exact .inl (h.append haccepts hstep)
  · rw [h.cursor_default] at haccepts
    exact .inr ⟨value, steps ++ [step], rfl, h.append haccepts hstep⟩

/-- Behind a step that has a successor the chain is open. -/
theorem Flow.returns_isOpen [Libraries] {rest : Chain} (h : Flow type (step :: next :: rest)) :
    step.returns.isOpen = true := by
  rw [← h.2.2.1]
  exact h.2.2.2.1.takes_open

/-- A step with others behind it is no reference. -/
theorem Flow.not_isReference [Libraries] {rest : Chain} (h : Flow type (step :: next :: rest)) :
    step.operation.isReference = false := by
  by_contra href
  have hclosed := h.2.1.reference_closes (by simpa using href)
  rw [h.returns_isOpen] at hclosed
  contradiction

end Chain

/-! ## the check -/

variable {type : ValueType} {chain steps : Chain} {step : Step} {schema field : String}
  {place : Nat}

/-- A sound step that takes the type so far is in order. -/
theorem ChainState.causes_of_sound [Libraries] (haccepts : step.accepts = type)
    (hstep : step.Sound) :
    ChainState.causes ⟨type, none⟩ place step = [] := by
  have hany : step.accepts ≠ .any := by
    intro he
    have hopen := hstep.takes_open
    rw [he] at hopen
    contradiction
  have hfits : ChainState.fits ⟨type, none⟩ step = true := by
    subst haccepts
    simp [ChainState.fits, ValueType.accepts, hany]
  simp [ChainState.causes, hstep.not_default, hfits, checkArguments_eq_ok.mpr hstep.accepted]

/-- Behind a step that refers to nothing the state is its type. -/
theorem ChainState.advance_of_not_isReference (hdefault : step.isDefault = false)
    (href : step.operation.isReference = false) :
    ChainState.advance ⟨type, none⟩ place step = ⟨step.returns, none⟩ := by
  obtain ⟨operation, accepts, returns, slot⟩ := step
  cases operation <;> simp_all [ChainState.advance, Operation.isReference]

/-- **The check finds nothing wrong with a flow.** -/
theorem checkSteps_of_flow [Libraries] (h : Chain.Flow type steps) :
    checkSteps schema field ⟨type, none⟩ place steps = [] := by
  induction steps generalizing type place with
  | nil => rfl
  | cons step rest ih =>
      rw [checkSteps, ChainState.causes_of_sound h.1 h.2.1]
      cases rest with
      | nil => rfl
      | cons next rest =>
          rw [ChainState.advance_of_not_isReference h.2.1.not_default h.not_isReference,
            ih h.2.2]
          rfl

/-- The check finds nothing wrong with a sound chain that has a step. -/
theorem checkChain_of_sound [Libraries] (h : Chain.Sound chain) (hne : chain ≠ []) :
    checkChain schema field chain = [] := by
  rw [checkChain, if_neg (by simpa using hne)]
  rcases h with h | ⟨value, steps, rfl, h⟩
  · exact checkSteps_of_flow h
  · have hcauses : ChainState.causes .start 0 (.plain (.default value) .any .any) = [] := rfl
    rw [checkSteps, hcauses]
    exact checkSteps_of_flow h

/-! ## positions -/

/-- How the steps of a chain stand to each other, by their places. -/
structure Chain.WellTyped (chain : Chain) : Prop where
  /-- A default stands in front, and so at most once. -/
  default_first : ∀ i step, chain[i]? = some step → step.isDefault = true → i = 0
  /-- The first step that is no default takes the document. -/
  takes_document : ∀ step, chain.find? (!·.isDefault) = some step → step.accepts = .document
  /-- A later step takes exactly what the one before it gives. -/
  linked : ∀ i step next, chain[i]? = some step → chain[i + 1]? = some next →
    step.isDefault = false → next.accepts = step.returns
  /-- Nothing follows a step that hands over to another schema. -/
  nested_last : ∀ i step, chain[i]? = some step → step.operation.isNested = true →
    chain.length = i + 1
  /-- Nothing follows a step that gives no known type. -/
  any_last : ∀ i step, chain[i]? = some step → step.isDefault = false → step.returns = .any →
    chain.length = i + 1

namespace Chain

variable [Libraries]

variable {i : Nat} {next : Step}

theorem Flow.sound_of_mem (h : Flow type steps) (hmem : step ∈ steps) : step.Sound := by
  induction steps generalizing type with
  | nil => simp at hmem
  | cons first rest ih =>
      rcases List.mem_cons.mp hmem with rfl | hmem
      · exact h.2.1
      · exact ih h.2.2 hmem

/-- Each step takes what the one before it returns. -/
theorem Flow.accepts_eq_returns (h : Flow type steps) (hstep : steps[i]? = some step)
    (hnext : steps[i + 1]? = some next) : next.accepts = step.returns := by
  induction steps generalizing type i with
  | nil => simp at hstep
  | cons first rest ih =>
      cases i with
      | zero =>
          cases rest with
          | nil => simp at hnext
          | cons second rest =>
              simp only [List.getElem?_cons_zero, List.getElem?_cons_succ, Option.some.injEq,
                Nat.zero_add] at hstep hnext
              subst hstep hnext
              exact h.2.2.1
      | succ i => exact ih h.2.2 hstep hnext

/-- What gives a closed type is last. -/
theorem Flow.length_of_closed (h : Flow type steps) (hstep : steps[i]? = some step)
    (hclosed : step.returns.isOpen = false) : steps.length = i + 1 := by
  obtain ⟨hlt, -⟩ := List.getElem?_eq_some_iff.mp hstep
  by_contra hlong
  have hbound : i + 1 < steps.length := by omega
  have hnext := List.getElem?_eq_getElem hbound
  have hopen := (h.sound_of_mem (List.getElem_mem hbound)).takes_open
  rw [h.accepts_eq_returns hstep hnext, hclosed] at hopen
  contradiction

/-- What hands over to a schema is the last step. -/
theorem Flow.length_of_isNested (h : Flow type steps) (hstep : steps[i]? = some step)
    (hnested : step.operation.isNested = true) : steps.length = i + 1 := by
  have hsound := h.sound_of_mem (List.mem_of_getElem? hstep)
  exact h.length_of_closed hstep
    (hsound.reference_closes (Operation.isReference_of_isNested hnested))

/-- The first step takes what the flow starts from. -/
theorem Flow.accepts_of_find? (h : Flow type steps)
    (hfind : steps.find? (!·.isDefault) = some step) : step.accepts = type := by
  cases steps with
  | nil => simp at hfind
  | cons first rest =>
      rw [List.find?_cons_of_pos (by simp [h.2.1.not_default]), Option.some.injEq] at hfind
      exact hfind ▸ h.1

/-- A flow from the document on is well typed. -/
theorem Flow.wellTyped (h : Flow .document steps) : WellTyped steps where
  default_first i step hstep hdefault := by
    rw [(h.sound_of_mem (List.mem_of_getElem? hstep)).not_default] at hdefault
    contradiction
  takes_document step hfind := h.accepts_of_find? hfind
  linked i step next hstep hnext _ := h.accepts_eq_returns hstep hnext
  nested_last i step hstep hnested := h.length_of_isNested hstep hnested
  any_last i step hstep _ hany := h.length_of_closed hstep (by rw [hany]; rfl)

/-- A default in front moves all places by one and is itself no part of the flow. -/
theorem Flow.wellTyped_default {value : Literal} (h : Flow .document steps) :
    WellTyped (.plain (.default value) .any .any :: steps) where
  default_first i step hstep hdefault := by
    cases i with
    | zero => rfl
    | succ i =>
        rw [List.getElem?_cons_succ] at hstep
        rw [(h.sound_of_mem (List.mem_of_getElem? hstep)).not_default] at hdefault
        contradiction
  takes_document step hfind := by
    rw [List.find?_cons_of_neg (by simp [Step.plain, Step.isDefault, Operation.isDefault])] at hfind
    exact h.accepts_of_find? hfind
  linked i step next hstep hnext hdefault := by
    cases i with
    | zero =>
        rw [List.getElem?_cons_zero, Option.some.injEq] at hstep
        subst hstep
        contradiction
    | succ i => exact h.accepts_eq_returns hstep hnext
  nested_last i step hstep hnested := by
    cases i with
    | zero =>
        rw [List.getElem?_cons_zero, Option.some.injEq] at hstep
        subst hstep
        contradiction
    | succ i => rw [List.length_cons, h.length_of_isNested hstep hnested]
  any_last i step hstep hdefault hany := by
    cases i with
    | zero =>
        rw [List.getElem?_cons_zero, Option.some.injEq] at hstep
        subst hstep
        contradiction
    | succ i => rw [List.length_cons, h.length_of_closed hstep (by rw [hany]; rfl)]

theorem Sound.wellTyped (h : Sound chain) : WellTyped chain := by
  rcases h with h | ⟨value, steps, rfl, h⟩
  · exact h.wellTyped
  · exact h.wellTyped_default

end Chain

end Extractor
