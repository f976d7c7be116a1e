import Extractor.Proofs.Assembly

/-!
# Extractor.Proofs.Lowering

What lowering keeps of a chain. A function holds the nodes of its chain in order,
each with its number, and the literal of the default apart from them. So the chain
can be read off the function again (`FunctionBody.restore`): nothing is lost but the
two types that are written on the default itself, which nobody reads.
-/

namespace Extractor

/-! ## steps without slots -/

namespace Step

/-- The step as it was before it got a slot. -/
def clear (step : Step) : Step := { step with slot := none }

/-- The default of a literal as it is put in front of a chain: it takes and gives anything. -/
def ofDefault (value : Literal) : Step := .plain (.default value) .any .any

/-- A default with the types that defaults are put in front with; other steps stay. -/
def untyped (step : Step) : Step :=
  if step.isDefault then { step with accepts := .any, returns := .any } else step

variable {step : Step}

theorem clear_of_slot (h : step.slot = none) : step.clear = step := by
  rw [clear, ← h]

/-- Steps that are no default stay as they are, and so does one with the usual types. -/
theorem untyped_of_not_default (h : step.isDefault = false) : step.untyped = step := by
  simp [untyped, h]

theorem untyped_of_any (h : step.isDefault = true → step.accepts = .any ∧ step.returns = .any) :
    step.untyped = step := by
  obtain ⟨operation, accepts, returns, slot⟩ := step
  rw [untyped]
  split
  · next hdefault =>
      obtain ⟨rfl, rfl⟩ := h hdefault
      rfl
  · rfl

/-- A default that has no slot is that of its literal, but for its types. -/
theorem exists_untyped_eq (hdefault : step.isDefault = true) (hslot : step.slot = none) :
    ∃ value, step.operation = .default value ∧ step.untyped = ofDefault value := by
  obtain ⟨operation, accepts, returns, slot⟩ := step
  cases operation <;> first
    | contradiction
    | exact ⟨_, rfl, by simp_all [untyped, ofDefault, plain]⟩

end Step

namespace Chain

/-- A chain before it is lowered: no step has a slot, and only the first may be a default. -/
structure Unlowered (chain : Chain) : Prop where
  no_slot : ∀ step ∈ chain, step.slot = none
  default_first : ∀ step ∈ chain.tail, step.isDefault = false

/-- A default, if there is one, takes and gives anything. -/
def DefaultsAny (chain : Chain) : Prop :=
  ∀ step ∈ chain, step.isDefault = true → step.accepts = .any ∧ step.returns = .any

/-- The chain with the usual types on its default. -/
def untyped (chain : Chain) : Chain := chain.map Step.untyped

variable {chain : Chain}

theorem DefaultsAny.untyped_eq (h : DefaultsAny chain) : untyped chain = chain :=
  (List.map_congr_left fun step hstep => Step.untyped_of_any (h step hstep)).trans
    (List.map_id chain)

/-- A chain consists of its default, if there is one, and of its nodes. -/
theorem Unlowered.untyped_eq (h : Unlowered chain) :
    untyped chain = ((default? chain).map Step.ofDefault).toList ++ nodes chain := by
  cases chain with
  | nil => rfl
  | cons first rest =>
      have hrest : ∀ step ∈ rest, step.isDefault = false := h.default_first
      have hkeep : rest.map Step.untyped = rest :=
        (List.map_congr_left fun step hstep => Step.untyped_of_not_default (hrest step hstep)).trans
          (List.map_id rest)
      have hnodes : nodes rest = rest :=
        List.filter_eq_self.mpr fun step hstep => by simp [hrest step hstep]
      rw [untyped, List.map_cons, hkeep]
      cases hfirst : first.isDefault with
      | false =>
          have hdefault : default? (first :: rest) = none := by
            rw [default?]
            split <;> simp_all [Step.isDefault, Operation.isDefault]
          rw [hdefault, nodes, List.filter_cons_of_pos (by simp [hfirst]), ← nodes, hnodes,
            Step.untyped_of_not_default hfirst]
          rfl
      | true =>
          obtain ⟨value, hvalue, huntyped⟩ :=
            Step.exists_untyped_eq hfirst (h.no_slot first List.mem_cons_self)
          have hdefault : default? (first :: rest) = some value := by simp [default?, hvalue]
          rw [hdefault, nodes, List.filter_cons_of_neg (by simp [hfirst]), ← nodes, hnodes,
            huntyped]
          rfl

end Chain

/-! ## numbering -/

variable {steps : List Step} {count : Nat}

theorem numberSteps_length : (numberSteps count steps).length = steps.length := by
  simp [numberSteps]

/-- Every step gets its place and the number of all steps. -/
theorem numberSteps_getElem? (i : Nat) : (numberSteps count steps)[i]? =
    steps[i]?.map fun step => { step with slot := some ⟨i, count, step.accepts⟩ } := by
  simp [numberSteps, Option.map_map, Function.comp_def]

/-- Clearing the slots undoes the numbering. -/
theorem numberSteps_map_clear (h : ∀ step ∈ steps, step.slot = none) :
    (numberSteps count steps).map Step.clear = steps := by
  apply List.ext_getElem?
  intro i
  rw [List.getElem?_map, numberSteps_getElem?, Option.map_map]
  cases hstep : steps[i]? with
  | none => rfl
  | some step => exact congrArg some (Step.clear_of_slot (h step (List.mem_of_getElem? hstep)))

theorem Chain.Unlowered.nodes_no_slot {chain : Chain} (h : chain.Unlowered) :
    ∀ step ∈ chain.nodes, step.slot = none :=
  fun step hstep => h.no_slot step (List.mem_of_mem_filter hstep)

/-! ## restoring -/

/-- The chain that a function shows: its nodes without their slots, behind its default. -/
def FunctionBody.restore (body : FunctionBody) : Chain :=
  (body.fallback.map Step.ofDefault).toList ++ body.nodes.map Step.clear

variable {chain : Chain}

/-- **The chain comes back from its function.** -/
theorem restore_lowerChain (h : chain.Unlowered) (returns : Bool) :
    (lowerChain chain returns).restore = chain.untyped := by
  rw [FunctionBody.restore, lowerChain_nodes, numberSteps_map_clear h.nodes_no_slot, h.untyped_eq]
  rfl

/-- A function holds the numbered nodes and an ending. -/
theorem lowerChain_steps (returns : Bool) : (lowerChain chain returns).steps =
    numberSteps chain.nodes.length chain.nodes ++
      [endingStep returns chain.cursor chain.nodes.length] :=
  rfl

theorem lowerChain_getElem? (returns : Bool) {i : Nat} {step : Step}
    (h : chain.nodes[i]? = some step) : (lowerChain chain returns).steps[i]? =
      some { step with slot := some ⟨i, chain.nodes.length, step.accepts⟩ } := by
  obtain ⟨hlt, -⟩ := List.getElem?_eq_some_iff.mp h
  rw [lowerChain_steps, List.getElem?_append_left (by rwa [numberSteps_length]),
    numberSteps_getElem?, h]
  rfl

theorem lowerChain_terminal (returns : Bool) :
    (lowerChain chain returns).steps[chain.nodes.length]? =
      some (endingStep returns chain.cursor chain.nodes.length) := by
  rw [lowerChain_steps, List.getElem?_append_right (by rw [numberSteps_length]),
    numberSteps_length, Nat.sub_self]
  rfl

/-- The ending tells whether there is a result. -/
theorem endingStep_injective {returns returns' : Bool} {type type' : ValueType} {count count' : Nat}
    (h : endingStep returns type count = endingStep returns' type' count') :
    returns = returns' := by
  cases returns <;> cases returns' <;> simp_all [endingStep]

/-- A function may give null exactly if that is the default of its chain. -/
theorem lowerChain_nullable (returns : Bool) :
    (lowerChain chain returns).nullable = true ↔ chain.default? = some .null := by
  rw [lowerChain]
  cases chain.default? with
  | none => simp
  | some value => cases value <;> simp [Literal.isNull]

/-- The function holds the nodes of the chain in order, numbered and counted, with an ending behind
them, and tells the type of the chain and whether its default is null. -/
structure FunctionBody.Numbers (body : FunctionBody) (chain : Chain) (returns : Bool) : Prop where
  length : body.steps.length = chain.nodes.length + 1
  node : ∀ (i : Nat) (step : Step), chain.nodes[i]? = some step →
    body.steps[i]? = some { step with slot := some ⟨i, chain.nodes.length, step.accepts⟩ }
  /-- The ending has the number of the last node, or zero where there is none. -/
  ending : ∃ last, body.steps[chain.nodes.length]? = some last ∧
    last.operation = (if returns then .result else .noResult) ∧
    last.slot = some ⟨chain.nodes.length - 1, chain.nodes.length,
      if returns then chain.cursor else .null⟩
  returns_eq : body.returns = chain.cursor
  nullable_iff : body.nullable = true ↔ chain.default? = some .null

/-- A function numbers the nodes of its chain. -/
theorem lowerChain_numbers (chain : Chain) (returns : Bool) :
    (lowerChain chain returns).Numbers chain returns where
  length := by rw [lowerChain_steps, List.length_append, numberSteps_length]; rfl
  node := fun _ _ => lowerChain_getElem? returns
  ending := ⟨_, lowerChain_terminal returns, by cases returns <;> rfl, by cases returns <;> rfl⟩
  returns_eq := rfl
  nullable_iff := lowerChain_nullable returns

/-- **Lowering is lossless but for the types of a default.** The function numbers the nodes, and
clearing the slots and putting the default back in front restores the chain, where the default comes
back with its usual types. So chains with these are restored as they were, and functions that are
equal come from chains that are equal up to the types of their defaults. -/
theorem lowerChain_lossless (chain : Chain) (returns : Bool) (h : chain.Unlowered) :
    (lowerChain chain returns).Numbers chain returns ∧
    (lowerChain chain returns).restore = chain.untyped ∧
    (chain.DefaultsAny → (lowerChain chain returns).restore = chain) ∧
    ∀ (chain' : Chain) (returns' : Bool), chain'.Unlowered →
      lowerChain chain' returns' = lowerChain chain returns →
      returns' = returns ∧ chain'.untyped = chain.untyped ∧
        (chain'.DefaultsAny → chain.DefaultsAny → chain' = chain) := by
  have hrestore := restore_lowerChain h returns
  refine ⟨lowerChain_numbers chain returns, hrestore, fun hany => hrestore.trans hany.untyped_eq,
    fun chain' returns' h' heq => ?_⟩
  have huntyped : chain'.untyped = chain.untyped := by
    rw [← restore_lowerChain h' returns', ← hrestore, heq]
  refine ⟨?_, huntyped, fun hany' hany => ?_⟩
  · have hsteps := congrArg FunctionBody.steps heq
    rw [lowerChain_steps, lowerChain_steps] at hsteps
    exact endingStep_injective (by simpa using (List.append_inj' hsteps rfl).2)
  · rw [← hany'.untyped_eq, huntyped, hany.untyped_eq]

/-- A price that may be missing. -/
def optionalPrice : Chain :=
  [.ofDefault .null, .plain (.select .css ".price") .document .document,
    .plain .text .document .string, .plain .toInt .string .int]

/-- A chain with a default that comes back from its function. -/
theorem lowerChain_lossless_optionalPrice :
    optionalPrice.Unlowered ∧ optionalPrice.DefaultsAny ∧
    (lowerChain optionalPrice true).restore = optionalPrice ∧
    (lowerChain optionalPrice true).steps.map Step.slot =
      [some ⟨0, 3, .document⟩, some ⟨1, 3, .document⟩, some ⟨2, 3, .string⟩,
        some ⟨2, 3, .int⟩] := by
  have h : optionalPrice.Unlowered := ⟨by decide, by decide⟩
  have hany : optionalPrice.DefaultsAny := by unfold Chain.DefaultsAny; decide
  exact ⟨h, hany, (lowerChain_lossless optionalPrice true h).2.2.1 hany, by decide⟩

/-- A default with types of its own. -/
def typedDefault : Chain := [⟨.default .null, .string, .int, none⟩]

/-- The types that are written on a default are lost: the function is the same as without them, so
it does not tell which of the two chains it was made from. -/
theorem lowerChain_drops_default_types :
    typedDefault.Unlowered ∧ Chain.Unlowered [.ofDefault .null] ∧
    typedDefault ≠ [.ofDefault .null] ∧
    lowerChain typedDefault true = lowerChain [.ofDefault .null] true := by
  refine ⟨⟨by decide, by decide⟩, ⟨by decide, by decide⟩, ?_, rfl⟩
  intro heq
  exact absurd (congrArg (List.map Step.accepts) heq) (by decide)

end Extractor
