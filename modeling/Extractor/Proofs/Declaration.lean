import Extractor.Declaration.Module
import Extractor.Proofs.Draft
import Mathlib.Data.List.Nodup

/-!
# Extractor.Proofs.Declaration

What a declaration that is read guarantees. Chains and filters are built by
calls while they are read, so every reader passes on what the calls guarantee:
filters are accepted (`argumentReaders`), chains are sound
(`readChain_sound`), and a parsed module holds sound chains under distinct names
(`Module.parse_declared`).
-/

namespace Extractor

open Outcome

namespace Declaration

/-! ## readers -/

section Yields

variable {σ ε α β : Type} {I : σ → Prop} {P : α → Prop} {Q : β → Prop}

/-- No condition on the state. -/
def Always (_ : σ) : Prop := True

/-- Started in a state with the first property, the reader succeeds with results that have the
second one, if at all. -/
def Yields (I : σ → Prop) (P : α → Prop) (x : StateT σ (Except ε) α) : Prop :=
  ∀ s, I s → ∀ a t, x s = .ok (a, t) → P a

/-- What reads nothing yields its result. -/
theorem Yields.pure {a : α} (h : P a) : Yields I P (pure a : StateT σ (Except ε) α) := by
  intro s _ b t hb
  cases hb
  exact h

/-- Nothing is asked of a reader that fails. -/
theorem Yields.fail {e : ε} : Yields I P (throw e : StateT σ (Except ε) α) := by
  intro s _ b t hb
  cases hb

/-- What the first part yields is known when the second one starts. -/
theorem Yields.bind {x : StateT σ (Except ε) β} {f : β → StateT σ (Except ε) α}
    (hx : Yields I Q x) (hf : ∀ b, Q b → Yields Always P (f b)) : Yields I P (x >>= f) := by
  intro s hs a t h
  have hrun : (x s >>= fun r => f r.1 r.2) = .ok (a, t) := h
  rw [bind_eq_ok] at hrun
  obtain ⟨⟨b, u⟩, hb, ha⟩ := hrun
  exact hf b (hx s hs b u hb) u trivial a t ha

/-- The first part does not matter when the second one yields the property anyway. -/
theorem Yields.after {x : StateT σ (Except ε) β} {f : β → StateT σ (Except ε) α}
    (hf : ∀ b, Yields Always P (f b)) : Yields I P (x >>= f) :=
  .bind (Q := Always) (fun _ _ _ _ _ => trivial) fun b _ => hf b

end Yields

section Reading

variable {α : Type} {I : Lexed → Prop} {P : α → Prop} {expected : Expectation} {fault : Fault}
  {p : Position}

theorem yields_unexpected : Yields I P (Reading.unexpected expected) := .after fun _ => .fail

theorem yields_invalid : Yields I P (Reading.invalid fault p) := .fail

theorem yields_invalid_bind {β : Type} {f : β → Reading α} :
    Yields I P (Reading.invalid fault p >>= f) :=
  .bind (Q := fun _ => False) yields_invalid fun _ h => h.elim

/-- A call that is made while reading yields what its result has. -/
theorem yields_calling {result : Except CallError α} (h : ∀ value, result = .ok value → P value) :
    Yields I P (Reading.calling p result) := by
  cases result with
  | ok value => exact .pure (h value rfl)
  | error e => exact .fail

end Reading

/-! ## arguments -/

/-- An argument that is no filter of elements, or one that is accepted. -/
def Argument.Accepted [Libraries] (value : Argument) : Prop :=
  ∀ f, value = .elementFilter f → f.Accepted

/-- Arguments all of which are accepted. -/
structure Arguments.Accepted [Libraries] (args : Arguments) : Prop where
  positional : ∀ value, some value ∈ args.positional → value.Accepted
  keywords : ∀ entry ∈ args.keywords, entry.2.Accepted

theorem Arguments.accepted_none [Libraries] : Arguments.none.Accepted :=
  ⟨by simp [none], by simp [none]⟩

namespace Taking

variable [Libraries]

/-- An argument that is taken out of accepted ones is accepted, whichever way it is taken. -/
theorem optional_accepted (index : Nat) (keyword : String) :
    Yields Arguments.Accepted (fun value? => ∀ value, value? = some value → value.Accepted)
      (optional index keyword) := by
  intro args hargs value? rest h value hvalue
  subst hvalue
  unfold optional at h
  split at h
  · next found hfound =>
      cases h
      obtain ⟨front, back, hkeywords, -⟩ := List.lookup_eq_some_iff.mp hfound
      exact hargs.keywords (keyword, value) (by simp [hkeywords])
  · split at h
    · next found hfound =>
        cases h
        exact hargs.positional value (List.mem_of_getElem? hfound)
    · cases h

theorem required_accepted (index : Nat) (keyword : String) :
    Yields Arguments.Accepted Argument.Accepted (required index keyword) := by
  refine .bind (optional_accepted index keyword) fun value? hvalue => ?_
  split
  · next value => exact .pure (hvalue value rfl)
  · exact .fail

theorem elementFilter_accepted (index : Nat) (keyword : String) :
    Yields Arguments.Accepted ElementFilter.Accepted (elementFilter index keyword) := by
  refine .bind (required_accepted index keyword) fun value hvalue => ?_
  split
  · next f => exact .pure (hvalue f rfl)
  · exact .fail

end Taking

/-! ## calls -/

/-- The filter of a call is accepted if the arguments are. -/
theorem filterCall_accepted [Libraries] : Yields Arguments.Accepted Call.Accepted filterCall := by
  refine .bind (Taking.required_accepted 0 "f") fun value hvalue => ?_
  split
  · exact .pure nofun
  · next f => exact .pure fun g hg => Call.filterElements.inj hg ▸ hvalue f rfl
  · exact .fail

theorem stripCall_plain (kind : Stripping) :
    Yields Always (fun call => ∀ f, call ≠ .filterElements f) (stripCall kind) := by
  cases kind
  all_goals exact .after fun _ => .pure nofun

/-- No other method takes a filter of elements. -/
theorem chainCall?_plain [Libraries] {method : String} {take : Taking Call}
    (hmethod : method ≠ "filter") (h : chainCall? method = some take) :
    Yields Arguments.Accepted (fun call => ∀ f, call ≠ .filterElements f) take := by
  unfold chainCall? at h
  split at h
  -- the methods that strip come last; they are found by their word
  on_goal -1 =>
    obtain ⟨kind, -, rfl⟩ := Option.map_eq_some_iff.mp h
    exact fun s _ => stripCall_plain kind s trivial
  all_goals
    first
    | exact absurd rfl hmethod
    | obtain rfl := Option.some.inj h
      repeat refine .after fun _ => ?_
      exact .pure nofun

/-- Every call of a chain is accepted if its arguments are. -/
theorem chainCall?_accepted [Libraries] {method : String} {take : Taking Call}
    (h : chainCall? method = some take) : Yields Arguments.Accepted Call.Accepted take := by
  by_cases hmethod : method = "filter"
  · subst hmethod
    have hfilter : chainCall? "filter" = some filterCall := rfl
    rw [hfilter, Option.some.injEq] at h
    exact h ▸ filterCall_accepted
  · intro args hargs call rest htake f hf
    exact absurd hf (chainCall?_plain hmethod h args hargs call rest htake f)

/-- Every call of an element filter has accepted operands if its arguments are accepted. -/
theorem elementFilterCall?_accepted [Libraries] {method : String} {take : Taking ElementFilter.Call}
    (h : elementFilterCall? method = some take) :
    Yields Arguments.Accepted
      (fun call => ∀ other, call.operand? = some other → other.Accepted) take := by
  unfold elementFilterCall? at h
  split at h
  -- the tests of attributes come last; they are found by their word
  on_goal -1 =>
    obtain ⟨test, -, rfl⟩ := Option.map_eq_some_iff.mp h
    exact .after fun _ => .after fun _ => .pure nofun
  -- conjunction, disjunction and negation take another filter
  case h_9 | h_10 | h_11 =>
    obtain rfl := Option.some.inj h
    exact .bind (Taking.elementFilter_accepted 0 "other") fun other hother =>
      .pure fun g hg => Option.some.inj hg ▸ hother
  all_goals
    obtain rfl := Option.some.inj h
    repeat refine .after fun _ => ?_
    exact .pure nofun

/-- A call that is performed has taken its arguments and was not refused. -/
theorem perform_eq_ok {α β : Type} {method : String} {args : Arguments} {take : Taking α}
    {apply : α → Except BuildError β} {result : β}
    (h : perform method args take apply = .ok result) :
    ∃ call rest, take args = .ok (call, rest) ∧ apply call = .ok result := by
  unfold perform at h
  split at h
  · simp at h
  · next call rest htake =>
      split at h
      · simp at h
      · next value happly =>
          split at h
          · simp at h
          · exact ⟨call, rest, htake, pure_eq_ok.mp h ▸ happly⟩

/-- A call keeps an element filter accepted. -/
theorem callElementFilter_accepted [Libraries] {f g : ElementFilter} {method : String}
    {args : Arguments} (hf : f.Accepted) (hargs : args.Accepted)
    (h : callElementFilter f method args = .ok g) :
    g.Accepted := by
  unfold callElementFilter at h
  split at h
  · next take htake =>
      obtain ⟨call, rest, hcall, happly⟩ := perform_eq_ok h
      exact hf.apply (elementFilterCall?_accepted htake args hargs call rest hcall) happly
  · simp at h

/-- A call on a chain that is being declared is a call on its draft, be it narrowing or not. -/
theorem OpenChain.call_eq_ok [Libraries] {chain next : OpenChain} {method : String}
    {args : Arguments} (h : chain.call method args = .ok next) :
    ∃ d d' take call rest, (chain = .ordinary d ∨ chain = .narrowing d) ∧
      chainCall? method = some take ∧ take args = .ok (call, rest) ∧ d.apply call = .ok d' ∧
      (next = .ordinary d' ∨ next = .narrowing d' ∨ next = .closed d'.chain) := by
  unfold OpenChain.call at h
  split at h
  · simp at h
  · next d =>
      split at h
      · simp at h
      · next take htake =>
          obtain ⟨d', hperform, h⟩ := bind_eq_ok.mp h
          obtain ⟨call, rest, hcall, happly⟩ := perform_eq_ok hperform
          obtain rfl := pure_eq_ok.mp h
          refine ⟨d, d', take, call, rest, .inl rfl, htake, hcall, happly, ?_⟩
          split
          · exact .inr (.inr rfl)
          · exact .inl rfl
  · next d =>
      split at h
      · next take _ htake =>
          obtain ⟨d', hperform, h⟩ := bind_eq_ok.mp h
          obtain ⟨call, rest, hcall, happly⟩ := perform_eq_ok hperform
          obtain rfl := pure_eq_ok.mp h
          refine ⟨d, d', take, call, rest, .inr rfl, htake, hcall,
            Draft.apply_of_applyNarrowing happly, ?_⟩
          split
          · exact .inr (.inr rfl)
          · exact .inr (.inl rfl)
      · simp at h

/-- A chain that is being declared and is sound so far. -/
def OpenChain.Sound [Libraries] : OpenChain → Prop
  | ordinary d | narrowing d => d.Sound
  | closed chain => Chain.Sound chain

/-- A call keeps an open chain sound. -/
theorem OpenChain.Sound.call [Libraries] {chain next : OpenChain} {method : String}
    {args : Arguments} (h : chain.Sound) (hargs : args.Accepted)
    (hcall : chain.call method args = .ok next) :
    next.Sound := by
  obtain ⟨d, d', take, call, rest, hchain, htake, htaken, happly, hnext⟩ := call_eq_ok hcall
  have hd : d.Sound := by rcases hchain with rfl | rfl <;> exact h
  have hd' : d'.Sound := hd.apply (chainCall?_accepted htake args hargs call rest htaken) happly
  rcases hnext with rfl | rfl | rfl
  · exact hd'
  · exact hd'
  · exact hd'.chain

/-! ## reading chains -/

/-- An accepted value keeps the arguments accepted, with or without a name. -/
theorem addPositional_accepted [Libraries] {args : Arguments} {value : Argument} {p : Position}
    (hargs : args.Accepted) (hvalue : value.Accepted) :
    Yields Always Arguments.Accepted (addPositional args value p) := by
  unfold addPositional
  split
  · refine .pure ⟨fun other hother => ?_, hargs.keywords⟩
    rcases List.mem_append.mp hother with hother | hother
    · exact hargs.positional other hother
    · exact Option.some.inj (List.mem_singleton.mp hother) ▸ hvalue
  · exact .fail

theorem addKeyword_accepted [Libraries] {args : Arguments} {name : String} {value : Argument}
    {p : Position} (hargs : args.Accepted) (hvalue : value.Accepted) :
    Yields Always Arguments.Accepted (addKeyword args name value p) := by
  unfold addKeyword
  split
  · exact .fail
  · refine .pure ⟨hargs.positional, fun entry hentry => ?_⟩
    rcases List.mem_append.mp hentry with hentry | hentry
    · exact hargs.keywords entry hentry
    · exact List.mem_singleton.mp hentry ▸ hvalue

/-- What the readers of arguments yield, for a bound on their steps. -/
structure ArgumentReaders [Libraries] (fuel : Nat) : Prop where
  arguments : ∀ {args : Arguments}, args.Accepted →
    Yields Always Arguments.Accepted (readArguments fuel args)
  argument : ∀ {args : Arguments} {p : Position}, args.Accepted →
    Yields Always Arguments.Accepted (readArgument fuel args p)
  value : Yields Always Argument.Accepted (readValue fuel)
  word : ∀ {name : String}, Yields Always Argument.Accepted (readWord fuel name)
  elementFilter : ∀ {f : ElementFilter}, f.Accepted →
    Yields Always ElementFilter.Accepted (readElementFilter fuel f)

namespace ArgumentReaders

variable [Libraries]

variable {fuel : Nat}

/-- Without fuel the readers of arguments fail. -/
theorem zero : ArgumentReaders 0 := by
  constructor
  all_goals
    intros
    exact yields_unexpected

/-- The arguments of a call, one step of fuel further. -/
theorem arguments_succ (ih : ArgumentReaders fuel) {args : Arguments} (hargs : args.Accepted) :
    Yields Always Arguments.Accepted (readArguments (fuel + 1) args) := by
  unfold readArguments
  refine .after fun closes => ?_
  split
  · exact .after fun _ => .pure hargs
  · refine .after fun p => .bind (ih.argument hargs) fun args hargs => .after fun more => ?_
    split
    · exact ih.arguments hargs
    · exact .after fun _ => .pure hargs

/-- One argument, with or without its name. -/
theorem argument_succ (ih : ArgumentReaders fuel) {args : Arguments} {p : Position}
    (hargs : args.Accepted) :
    Yields Always Arguments.Accepted (readArgument (fuel + 1) args p) := by
  unfold readArgument
  refine .after fun token => ?_
  split
  · refine .after fun _ => .after fun named => ?_
    split
    · exact .bind ih.value fun value hvalue => addKeyword_accepted hargs hvalue
    · exact .bind ih.word fun value hvalue => addPositional_accepted hargs hvalue
  · exact .after fun value => addPositional_accepted hargs nofun

/-- A literal is accepted, and a word is what it stands for. -/
theorem value_succ (ih : ArgumentReaders fuel) :
    Yields Always Argument.Accepted (readValue (fuel + 1)) := by
  unfold readValue
  refine .after fun token => ?_
  split
  · exact .after fun _ => ih.word
  · exact .after fun value => .pure nofun

/-- A word may start a filter, whose calls keep it accepted. -/
theorem word_succ (ih : ArgumentReaders fuel) {name : String} :
    Yields Always Argument.Accepted (readWord (fuel + 1) name) := by
  unfold readWord
  refine .after fun opens => ?_
  split
  · exact .after fun _ => .after fun _ => .after fun f => .pure nofun
  · split
    · refine .after fun _ => .after fun _ => .bind (ih.elementFilter nofun) fun f hf => ?_
      exact .pure fun g hg => Argument.elementFilter.inj hg ▸ hf
    · exact .pure nofun

/-- The calls of an element filter, one step of fuel further. -/
theorem elementFilter_succ (ih : ArgumentReaders fuel) {f : ElementFilter} (hf : f.Accepted) :
    Yields Always ElementFilter.Accepted (readElementFilter (fuel + 1) f) := by
  unfold readElementFilter
  refine .after fun more => ?_
  split
  · refine .after fun p => .after fun method => .after fun _ => ?_
    refine .bind (ih.arguments Arguments.accepted_none) fun args hargs => ?_
    refine .bind (yields_calling fun g hg => ?_) fun g hg => ih.elementFilter hg
    exact callElementFilter_accepted hf hargs hg
  · exact .pure hf

end ArgumentReaders

/-- **All filters of elements that are read among arguments are accepted.** -/
theorem argumentReaders [Libraries] (fuel : Nat) : ArgumentReaders fuel := by
  induction fuel with
  | zero => exact .zero
  | succ fuel ih =>
      exact ⟨ih.arguments_succ, ih.argument_succ, ih.value_succ, ih.word_succ,
        ih.elementFilter_succ⟩

/-- Every word that opens a chain opens a sound one. -/
theorem openChain?_sound [Libraries] {word : String} {chain : OpenChain}
    (h : openChain? word = some chain) :
    chain.Sound := by
  unfold openChain? at h
  split at h
  · exact Option.some.inj h ▸ (Draft.Start.sound_draft : Draft.Start.document.draft.Sound)
  · exact Option.some.inj h ▸ (Draft.Start.sound_draft : Draft.Start.source.draft.Sound)
  · exact Option.some.inj h ▸ (Draft.Start.sound_draft : Draft.Start.narrowing.draft.Sound)
  · contradiction

/-- What every call with accepted arguments keeps, the calls of a chain keep. -/
theorem readCalls_keeps [Libraries] {P : OpenChain → Prop}
    (hcall : ∀ {chain next method args}, P chain → args.Accepted →
      chain.call method args = .ok next → P next)
    {fuel : Nat} {chain : OpenChain} (h : P chain) : Yields Always P (readCalls fuel chain) := by
  induction fuel generalizing chain with
  | zero => exact yields_unexpected
  | succ fuel ih =>
      unfold readCalls
      refine .after fun more => ?_
      split
      · refine .after fun p => .after fun method => .after fun _ => ?_
        refine .bind ((argumentReaders fuel).arguments Arguments.accepted_none) fun args hargs => ?_
        exact .bind (yields_calling fun next hnext => hcall h hargs hnext) fun next hnext =>
          ih hnext
      · exact .pure h

/-- **A chain that is read is sound.** -/
theorem readChain_sound [Libraries] (fuel : Nat) : Yields Always Chain.Sound (readChain fuel) := by
  unfold readChain
  refine .after fun p => .after fun word => ?_
  split
  · exact yields_invalid
  · next start hstart =>
      refine .after fun _ => .after fun _ => ?_
      have hstart := openChain?_sound hstart
      refine .bind (readCalls_keeps OpenChain.Sound.call hstart) fun chain hchain => ?_
      split
      · exact .pure hchain.chain
      · exact .pure hchain
      · exact yields_invalid

end Declaration

/-! ## schemas and modules -/

/-- A schema all of whose chains are sound. -/
def Schema.Sound [Libraries] (schema : Schema) : Prop :=
  ∀ name chain, (name, some chain) ∈ schema.members → Chain.Sound chain

/-- What declarations amount to: sound chains under names that are declared once. -/
structure Module.Declared [Libraries] (m : Module) : Prop where
  schemas_nodup : m.registry.names.Nodup
  shapes_nodup : (m.shapes.map JsonShape.name).Nodup
  sound : ∀ schema ∈ m.registry.schemas, schema.Sound

/-- What is in a map after an insertion is new or was there before. -/
theorem Keyed.mem_insert {α : Type} {key : String} {value : α} {l : List (String × α)}
    {entry : String × α} (h : entry ∈ insert key value l) : entry = (key, value) ∨ entry ∈ l := by
  induction l with
  | nil => exact .inl (List.mem_singleton.mp h)
  | cons first rest ih =>
      rw [insert] at h
      split at h
      · rcases List.mem_cons.mp h with h | h
        · exact .inl h
        · exact .inr (List.mem_cons_of_mem first h)
      · rcases List.mem_cons.mp h with h | h
        · exact .inr (List.mem_cons.mpr (.inl h))
        · exact (ih h).imp_right (List.mem_cons_of_mem first)

/-- A sound chain may be set as a member of a sound schema. -/
theorem Schema.Sound.setMember [Libraries] {schema : Schema} {name : String} {chain? : Option Chain}
    (h : schema.Sound) (hchain : ∀ chain, chain? = some chain → Chain.Sound chain) :
    (schema.setMember name chain?).Sound := by
  intro other chain hmem
  rcases Keyed.mem_insert hmem with heq | hmem
  · exact hchain chain (congrArg Prod.snd heq).symm
  · exact h other chain hmem

namespace Declaration

variable [Libraries]

/-- A member that is read gives the schema its signature or the names left out of that, or it is set
to nothing or to a sound chain. -/
theorem readMember_keeps {P : Schema → Prop} {fuel : Nat} {schema : Schema}
    (hsignature : ∀ signature, P { schema with signature := some signature })
    (hexcluded : ∀ excluded, P { schema with excluded := some excluded })
    (hmember : ∀ name chain?, (∀ chain, chain? = some chain → Chain.Sound chain) →
      P (schema.setMember name chain?)) :
    Yields Always P (readMember fuel schema) := by
  unfold readMember
  refine .after fun p => .after fun name => ?_
  dsimp only
  split
  · exact yields_invalid_bind
  · refine .after fun _ => ?_
    split
    · exact .after fun signature => .pure (hsignature signature)
    · split
      · exact .after fun excluded => .pure (hexcluded excluded)
      · refine .after fun masks => ?_
        split
        · exact .pure (hmember name none nofun)
        · refine .bind (readChain_sound fuel) fun chain hchain => .pure (hmember name chain ?_)
          exact fun other hother => Option.some.inj hother ▸ hchain

/-- What every member keeps, the members of a schema keep. -/
theorem readMembers_keeps {P : Schema → Prop}
    (hmember : ∀ {fuel schema}, P schema → Yields Always P (readMember fuel schema))
    {fuel : Nat} {schema : Schema} (h : P schema) :
    Yields Always P (readMembers fuel schema) := by
  induction fuel generalizing schema with
  | zero => exact yields_unexpected
  | succ fuel ih =>
      unfold readMembers
      refine .after fun closes => ?_
      split
      · exact .pure h
      · exact .bind (hmember h) fun next hnext => ih hnext

/-- The members of a schema keep it sound. -/
theorem readMembers_sound {fuel : Nat} {schema : Schema} (h : schema.Sound) :
    Yields Always Schema.Sound (readMembers fuel schema) := by
  refine readMembers_keeps (fun hschema => ?_) h
  exact readMember_keeps (fun _ => hschema) (fun _ => hschema) fun _ _ => hschema.setMember

/-- **The chains of a schema that is read are sound.** -/
theorem readSchema_sound (fuel : Nat) : Yields Always Schema.Sound (readSchema fuel) := by
  unfold readSchema
  refine .after fun _ => .after fun name => .after fun _ => .after fun p => .after fun word => ?_
  split
  · exact yields_invalid
  · refine .after fun inherits => ?_
    dsimp only
    split
    · refine .after fun first => .after fun others => .after fun parents => ?_
      exact .after fun _ => .after fun docstring => readMembers_sound nofun
    · refine .after fun parents => ?_
      exact .after fun _ => .after fun docstring => readMembers_sound nofun

end Declaration

/-- Something of a name is found when the name is among all names. -/
theorem isSome_find?_iff {α : Type} {key : α → String} {l : List α} {name : String} :
    (l.find? (key · == name)).isSome = true ↔ name ∈ l.map key := by
  simp [List.find?_isSome]

/-- Names stay distinct when something is added whose name is not found. -/
theorem nodup_map_append {α : Type} {key : α → String} {l : List α} {x : α} (h : (l.map key).Nodup)
    (hnew : (l.find? (key · == key x)).isSome ≠ true) : ((l ++ [x]).map key).Nodup := by
  rw [List.map_append, List.map_singleton, ← List.concat_eq_append]
  exact h.concat (mt isSome_find?_iff.mpr hnew)

namespace Module

variable [Libraries]

variable {m m' : Module}

theorem declared_empty (docstring : Option String) :
    { Module.empty with docstring := docstring }.Declared :=
  ⟨List.nodup_nil, List.nodup_nil, nofun⟩

/-- A schema is added under a new name only. -/
theorem Declared.addSchema {schema : Schema} (h : m.Declared) (hschema : schema.Sound)
    (hadd : m.addSchema schema = .ok m') : m'.Declared := by
  rw [Module.addSchema, bind_eq_ok] at hadd
  obtain ⟨registry, hregister, hadd⟩ := hadd
  rw [pure_eq_ok] at hadd
  subst hadd
  rw [Registry.register] at hregister
  split at hregister
  · contradiction
  · next hnew =>
      cases hregister
      refine ⟨nodup_map_append h.schemas_nodup hnew, h.shapes_nodup, fun other hother => ?_⟩
      rcases List.mem_append.mp hother with hother | hother
      · exact h.sound other hother
      · exact List.mem_singleton.mp hother ▸ hschema

/-- A shape is added under a new name only. -/
theorem Declared.addShape {shape : JsonShape} (h : m.Declared)
    (hadd : m.addShape shape = .ok m') : m'.Declared := by
  rw [Module.addShape] at hadd
  split at hadd
  · contradiction
  · next hnew =>
      cases hadd
      exact ⟨h.schemas_nodup, nodup_map_append h.shapes_nodup hnew, h.sound⟩

end Module

namespace Declaration

/-- Adding a declaration yields the module with it. -/
theorem yields_adding {p : Position} {result : Except AssembleError Module} {P : Module → Prop}
    (h : ∀ m, result = .ok m → P m) : Yields Always P (adding p result) := by
  cases result with
  | ok m => exact .pure (h m rfl)
  | error e => exact .fail

/-- Every further declaration keeps a module declared. -/
theorem readDeclarations_declared [Libraries] {fuel : Nat} {m : Module} (h : m.Declared) :
    Yields Always Module.Declared (readDeclarations fuel m) := by
  induction fuel generalizing m with
  | zero => exact yields_unexpected
  | succ fuel ih =>
      unfold readDeclarations
      refine .after fun p => .after fun token => ?_
      split
      · exact .pure h
      · refine .after fun shape => ?_
        exact .bind (yields_adding fun m' hadd => h.addShape hadd) fun m' hm' => ih hm'
      · refine .bind (readSchema_sound fuel) fun schema hschema => ?_
        exact .bind (yields_adding fun m' hadd => h.addSchema hschema hadd) fun m' hm' => ih hm'
      · exact yields_unexpected

end Declaration

/-- **A parsed module holds sound chains under names that are declared once.** -/
theorem Module.parse_declared [Libraries] {source : String} {m : Module}
    (h : Module.parse source = .ok m) :
    m.Declared := by
  have hread : ∀ fuel, Declaration.Yields Declaration.Always Module.Declared
      (Declaration.readModule fuel) := fun fuel =>
    .after fun docstring => Declaration.readDeclarations_declared (declared_empty docstring)
  unfold Module.parse at h
  dsimp only at h
  split at h
  · simp at h
  · rw [bind_eq_ok] at h
    obtain ⟨⟨result, rest⟩, hresult, h⟩ := h
    rw [pure_eq_ok] at h
    exact h ▸ hread _ _ trivial result rest hresult

end Extractor
