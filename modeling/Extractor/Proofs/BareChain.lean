import Extractor.Proofs.Consumption
import Extractor.Proofs.Declaration

/-!
# Extractor.Proofs.BareChain

Where empty chains come from. Every call leaves a chain with steps
(`Draft.Fills.apply`), so a chain that is read empty is a bare document on which
no call is made (`Declaration.startsBare_of_readChain`). All readers stay within
the source, so each empty chain of a parsed module stands there under its name
(`Module.parse_emptyDeclared`).
-/

namespace Extractor

open Outcome

namespace Draft

/-! ## calls add to chains -/

section Fills

variable {α : Type} {d : Draft} {operation one many : Operation} {accepts returns : ValueType}
  {method : String} {accepted : List ValueType} {oneType manyType : ValueType} {e : BuildError}

/-- The chain has steps, if there is one. -/
def Fills (x : Except BuildError Draft) : Prop := ∀ d, x = .ok d → d.chain ≠ []

namespace Fills

theorem error : Fills (.error e) := nofun

theorem push : Fills (.ok (d.push operation accepts returns)) := by
  intro d' h
  cases h
  simp [Draft.push]

/-- What comes before the last step does not matter. -/
theorem bind {x : Except BuildError α} {f : α → Except BuildError Draft} (h : ∀ a, Fills (f a)) :
    Fills (x >>= f) := by
  intro d' hd'
  obtain ⟨a, -, ha⟩ := bind_eq_ok.mp hd'
  exact h a d' ha

theorem addDefault {value : Literal} : Fills (d.addDefault value) := by
  intro d' h
  obtain ⟨-, rfl⟩ := addDefault_eq_ok h
  simp

/-- Every way of adding a step fills a draft, one lemma for each. -/
theorem pushSame : Fills (d.pushSame method accepted operation) := .bind fun _ => .push

theorem pushFrom : Fills (d.pushFrom method operation accepts returns) := .bind fun _ => .push

theorem pushExtraction : Fills (d.pushExtraction method one many oneType) := by
  refine .bind fun type => ?_
  split
  · exact .push
  · exact .push

theorem pushAttributes {keys : List String} : Fills (d.pushAttributes keys) := by
  unfold Draft.pushAttributes
  dsimp only
  split
  · exact .error
  · exact .pushExtraction

theorem pushSelection [Libraries] {dialect : Dialect} {query : String}
    {operation : Dialect → String → Operation} :
    Fills (d.pushSelection method dialect query operation returns) := by
  refine .bind fun _ => .bind fun split => .bind fun _ => ?_
  cases split.extraction with
  | none => exact .push
  | some extraction =>
      cases extraction with
      | text | raw => exact .pushExtraction
      | attributes names => exact .pushAttributes

theorem pushPlainQuery [Libraries] {dialect : Dialect} {query : String}
    {operation : Dialect → String → Operation} :
    Fills (d.pushPlainQuery method dialect query operation) :=
  .bind fun _ => .bind fun _ => .push

theorem pushCast : Fills (d.pushCast method one many oneType manyType) := by
  refine .bind fun type => ?_
  split
  · exact .push
  · exact .push

theorem pushComparison {value : Literal} : Fills (d.pushComparison method value operation) := by
  refine .bind fun type => ?_
  split
  · exact .push
  · exact .error

theorem pushMembership {value : Literal} {message : String} :
    Fills (d.pushMembership value message) := by
  refine .bind fun type => ?_
  split
  · exact .push
  · exact .error

theorem pushFilter [Libraries] {f : TextFilter} : Fills (d.pushFilter f) := by
  refine .bind fun type => ?_
  split
  · exact .error
  · exact .bind fun _ => .push

theorem pushElementFilter {f : ElementFilter} : Fills (d.pushElementFilter f) := by
  refine .bind fun type => ?_
  split
  · exact .error
  · exact .push

theorem pushHasAttr {key message : String} : Fills (d.pushHasAttr key message) := by
  refine .bind fun type => ?_
  split
  · exact .push
  · exact .push

/-- **Behind a call a chain has steps**, whatever the call and the chain before. -/
theorem apply [Libraries] {call : Call} : Fills (d.apply call) := by
  cases call with
  | default value => exact .addDefault
  | select dialect query | selectAll dialect query => exact .pushSelection
  | remove dialect query => exact .pushPlainQuery
  | isFound dialect query message =>
      rw [Draft.apply]
      exact .pushPlainQuery
  | attr keys => exact .pushAttributes
  | text | raw | attrsMap => exact .pushExtraction
  | index | toLen | toBool | jsonifyDynamic => exact .bind fun _ => .push
  | join | unique | split | jsonify | subParser => exact .pushFrom
  | filter f => exact .pushFilter
  | filterElements f => exact .pushElementFilter
  | strip | replace | unescape => exact .pushSame
  | replaceMap table =>
      rw [Draft.apply]
      split
      · exact .error
      · exact .pushSame
  | format template =>
      rw [Draft.apply]
      split
      · exact .pushSame
      · exact .error
  | regex | regexAll => exact .bind fun _ => .bind fun _ => .bind fun _ => .push
  | regexSub => exact .bind fun _ => .bind fun _ => .push
  | toInt | toFloat => exact .pushCast
  | isEqual value message | isNotEqual value message => exact .pushComparison
  | isContains value message => exact .pushMembership
  | isMatch scope source ignoreCase message => exact .bind fun _ => .pushSame
  | hasAttr key message => exact .pushHasAttr

end Fills

end Fills

end Draft

namespace Declaration

/-! ## chains without calls -/

/-- A chain that is being declared and has steps. -/
def OpenChain.HasSteps : OpenChain → Prop
  | ordinary d | narrowing d => d.chain ≠ []
  | closed chain => chain ≠ []

/-- Behind a call a chain that is being declared has steps. -/
theorem OpenChain.hasSteps_of_call [Libraries] {chain next : OpenChain} {method : String}
    {args : Arguments} (h : chain.call method args = .ok next) : next.HasSteps := by
  obtain ⟨_, d', _, call, _, -, -, -, happly, hnext⟩ := call_eq_ok h
  have hne : d'.chain ≠ [] := Draft.Fills.apply d' happly
  rcases hnext with rfl | rfl | rfl <;> exact hne

/-- A chain that has steps keeps them while further calls are read. -/
theorem readCalls_hasSteps [Libraries] {fuel : Nat} {chain : OpenChain} (h : chain.HasSteps) :
    Yields Always OpenChain.HasSteps (readCalls fuel chain) :=
  readCalls_keeps (fun _ _ hcall => OpenChain.hasSteps_of_call hcall) h

/-! ## the current token -/

/-- The token stands in front. -/
def Shows (s : Lexed) (t : Token) : Prop := (s.lexemes.map Lexeme.token).head? = some t

section Shows

variable {s u : Lexed} {t next : Token} {name : String}

/-- A sequence of readers succeeds when its first part does and then its second. -/
theorem run_bind {α β : Type} {x : Reading α} {f : α → Reading β} {b : β} :
    (x >>= f) s = .ok (b, u) ↔ ∃ a v, x s = .ok (a, v) ∧ f a v = .ok (b, u) := by
  have hrun : (x >>= f) s = (x s >>= fun r => f r.1 r.2) := rfl
  rw [hrun, bind_eq_ok, Prod.exists]

/-- A token that is not the end and comes next is shown. -/
theorem shows_of_headD (hne : t ≠ .endOfInput)
    (h : (s.lexemes.headD ⟨.endOfInput, .start⟩).token = t) : Shows s t := by
  obtain ⟨lexemes, failure⟩ := s
  cases lexemes with
  | nil => exact absurd h.symm hne
  | cons l rest => exact congrArg some h

/-- An expected token is shown and passed over. -/
theorem expect_eq_ok (h : Reading.expect t s = .ok ((), u)) (hne : t ≠ .endOfInput) :
    Shows s t ∧ Reading.advance s = .ok ((), u) := by
  have hrun : (if decide ((s.lexemes.headD ⟨.endOfInput, .start⟩).token = t) = true then
      Reading.advance else Reading.unexpected (.token t)) s = .ok ((), u) := h
  split at hrun
  · next hat => exact ⟨shows_of_headD hne (of_decide_eq_true hat), hrun⟩
  · contradiction

theorem current_eq_ok (h : Reading.current s = .ok (t, u)) :
    u = s ∧ (s.lexemes.headD ⟨.endOfInput, .start⟩).token = t := by
  cases h
  exact ⟨rfl, rfl⟩

theorem identifier_eq_ok (h : Reading.identifier s = .ok (name, u)) :
    Shows s (.identifier name) ∧ Reading.advance s = .ok ((), u) := by
  unfold Reading.identifier at h
  obtain ⟨token, v, hcurrent, h⟩ := run_bind.mp h
  obtain ⟨rfl, htoken⟩ := current_eq_ok hcurrent
  cases token
  case identifier word =>
    obtain ⟨_, w, hadvance, h⟩ := run_bind.mp h
    cases h
    exact ⟨shows_of_headD nofun htoken, hadvance⟩
  all_goals contradiction

/-- A token that is not accepted is not shown, and nothing is passed over. -/
theorem not_accept_eq_ok (h : Reading.accept t s = .ok (false, u)) :
    u = s ∧ ¬Shows s t := by
  have hrun : (if decide ((s.lexemes.headD ⟨.endOfInput, .start⟩).token = t) = true then
      (do Reading.advance; pure true) else pure false : Reading Bool) s = .ok (false, u) := h
  split at hrun
  · obtain ⟨_, v, -, hpure⟩ := run_bind.mp hrun
    cases hpure
  · next hat =>
      cases hrun
      refine ⟨rfl, fun hshows => hat ?_⟩
      obtain ⟨lexemes, failure⟩ := s
      cases lexemes with
      | nil => contradiction
      | cons l rest => simpa [Shows] using hshows

/-- Unless there is nothing behind it, the token in front is passed. -/
theorem advance_eq_ok (hs : Shows s t) (h : Reading.advance s = .ok ((), u)) :
    s.lexemes.map Lexeme.token = t :: u.lexemes.map Lexeme.token ∨
      s.lexemes.map Lexeme.token = [t] ∧ u = s := by
  obtain ⟨lexemes, failure⟩ := s
  unfold Reading.advance at h
  split at h
  · next l next rest hlexemes =>
      cases h
      obtain rfl : lexemes = l :: next :: rest := hlexemes
      obtain rfl : l.token = t := Option.some.inj hs
      exact .inl rfl
  · next hlast =>
      split at h
      · contradiction
      · cases h
        refine .inr ⟨?_, rfl⟩
        match lexemes, hlast with
        | [], _ => contradiction
        | [l], _ => exact congrArg (· :: []) (Option.some.inj hs)
        | l :: next :: rest, hlast => exact absurd rfl (hlast l next rest)

/-- Where another token comes next, the one in front was passed. -/
theorem tokens_of_advance (hs : Shows s t) (h : Reading.advance s = .ok ((), u))
    (hnext : Shows u next) (hne : t ≠ next) :
    s.lexemes.map Lexeme.token = t :: u.lexemes.map Lexeme.token := by
  rcases advance_eq_ok hs h with htokens | ⟨-, rfl⟩
  · exact htokens
  · exact absurd (Option.some.inj (hs.symm.trans hnext)) hne

end Shows

/-- The tokens start with a chain on the document on which no call is made. -/
def StartsBare (tokens : List Token) : Prop :=
  ∃ rest, tokens = .identifier "D" :: .leftParen :: .rightParen :: rest ∧ rest.head? ≠ some .dot

/-- A chain that is left without steps has none to start with, and no call follows. -/
theorem readCalls_of_not_hasSteps [Libraries] {fuel : Nat} {start chain : OpenChain} {s u : Lexed}
    (hchain : ¬chain.HasSteps) (h : readCalls fuel start s = .ok (chain, u)) :
    chain = start ∧ ¬Shows s .dot := by
  cases fuel with
  | zero => contradiction
  | succ fuel =>
      unfold readCalls at h
      obtain ⟨more, v, haccept, h⟩ := run_bind.mp h
      split at h
      · obtain ⟨_, _, -, h⟩ := run_bind.mp h
        obtain ⟨_, _, -, h⟩ := run_bind.mp h
        obtain ⟨_, _, -, h⟩ := run_bind.mp h
        obtain ⟨_, _, -, h⟩ := run_bind.mp h
        obtain ⟨next, w, hcalling, h⟩ := run_bind.mp h
        have hnext : next.HasSteps :=
          yields_calling (I := Always) (fun _ => OpenChain.hasSteps_of_call) _ trivial next w
            hcalling
        exact absurd (readCalls_hasSteps hnext _ trivial chain u h) hchain
      · next hmore =>
          obtain rfl : more = false := by simpa using hmore
          cases h
          exact ⟨rfl, (not_accept_eq_ok haccept).2⟩

/-- **An empty chain is read from nothing but a bare document.** -/
theorem startsBare_of_readChain [Libraries] {fuel : Nat} {s u : Lexed}
    (h : readChain fuel s = .ok ([], u)) :
    StartsBare (s.lexemes.map Lexeme.token) := by
  unfold readChain at h
  obtain ⟨p, _, hposition, h⟩ := run_bind.mp h
  cases hposition
  obtain ⟨word, s₁, hword, h⟩ := run_bind.mp h
  obtain ⟨hshows, hadvance⟩ := identifier_eq_ok hword
  cases hstart : openChain? word with
  | none =>
      rw [hstart] at h
      contradiction
  | some start =>
      rw [hstart] at h
      obtain ⟨_, s₂, hopen, h⟩ := run_bind.mp h
      obtain ⟨hshows₁, hadvance₁⟩ := expect_eq_ok hopen nofun
      obtain ⟨_, s₃, hclose, h⟩ := run_bind.mp h
      obtain ⟨hshows₂, hadvance₂⟩ := expect_eq_ok hclose nofun
      obtain ⟨chain, s₄, hcalls, h⟩ := run_bind.mp h
      have hempty : ¬chain.HasSteps ∧ ∀ d, chain ≠ .narrowing d := by
        cases chain with
        | ordinary d =>
            have hchain : (d.chain, s₄) = ([], u) := Except.ok.inj h
            exact ⟨fun hne => hne (congrArg Prod.fst hchain), nofun⟩
        | closed chain =>
            have hchain : (chain, s₄) = ([], u) := Except.ok.inj h
            exact ⟨fun hne => hne (congrArg Prod.fst hchain), nofun⟩
        | narrowing d => contradiction
      obtain ⟨rfl, hdot⟩ := readCalls_of_not_hasSteps hempty.1 hcalls
      obtain rfl : word = "D" := by
        unfold openChain? at hstart
        split at hstart
        · rfl
        · cases hstart
          exact absurd (List.cons_ne_nil _ _) hempty.1
        · cases hstart
          exact absurd rfl (hempty.2 _)
        · contradiction
      have hclosed : ∃ rest, s₂.lexemes.map Lexeme.token = .rightParen :: rest ∧
          rest.head? ≠ some .dot := by
        rcases advance_eq_ok hshows₂ hadvance₂ with htokens | ⟨htokens, -⟩
        · exact ⟨_, htokens, hdot⟩
        · exact ⟨[], htokens, nofun⟩
      obtain ⟨rest, hrest, hnone⟩ := hclosed
      refine ⟨rest, ?_, hnone⟩
      rw [tokens_of_advance hshows hadvance hshows₁ nofun,
        tokens_of_advance hshows₁ hadvance₁ hshows₂ nofun, hrest]

/-- The tokens declare a member as a chain on the document on which no call is made. -/
def DeclaresBare (tokens : List Token) (name : String) : Prop :=
  ∃ front rest, tokens = front ++ .identifier name :: .equals :: rest ∧ StartsBare rest

/-- The empty chains of a schema are declared so by the tokens. -/
def EmptyDeclared (tokens : List Token) (schema : Schema) : Prop :=
  ∀ name, (name, some []) ∈ schema.members → DeclaresBare tokens name

/-! ## readers within a source -/

section Within

variable {α β : Type} {whole : List Lexeme} {P : α → Prop} {Q : β → Prop} {x : Reading α}
  {f : α → Reading β}

/-- Started within the source, the reader stays within it, and its results have the property. -/
def Within (whole : List Lexeme) (P : α → Prop) (x : Reading α) : Prop :=
  ∀ s, s.lexemes <:+ whole → ∀ a u, x s = .ok (a, u) → u.lexemes <:+ whole ∧ P a

/-- A reader that consumes stays within its source. -/
theorem Within.of_consumes (hx : Consumes x) (hP : Yields Always P x) : Within whole P x :=
  fun s hs a u h => ⟨(hx s a u h).trans hs, hP s trivial a u h⟩

/-- Readers one behind the other stay within the source. -/
theorem Within.bind (hx : Within whole P x) (hf : ∀ a, P a → Within whole Q (f a)) :
    Within whole Q (x >>= f) := by
  intro s hs b u h
  obtain ⟨a, v, ha, hb⟩ := run_bind.mp h
  obtain ⟨hv, hPa⟩ := hx s hs a v ha
  exact hf a hPa v hv b u hb

theorem Within.after (hx : Consumes x) (hf : ∀ a, Within whole Q (f a)) :
    Within whole Q (x >>= f) := by
  intro s hs b u h
  obtain ⟨a, v, ha, hb⟩ := run_bind.mp h
  exact hf a v ((hx s a v ha).trans hs) b u hb

theorem Within.pure {a : α} (h : P a) : Within whole P (pure a) :=
  .of_consumes .pure (.pure h)

theorem Within.unexpected {e : Expectation} : Within whole P (Reading.unexpected e) :=
  .of_consumes .unexpected yields_unexpected

theorem Within.invalid {fault : Fault} {p : Position} : Within whole P (Reading.invalid fault p) :=
  .of_consumes .invalid yields_invalid

end Within

section Empty

variable {whole : List Lexeme} {fuel : Nat} {schema : Schema}

/-- An empty chain may be set as a member if it is declared in the source. -/
theorem EmptyDeclared.setMember {tokens : List Token} {name : String} {chain? : Option Chain}
    (h : EmptyDeclared tokens schema) (hchain : chain? = some [] → DeclaresBare tokens name) :
    EmptyDeclared tokens (schema.setMember name chain?) := by
  intro other hmem
  rcases Keyed.mem_insert hmem with heq | hmem
  · cases heq
    exact hchain rfl
  · exact h other hmem

/-- A member that is read is set, and as an empty chain only when it is declared so. -/
theorem readMember_eq_ok [Libraries] {next : Schema} {s u : Lexed}
    (h : readMember fuel schema s = .ok (next, u)) :
    next.members = schema.members ∨ ∃ name chain?, next = schema.setMember name chain? ∧
      (chain? = some [] → ∃ rest,
        s.lexemes.map Lexeme.token = .identifier name :: .equals :: rest ∧ StartsBare rest) := by
  unfold readMember at h
  obtain ⟨p, _, hposition, h⟩ := run_bind.mp h
  cases hposition
  obtain ⟨name, s₁, hname, h⟩ := run_bind.mp h
  obtain ⟨hshows, hadvance⟩ := identifier_eq_ok hname
  dsimp only at h
  split at h
  · contradiction
  · obtain ⟨_, s₂, hequals, h⟩ := run_bind.mp h
    obtain ⟨hshows₁, hadvance₁⟩ := expect_eq_ok hequals nofun
    split at h
    · obtain ⟨signature, _, -, h⟩ := run_bind.mp h
      cases h
      exact .inl rfl
    · split at h
      · obtain ⟨excluded, _, -, h⟩ := run_bind.mp h
        cases h
        exact .inl rfl
      · obtain ⟨masks, s₃, hmasks, hmember⟩ := run_bind.mp h
        split at hmember
        · cases hmember
          exact .inr ⟨name, none, rfl, nofun⟩
        · next hnull =>
            obtain rfl : masks = false := by simpa using hnull
            obtain ⟨rfl, -⟩ := not_accept_eq_ok hmasks
            obtain ⟨chain, s₄, hchain, hset⟩ := run_bind.mp hmember
            cases hset
            refine .inr ⟨name, some chain, rfl, fun hempty => ?_⟩
            obtain rfl := Option.some.inj hempty
            have hbare := startsBare_of_readChain hchain
            have hshows₂ : Shows s₃ (.identifier "D") := by
              obtain ⟨rest, htokens, -⟩ := hbare
              rw [Shows, htokens, List.head?_cons]
            refine ⟨_, ?_, hbare⟩
            rw [tokens_of_advance hshows hadvance hshows₁ nofun,
              tokens_of_advance hshows₁ hadvance₁ hshows₂ nofun]

/-- A member whose chain is empty is declared so in the source. -/
theorem readMember_within [Libraries] (h : EmptyDeclared (whole.map Lexeme.token) schema) :
    Within whole (EmptyDeclared (whole.map Lexeme.token)) (readMember fuel schema) := by
  intro s hs next u hread
  refine ⟨(readMember_consumes s next u hread).trans hs, ?_⟩
  rcases readMember_eq_ok hread with hmembers | ⟨name, chain?, rfl, hempty⟩
  · rw [EmptyDeclared, hmembers]
    exact h
  · refine h.setMember fun hchain => ?_
    obtain ⟨rest, htokens, hbare⟩ := hempty hchain
    obtain ⟨front, hfront⟩ := hs.map Lexeme.token
    exact ⟨front, rest, by rw [← hfront, htokens], hbare⟩

/-- The members of a schema have empty chains only where the source declares them. -/
theorem readMembers_within [Libraries] (h : EmptyDeclared (whole.map Lexeme.token) schema) :
    Within whole (EmptyDeclared (whole.map Lexeme.token)) (readMembers fuel schema) := by
  induction fuel generalizing schema with
  | zero => exact .unexpected
  | succ fuel ih =>
      unfold readMembers
      refine .after .accept fun closes => ?_
      split
      · exact .pure h
      · exact .bind (readMember_within h) fun next hnext => ih hnext

/-- A schema has empty chains only where the source declares them. -/
theorem readSchema_within [Libraries] :
    Within whole (EmptyDeclared (whole.map Lexeme.token)) (readSchema fuel) := by
  unfold readSchema
  refine .after .expect fun _ => .after .identifier fun name => .after .expect fun _ => ?_
  refine .after .position fun p => .after .identifier fun word => ?_
  split
  · exact .invalid
  · refine .after .accept fun inherits => ?_
    dsimp only
    split
    · refine .after .identifier fun first => .after readParents_consumes fun others => ?_
      refine .after .pure fun parents => .after .expect fun _ => ?_
      exact .after readDocstring_consumes fun docstring => readMembers_within nofun
    · refine .after .pure fun parents => .after .expect fun _ => ?_
      exact .after readDocstring_consumes fun docstring => readMembers_within nofun

end Empty

end Declaration

namespace Module

variable {m m' : Module}

/-- Adding a schema puts it behind the others. -/
theorem schemas_addSchema {schema : Schema} (h : m.addSchema schema = .ok m') :
    m'.registry.schemas = m.registry.schemas ++ [schema] := by
  rw [Module.addSchema, bind_eq_ok] at h
  obtain ⟨registry, hregister, h⟩ := h
  obtain rfl := pure_eq_ok.mp h
  rw [Registry.register] at hregister
  split at hregister
  · contradiction
  · cases hregister
    rfl

/-- Adding a shape changes nothing about the schemas. -/
theorem registry_addShape {shape : JsonShape} (h : m.addShape shape = .ok m') :
    m'.registry = m.registry := by
  rw [Module.addShape] at h
  split at h
  · contradiction
  · cases h
    rfl

/-- The empty chains of all schemas are declared so by the tokens. -/
def EmptyDeclared (tokens : List Token) (m : Module) : Prop :=
  ∀ schema ∈ m.registry.schemas, Declaration.EmptyDeclared tokens schema

end Module

namespace Declaration

/-- Further declarations have empty chains only where the source declares them. -/
theorem readDeclarations_within [Libraries] {whole : List Lexeme} {fuel : Nat} {m : Module}
    (h : m.EmptyDeclared (whole.map Lexeme.token)) :
    Within whole (Module.EmptyDeclared (whole.map Lexeme.token)) (readDeclarations fuel m) := by
  induction fuel generalizing m with
  | zero => exact .unexpected
  | succ fuel ih =>
      unfold readDeclarations
      refine .after .position fun p => .after .current fun token => ?_
      split
      · exact .pure h
      · refine .after readShape_consumes fun shape => ?_
        refine .bind (.of_consumes adding_consumes (yields_adding fun m' hadd => ?_)) fun m' => ih
        rw [Module.EmptyDeclared, Module.registry_addShape hadd]
        exact h
      · refine .bind readSchema_within fun schema hschema => ?_
        refine .bind (.of_consumes adding_consumes (yields_adding fun m' hadd => ?_)) fun m' => ih
        rw [Module.EmptyDeclared, Module.schemas_addSchema hadd, List.forall_mem_append]
        exact ⟨h, List.forall_mem_singleton.mpr hschema⟩
      · exact .unexpected

end Declaration

/-- **A parsed module has no empty chains but those that its source declares so.** -/
theorem Module.parse_emptyDeclared [Libraries] {source : String} {m : Module}
    (h : Module.parse source = .ok m) :
    m.EmptyDeclared ((Lexed.ofString source).lexemes.map Lexeme.token) := by
  unfold Module.parse at h
  dsimp only at h
  split at h
  · simp at h
  · obtain ⟨⟨result, rest⟩, hresult, h⟩ := bind_eq_ok.mp h
    obtain rfl := pure_eq_ok.mp h
    have hread : ∀ fuel, Declaration.Within (Lexed.ofString source).lexemes
        (EmptyDeclared ((Lexed.ofString source).lexemes.map Lexeme.token))
        (Declaration.readModule fuel) := fun fuel =>
      .after Declaration.readDocstring_consumes fun docstring =>
        Declaration.readDeclarations_within nofun
    exact (hread _ _ (List.suffix_refl _) result rest hresult).2

end Extractor
