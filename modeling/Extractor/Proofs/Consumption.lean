import Extractor.Declaration.Module
import Extractor.Proofs.Outcome

/-!
# Extractor.Proofs.Consumption

Readers take tokens from the front: what a reader leaves is a suffix of what it
found (`Consumes`). So whatever a reader deep inside a module comes upon stands
in the source of the module, at the place where it is read.
-/

namespace Extractor.Declaration

open Outcome

section Consumes

variable {α β : Type} {x : Reading α} {f : α → Reading β}

/-- The reader takes tokens from the front, if it succeeds. -/
def Consumes (x : Reading α) : Prop := ∀ s a t, x s = .ok (a, t) → t.lexemes <:+ s.lexemes

namespace Consumes

/-- What reads nothing leaves everything. -/
theorem pure {a : α} : Consumes (pure a : Reading α) := by
  intro s b t h
  cases h
  exact List.suffix_refl _

theorem fail {e : ParseError} : Consumes (throw e : Reading α) := by
  intro s b t h
  cases h

/-- Readers one behind the other consume what both consume. -/
theorem bind (hx : Consumes x) (hf : ∀ a, Consumes (f a)) : Consumes (x >>= f) := by
  intro s b u h
  have hrun : (x s >>= fun r => f r.1 r.2) = .ok (b, u) := h
  rw [bind_eq_ok] at hrun
  obtain ⟨⟨a, t⟩, ha, hb⟩ := hrun
  exact (hf a t b u hb).trans (hx s a t ha)

/-- Looking at what comes next takes nothing away. -/
theorem currentLexeme : Consumes Reading.currentLexeme := by
  intro s a t h
  cases h
  exact List.suffix_refl _

theorem current : Consumes Reading.current := currentLexeme.bind fun _ => pure

theorem position : Consumes Reading.position := currentLexeme.bind fun _ => pure

theorem isAt {t : Token} : Consumes (Reading.isAt t) := current.bind fun _ => pure

theorem unexpected {e : Expectation} : Consumes (Reading.unexpected e : Reading α) :=
  currentLexeme.bind fun _ => fail

theorem invalid {fault : Fault} {p : Position} : Consumes (Reading.invalid fault p : Reading α) :=
  fail

theorem invalid_bind {fault : Fault} {p : Position} :
    Consumes (Reading.invalid fault p >>= f) := by
  intro s b t h
  cases h

/-- Advancing drops the lexeme in front, if there is a further one. -/
theorem advance : Consumes Reading.advance := by
  intro s a t h
  unfold Reading.advance at h
  split at h
  · next hs =>
      cases h
      rw [hs]
      exact List.suffix_cons _ _
  · split at h
    · contradiction
    · cases h
      exact List.suffix_refl _

/-- An expected token is taken away. -/
theorem expect {t : Token} : Consumes (Reading.expect t) := by
  refine isAt.bind fun found => ?_
  split
  · exact advance
  · exact unexpected

/-- A token is taken away only where it stands. -/
theorem accept {t : Token} : Consumes (Reading.accept t) := by
  refine isAt.bind fun found => ?_
  split
  · exact advance.bind fun _ => pure
  · exact pure

theorem identifier : Consumes Reading.identifier := by
  refine current.bind fun token => ?_
  split
  · exact advance.bind fun _ => pure
  · exact unexpected

/-- Calling a method reads nothing. -/
theorem calling {p : Position} {result : Except CallError α} :
    Consumes (Reading.calling p result) := by
  cases result with
  | ok value => exact pure
  | error e => exact fail

end Consumes

end Consumes

/-! ## literals -/

/-- The readers of the grammar consume, one lemma for each. -/
theorem readNegative_consumes : Consumes readNegative := by
  unfold readNegative
  refine .bind .current fun token => ?_
  split
  · exact .bind .advance fun _ => .pure
  · exact .bind .advance fun _ => .pure
  · exact .unexpected

/-- The readers of literals take tokens from the front, for a bound on their steps. -/
structure LiteralsConsume (fuel : Nat) : Prop where
  literal : Consumes (readLiteral fuel)
  items : Consumes (readItems fuel)
  entries : Consumes (readEntries fuel)

namespace LiteralsConsume

variable {fuel : Nat}

/-- A literal, one step of fuel further: signs and brackets go, and the rest is its parts. -/
theorem literal_succ (ih : LiteralsConsume fuel) : Consumes (readLiteral (fuel + 1)) := by
  unfold readLiteral
  refine .bind .current fun token => ?_
  split
  · exact .bind .advance fun _ => .bind ih.items fun _ => .pure
  · exact .bind .advance fun _ => .bind ih.entries fun _ => .pure
  · exact .bind .advance fun _ => readNegative_consumes
  on_goal -1 => exact .unexpected
  all_goals exact .bind .advance fun _ => .pure

/-- The items of a list, one step of fuel further. -/
theorem items_succ (ih : LiteralsConsume fuel) : Consumes (readItems (fuel + 1)) := by
  unfold readItems
  refine .bind .accept fun closes => ?_
  split
  · exact .pure
  · refine .bind ih.literal fun item => .bind .isAt fun last => ?_
    dsimp only
    split
    · exact .bind ih.items fun _ => .pure
    · exact .bind .expect fun _ => .bind ih.items fun _ => .pure

/-- The entries of a map, one step of fuel further. -/
theorem entries_succ (ih : LiteralsConsume fuel) : Consumes (readEntries (fuel + 1)) := by
  unfold readEntries
  refine .bind .accept fun closes => ?_
  split
  · exact .pure
  · refine .bind .current fun token => ?_
    split
    · refine .bind .advance fun _ => .bind .expect fun _ => .bind ih.literal fun value => ?_
      refine .bind .isAt fun last => ?_
      dsimp only
      split
      · exact .bind ih.entries fun _ => .pure
      · exact .bind .expect fun _ => .bind ih.entries fun _ => .pure
    · exact .unexpected

end LiteralsConsume

/-- **The readers of literals consume**, by induction on the fuel. -/
theorem literalsConsume (fuel : Nat) : LiteralsConsume fuel := by
  induction fuel with
  | zero => exact ⟨.unexpected, .unexpected, .unexpected⟩
  | succ fuel ih => exact ⟨ih.literal_succ, ih.items_succ, ih.entries_succ⟩

/-! ## arguments -/

/-- Adding an argument reads nothing. -/
theorem addPositional_consumes {args : Arguments} {value : Argument} {p : Position} :
    Consumes (addPositional args value p) := by
  unfold addPositional
  split
  · exact .pure
  · exact .invalid

theorem addKeyword_consumes {args : Arguments} {name : String} {value : Argument} {p : Position} :
    Consumes (addKeyword args name value p) := by
  unfold addKeyword
  split
  · exact .invalid
  · exact .pure

/-- The readers of arguments take tokens from the front, for a bound on their steps. -/
structure ArgumentsConsume [Libraries] (fuel : Nat) : Prop where
  arguments : ∀ args, Consumes (readArguments fuel args)
  argument : ∀ args p, Consumes (readArgument fuel args p)
  value : Consumes (readValue fuel)
  word : ∀ name, Consumes (readWord fuel name)
  textFilter : ∀ f, Consumes (readTextFilter fuel f)
  elementFilter : ∀ f, Consumes (readElementFilter fuel f)

namespace ArgumentsConsume

variable [Libraries]

variable {fuel : Nat}

/-- Without fuel the readers of arguments fail. -/
theorem zero : ArgumentsConsume 0 := by
  constructor
  all_goals
    intros
    exact .unexpected

/-- The arguments of a call, one step of fuel further. -/
theorem arguments_succ (ih : ArgumentsConsume fuel) (args : Arguments) :
    Consumes (readArguments (fuel + 1) args) := by
  unfold readArguments
  refine .bind .isAt fun closes => ?_
  split
  · exact .bind .advance fun _ => .pure
  · refine .bind .position fun p => .bind (ih.argument args p) fun args => ?_
    refine .bind .accept fun more => ?_
    split
    · exact ih.arguments args
    · exact .bind .expect fun _ => .pure

/-- One argument, with or without its name. -/
theorem argument_succ (ih : ArgumentsConsume fuel) (args : Arguments) (p : Position) :
    Consumes (readArgument (fuel + 1) args p) := by
  unfold readArgument
  refine .bind .current fun token => ?_
  split
  · refine .bind .advance fun _ => .bind .accept fun named => ?_
    split
    · exact .bind ih.value fun value => addKeyword_consumes
    · exact .bind (ih.word _) fun value => addPositional_consumes
  · exact .bind (literalsConsume fuel).literal fun value => addPositional_consumes

/-- The value of an argument is a literal, a word or what a word starts. -/
theorem value_succ (ih : ArgumentsConsume fuel) : Consumes (readValue (fuel + 1)) := by
  unfold readValue
  refine .bind .current fun token => ?_
  split
  · exact .bind .advance fun _ => ih.word _
  · exact .bind (literalsConsume fuel).literal fun value => .pure

/-- A word that starts a filter goes on with the calls of that filter. -/
theorem word_succ (ih : ArgumentsConsume fuel) (name : String) :
    Consumes (readWord (fuel + 1) name) := by
  unfold readWord
  refine .bind .isAt fun opens => ?_
  split
  · exact .bind .advance fun _ => .bind .expect fun _ => .bind (ih.textFilter _) fun _ => .pure
  · split
    · exact .bind .advance fun _ => .bind .expect fun _ =>
        .bind (ih.elementFilter _) fun _ => .pure
    · exact .pure

/-- The calls of a text filter, one step of fuel further. -/
theorem textFilter_succ (ih : ArgumentsConsume fuel) (f : TextFilter) :
    Consumes (readTextFilter (fuel + 1) f) := by
  unfold readTextFilter
  refine .bind .accept fun more => ?_
  split
  · exact .bind .position fun p => .bind .identifier fun method => .bind .expect fun _ =>
      .bind (ih.arguments _) fun args => .bind .calling fun f => ih.textFilter f
  · exact .pure

/-- The calls of an element filter, one step of fuel further. -/
theorem elementFilter_succ (ih : ArgumentsConsume fuel) (f : ElementFilter) :
    Consumes (readElementFilter (fuel + 1) f) := by
  unfold readElementFilter
  refine .bind .accept fun more => ?_
  split
  · exact .bind .position fun p => .bind .identifier fun method => .bind .expect fun _ =>
      .bind (ih.arguments _) fun args => .bind .calling fun f => ih.elementFilter f
  · exact .pure

end ArgumentsConsume

/-- **The readers of arguments consume**, by induction on the fuel. -/
theorem argumentsConsume [Libraries] (fuel : Nat) : ArgumentsConsume fuel := by
  induction fuel with
  | zero => exact .zero
  | succ fuel ih =>
      exact ⟨ih.arguments_succ, ih.argument_succ, ih.value_succ, ih.word_succ, ih.textFilter_succ,
        ih.elementFilter_succ⟩

/-! ## chains -/

/-- The calls of a chain are read as long as a dot follows. -/
theorem readCalls_consumes [Libraries] {fuel : Nat} {chain : OpenChain} :
    Consumes (readCalls fuel chain) := by
  induction fuel generalizing chain with
  | zero => exact .unexpected
  | succ fuel ih =>
      unfold readCalls
      refine .bind .accept fun more => ?_
      split
      · exact .bind .position fun p => .bind .identifier fun method => .bind .expect fun _ =>
          .bind ((argumentsConsume fuel).arguments _) fun args => .bind .calling fun chain => ih
      · exact .pure

theorem readChain_consumes [Libraries] {fuel : Nat} : Consumes (readChain fuel) := by
  unfold readChain
  refine .bind .position fun p => .bind .identifier fun word => ?_
  split
  · exact .invalid
  · refine .bind .expect fun _ => .bind .expect fun _ => .bind readCalls_consumes fun chain => ?_
    split
    · exact .pure
    · exact .pure
    · exact .invalid

/-! ## shapes -/

/-- A docstring may be missing. -/
theorem readDocstring_consumes : Consumes readDocstring := by
  unfold readDocstring
  refine .bind .current fun token => ?_
  split
  · exact .bind .advance fun _ => .pure
  · exact .pure

theorem readNullable_consumes {base : JsonFieldType} {p : Position} :
    Consumes (readNullable base p) := by
  unfold readNullable
  refine .bind .accept fun nullable => ?_
  split
  · refine .bind .expect fun _ => ?_
    split
    · exact .pure
    · exact .invalid
  · exact .pure

/-- A type is a word, a list of a type, or one of these that may be null. -/
theorem readType_consumes {fuel : Nat} : Consumes (readType fuel) := by
  induction fuel with
  | zero => exact .unexpected
  | succ fuel ih =>
      unfold readType
      refine .bind .position fun p => .bind .current fun token => ?_
      split
      · exact .bind .advance fun _ => readNullable_consumes
      · refine .bind .advance fun _ => ?_
        split
        · refine .bind .expect fun _ => .bind ih fun item => ?_
          split
          · exact .invalid
          · exact .bind .expect fun _ => readNullable_consumes
        · exact readNullable_consumes
      · exact .unexpected

theorem readKey_consumes : Consumes readKey := by
  unfold readKey
  refine .bind .current fun token => ?_
  split
  · exact .bind .advance fun _ => .pure
  · exact .unexpected

/-- The fields of a shape are read up to its closing brace. -/
theorem readFields_consumes {fuel : Nat} {shape : JsonShape} :
    Consumes (readFields fuel shape) := by
  induction fuel generalizing shape with
  | zero => exact .unexpected
  | succ fuel ih =>
      unfold readFields
      refine .bind .accept fun closes => ?_
      split
      · exact .pure
      · refine .bind .position fun p => .bind readKey_consumes fun key => ?_
        dsimp only
        split
        · exact .invalid_bind
        · exact .bind .expect fun _ => .bind readType_consumes fun type => .bind .accept fun _ => ih

theorem readShape_consumes {fuel : Nat} : Consumes (readShape fuel) :=
  .bind .expect fun _ => .bind .identifier fun _ => .bind .accept fun _ => .bind .expect fun _ =>
    readFields_consumes

/-! ## schemas -/

/-- The parents of a schema are names with commas between them. -/
theorem readParents_consumes {fuel : Nat} : Consumes (readParents fuel) := by
  induction fuel with
  | zero => exact .pure
  | succ fuel ih =>
      unfold readParents
      refine .bind .accept fun more => ?_
      split
      · exact .bind .identifier fun name => .bind ih fun _ => .pure
      · exact .pure

theorem readExcluded_consumes {fuel : Nat} : Consumes (readExcluded fuel) := by
  unfold readExcluded
  refine .bind .position fun p => .bind (literalsConsume fuel).literal fun value => ?_
  split
  · split
    · exact .pure
    · exact .invalid
  · exact .invalid

/-- A member is a hook or a field with its chain. -/
theorem readMember_consumes [Libraries] {fuel : Nat} {schema : Schema} :
    Consumes (readMember fuel schema) := by
  unfold readMember
  refine .bind .position fun p => .bind .identifier fun name => ?_
  dsimp only
  split
  · exact .invalid_bind
  · refine .bind .expect fun _ => ?_
    split
    · exact .bind (literalsConsume fuel).literal fun _ => .pure
    · split
      · exact .bind readExcluded_consumes fun _ => .pure
      · refine .bind .accept fun masks => ?_
        split
        · exact .pure
        · exact .bind readChain_consumes fun _ => .pure

/-- Adding a declaration reads nothing. -/
theorem adding_consumes {p : Position} {result : Except AssembleError Module} :
    Consumes (adding p result) := by
  cases result with
  | ok m => exact .pure
  | error e => exact .fail

end Extractor.Declaration
