import Extractor.Proofs.BareChain
import Extractor.Proofs.ShapeText

/-!
# Extractor.Proofs.Replay

A reader sees the tokens that it takes and the one behind them, and nothing
else: neither their places nor what follows matters, nor how much of its bound is
left. What a reader has made of some tokens it makes of them again, in any other
source and with a larger bound (`Repeats`); a reader that ends with a closing
brace does not even look at the token behind. None of the tokens inside a
declaration is taken for the heading of another one (`Silent`).
-/

namespace Extractor.Declaration

open Outcome

/-! ## headings -/

/-- The start of a declaration: which sort it is of, and the name that it declares. -/
inductive Heading where
  | schema (name : String)
  | shape (name : String)
  deriving DecidableEq, Repr, Inhabited

/-- The name that is declared. -/
def Heading.name : Heading → String
  | schema name | shape name => name

/-- The headings among some tokens: names right behind the words that introduce declarations. -/
def headings : List Token → List Heading
  | [] => []
  | .keyword .schema :: .identifier name :: rest => .schema name :: headings rest
  | .keyword .json :: .identifier name :: rest => .shape name :: headings rest
  | _ :: rest => headings rest

/-- Whether the token introduces a declaration. -/
def introduces : Token → Bool
  | .keyword .schema | .keyword .json => true
  | _ => false

/-- A token that introduces nothing adds no heading. -/
theorem headings_cons {t : Token} (ht : introduces t = false) (rest : List Token) :
    headings (t :: rest) = headings rest := by
  have hintroduces : ∀ word, t = .keyword word → word ≠ .schema ∧ word ≠ .json := by
    rintro word rfl
    cases word <;> simp_all [introduces]
  refine headings.eq_4 t rest ?_ ?_
  · exact fun _ _ hschema _ => (hintroduces _ hschema).1 rfl
  · exact fun _ _ hjson _ => (hintroduces _ hjson).2 rfl

/-- Whether the token may stand inside a declaration. -/
def isInside : Token → Bool
  | .endOfInput => false
  | t => !introduces t

theorem ne_endOfInput_of_isInside {t : Token} (ht : isInside t = true) : t ≠ .endOfInput := by
  rintro rfl
  cases ht

/-- What may stand inside a declaration introduces none. -/
theorem introduces_of_isInside {t : Token} (ht : isInside t = true) : introduces t = false := by
  cases t <;> simp_all [isInside]

/-- There is no heading among the tokens, nor one that starts with the last of them. -/
def Silent (tokens : List Token) : Prop := ∀ rest, headings (tokens ++ rest) = headings rest

theorem Silent.nil : Silent [] := fun _ => rfl

theorem Silent.singleton {t : Token} (ht : introduces t = false) : Silent [t] :=
  headings_cons ht

theorem Silent.append {tokens others : List Token} (h : Silent tokens) (hothers : Silent others) :
    Silent (tokens ++ others) := by
  intro rest
  rw [List.append_assoc, h, hothers]

/-! ## readers that repeat what they did -/

section Repeats

variable {α β : Type} {sight : Token → Token → Prop} {start : Token → Prop} {x y : Reading α}
  {f g : α → Reading β} {t : Token} {a : α}

/-- The tokens go on to the end of input, unless the text behind them could not be cut. -/
def Closed (failure : Option LexError) (lexemes : List Lexeme) : Prop :=
  failure = none → ∃ front p, lexemes = front ++ [⟨.endOfInput, p⟩]

/-- What is left of a closed text is closed. -/
theorem Closed.of_append {failure : Option LexError} {front back : List Lexeme} {next : Lexeme}
    (h : Closed failure (front ++ next :: back)) : Closed failure (next :: back) := by
  intro hfailure
  obtain ⟨whole, p, hwhole⟩ := h hfailure
  have hlast : (next :: back).getLast? = some ⟨.endOfInput, p⟩ := by
    simpa using congrArg List.getLast? hwhole
  obtain ⟨init, hinit⟩ := List.getLast?_eq_some_iff.mp hlast
  exact ⟨init, p, hinit⟩

/-- Something comes behind each token but the end of input. -/
theorem Closed.advance {failure : Option LexError} {l : Lexeme} {ls : List Lexeme} {u : Lexed}
    (hclosed : Closed failure (l :: ls)) (hl : l.token ≠ .endOfInput)
    (h : Reading.advance ⟨l :: ls, failure⟩ = .ok ((), u)) :
    ∃ next back, ls = next :: back ∧ u = ⟨next :: back, failure⟩ := by
  cases ls with
  | cons next back =>
      cases h
      exact ⟨next, back, rfl, rfl⟩
  | nil =>
      cases failure with
      | some e => contradiction
      | none =>
          obtain ⟨front, p, hp⟩ := hclosed rfl
          have hlast : l = ⟨.endOfInput, p⟩ := by simpa using congrArg List.getLast? hp
          exact absurd (congrArg Lexeme.token hlast) hl

/-- The reader has looked at the token that comes next. -/
def Seen (next t : Token) : Prop := t = next

/-- The reader has not looked at the token that comes next. -/
def Unseen (_ _ : Token) : Prop := True

/-- The first reader takes some tokens from the front, and the second one takes the same tokens
wherever they stand, with the same result, if the token that comes next looks the same. Without any
token taken that one has been looked at. The first reader starts at a token with the given
property. -/
def Repeats (sight : Token → Token → Prop) (start : Token → Prop) (x y : Reading α) : Prop :=
  ∀ l ls failure, Closed failure (l :: ls) → start l.token →
    ∀ a u, x ⟨l :: ls, failure⟩ = .ok (a, u) →
      ∃ front next back, l :: ls = front ++ next :: back ∧ u = ⟨next :: back, failure⟩ ∧
        (front = [] → ∀ t, sight next.token t → t = next.token) ∧
        Silent (front.map Lexeme.token) ∧
        Takes y (front.map Lexeme.token) a (sight next.token)

/-- Where a reader starts, the first of the tokens that it takes stands, or else the one behind. -/
theorem headD_tokens {l next : Lexeme} {ls front back : List Lexeme}
    (h : l :: ls = front ++ next :: back)
    (hlooked : front = [] → ∀ t, sight next.token t → t = next.token)
    (ht : sight next.token t) : (front.map Lexeme.token).headD t = l.token := by
  cases front with
  | nil =>
      cases h
      exact hlooked rfl t ht
  | cons =>
      cases h
      rfl

namespace Repeats

/-- Nothing is asked of readers that fail. -/
theorem fail {e : ParseError} : Repeats sight start (throw e) y := by
  intro l ls failure _ _ b u h
  cases h

theorem unexpected {e : Expectation} : Repeats sight start (Reading.unexpected e) y := by
  intro l ls failure _ _ b u h
  cases h

theorem invalid {fault : Fault} {p : Position} : Repeats sight start (Reading.invalid fault p) y :=
  fail

theorem invalid_bind {fault : Fault} {p : Position} {y : Reading β} :
    Repeats sight start (Reading.invalid fault p >>= f) y := by
  intro l ls failure _ _ b u h
  cases h

/-- A reader that repeats whatever is in front repeats what starts as agreed. -/
theorem weaken (h : Repeats sight Anything x y) : Repeats sight start x y :=
  fun l ls failure hclosed _ => h l ls failure hclosed trivial

theorem pure : Repeats Seen start (pure a) (pure a) := by
  intro l ls failure _ _ b u h
  cases h
  exact ⟨[], l, ls, rfl, rfl, fun _ _ => id, .nil, .pure⟩

/-- Readers one behind the other repeat themselves, if the second does on what the first left. -/
theorem bind (hx : Repeats Seen start x y) (hf : ∀ a, Repeats sight Anything (f a) (g a)) :
    Repeats sight start (x >>= f) (y >>= g) := by
  intro l ls failure hclosed hstart b u h
  obtain ⟨a, v, ha, hb⟩ := run_bind.mp h
  obtain ⟨front, l', ls', heq, rfl, -, hsilent, htakes⟩ := hx l ls failure hclosed hstart a v ha
  rw [heq] at hclosed
  obtain ⟨front', next, back, heq', rfl, hlooked, hsilent', htakes'⟩ :=
    hf a l' ls' failure hclosed.of_append trivial b u hb
  refine ⟨front ++ front', next, back, by rw [heq, heq', List.append_assoc], rfl, ?_, ?_, ?_⟩
  · intro hempty
    exact hlooked (List.append_eq_nil_iff.mp hempty).2
  · rw [List.map_append]
    exact hsilent.append hsilent'
  · rw [List.map_append]
    exact htakes.bind htakes' fun t ht => headD_tokens heq' hlooked ht

/-- What is done with the result does not matter. -/
theorem map {h : α → β} (hx : Repeats sight start x y) :
    Repeats sight start (x >>= fun a => Pure.pure (h a)) (y >>= fun a => Pure.pure (h a)) := by
  intro l ls failure hclosed hstart b u hrun
  obtain ⟨a, v, ha, hb⟩ := run_bind.mp hrun
  cases hb
  obtain ⟨front, next, back, heq, hv, hlooked, hsilent, htakes⟩ :=
    hx l ls failure hclosed hstart a u ha
  exact ⟨front, next, back, heq, hv, hlooked, hsilent, htakes.bind_nil .pure⟩

/-- What is left fixes what was taken, whichever reader takes it again. -/
theorem all {ι : Type} [Nonempty ι] {y : ι → Reading α} (h : ∀ i, Repeats sight start x (y i))
    {l : Lexeme} {ls : List Lexeme} {failure : Option LexError} {u : Lexed}
    (hclosed : Closed failure (l :: ls)) (hstart : start l.token)
    (hrun : x ⟨l :: ls, failure⟩ = .ok (a, u)) :
    ∃ front next back, l :: ls = front ++ next :: back ∧ u = ⟨next :: back, failure⟩ ∧
      (front = [] → ∀ t, sight next.token t → t = next.token) ∧
      Silent (front.map Lexeme.token) ∧
      ∀ i, Takes (y i) (front.map Lexeme.token) a (sight next.token) := by
  have hparts := fun i => h i l ls failure hclosed hstart a u hrun
  obtain ⟨front, next, back, heq, rfl, hlooked, hsilent, -⟩ := hparts (Classical.arbitrary ι)
  refine ⟨front, next, back, heq, rfl, hlooked, hsilent, fun i => ?_⟩
  obtain ⟨front', next', back', heq', hu, -, -, htakes⟩ := hparts i
  cases hu
  rwa [List.append_cancel_right (heq.symm.trans heq')]

/-- The place of the current token makes no difference. -/
theorem position {f g : Position → Reading β} (h : ∀ p q, Repeats sight start (f p) (g q)) :
    Repeats sight start (Reading.position >>= f) (Reading.position >>= g) := by
  intro l ls failure hclosed hstart b u hrun
  have : Nonempty Position := ⟨.start⟩
  obtain ⟨front, next, back, heq, hu, hlooked, hsilent, htakes⟩ :=
    all (h l.position) hclosed hstart hrun
  exact ⟨front, next, back, heq, hu, hlooked, hsilent, .position_bind htakes⟩

/-- Both readers see the same token in front. -/
theorem current {f g : Token → Reading β} (h : ∀ t, start t → Repeats sight (· = t) (f t) (g t)) :
    Repeats sight start (Reading.current >>= f) (Reading.current >>= g) := by
  intro l ls failure hclosed hstart b u hrun
  obtain ⟨front, next, back, heq, rfl, hlooked, hsilent, htakes⟩ :=
    h l.token hstart l ls failure hclosed rfl b u hrun
  refine ⟨front, next, back, heq, rfl, hlooked, hsilent, ?_⟩
  cases front with
  | nil =>
      cases heq
      exact .current_bind_nil fun t ht => hlooked rfl t ht ▸ htakes
  | cons =>
      cases heq
      exact .current_bind htakes

/-- Both readers find the token in front, or both do not. -/
theorem isAt {f g : Bool → Reading β} (htrue : Repeats sight (· = t) (f true) (g true))
    (hfalse : Repeats sight (· ≠ t) (f false) (g false)) :
    Repeats sight start (Reading.isAt t >>= f) (Reading.isAt t >>= g) := by
  have hsplit : Repeats sight start (Reading.current >>= fun u => f (decide (u = t)))
      (Reading.current >>= fun u => g (decide (u = t))) := by
    refine .current fun u _ => ?_
    by_cases hu : u = t
    · subst hu
      simpa using htrue
    · simp only [hu, decide_false]
      exact fun l ls failure hclosed hl => hfalse l ls failure hclosed (hl ▸ hu)
  exact hsplit

theorem looking : Repeats Seen start (Reading.isAt t) (Reading.isAt t) := .current fun _ _ => .pure

/-- Moving on from a token inside a declaration. -/
theorem advance (ht : isInside t = true) :
    Repeats sight (· = t) Reading.advance Reading.advance := by
  rintro l ls failure hclosed rfl a u h
  obtain ⟨next, back, rfl, rfl⟩ := hclosed.advance (ne_endOfInput_of_isInside ht) h
  exact ⟨[l], next, back, rfl, rfl, by simp, .singleton (introduces_of_isInside ht), .advance⟩

/-- An expected token is taken in both texts. -/
theorem expect (ht : isInside t = true) :
    Repeats sight start (Reading.expect t) (Reading.expect t) :=
  .isAt (.advance ht) .unexpected

theorem accept (ht : isInside t = true) :
    Repeats Seen start (Reading.accept t) (Reading.accept t) :=
  .isAt (.map (.advance ht)) .pure

/-- A reader that ends with a closing token and otherwise goes on. -/
theorem closing {z w : Reading α} (ht : isInside t = true) (hz : Repeats sight Anything z w) :
    Repeats sight start (Reading.accept t >>= fun closes => if closes then Pure.pure a else z)
      (Reading.accept t >>= fun closes => if closes then Pure.pure a else w) := by
  have hsplit : ∀ z : Reading α,
      (Reading.accept t >>= fun closes => if closes then Pure.pure a else z) =
        Reading.isAt t >>= fun closes =>
          if closes then Reading.advance >>= fun _ => Pure.pure a else z := by
    intro z
    rw [Reading.accept, bind_assoc]
    refine congrArg _ (funext fun closes => ?_)
    cases closes <;> simp
  rw [hsplit, hsplit]
  exact .isAt (.map (.advance ht)) hz.weaken

/-- A name is taken in both texts. -/
theorem identifier : Repeats sight start Reading.identifier Reading.identifier := by
  refine .current fun token _ => ?_
  split
  · exact .map (.advance rfl)
  · exact .unexpected

/-- Calling a method does not depend on the place of the call. -/
theorem calling {p q : Position} {result : Except CallError α} :
    Repeats Seen start (Reading.calling p result) (Reading.calling q result) := by
  cases result with
  | ok value => exact .pure
  | error e => exact .fail

end Repeats

end Repeats

section Readers

variable {start : Token → Prop} {fuel fuel' : Nat}

/-! ## literals -/

/-- The readers of the grammar repeat what they did, one lemma for each. -/
theorem readNegative_repeats : Repeats Seen start readNegative readNegative := by
  unfold readNegative
  refine .current fun token _ => ?_
  split
  · exact .map (.advance rfl)
  · exact .map (.advance rfl)
  · exact .unexpected

/-- The readers of literals repeat what they did within a larger bound. -/
structure LiteralsRepeat (fuel fuel' : Nat) : Prop where
  literal : Repeats Seen Anything (readLiteral fuel) (readLiteral fuel')
  items : Repeats Seen Anything (readItems fuel) (readItems fuel')
  entries : Repeats Seen Anything (readEntries fuel) (readEntries fuel')

namespace LiteralsRepeat

/-- A literal, one step of fuel further. -/
theorem literal_succ (ih : LiteralsRepeat fuel fuel') :
    Repeats Seen Anything (readLiteral (fuel + 1)) (readLiteral (fuel' + 1)) := by
  unfold readLiteral
  refine .current fun token _ => ?_
  split
  · exact .bind (.advance rfl) fun _ => .map ih.items
  · exact .bind (.advance rfl) fun _ => .map ih.entries
  · exact .bind (.advance rfl) fun _ => readNegative_repeats
  on_goal -1 => exact .unexpected
  all_goals exact .map (.advance rfl)

/-- The items of a list, one step of fuel further. -/
theorem items_succ (ih : LiteralsRepeat fuel fuel') :
    Repeats Seen Anything (readItems (fuel + 1)) (readItems (fuel' + 1)) := by
  unfold readItems
  refine .closing rfl (.bind ih.literal fun item => .bind .looking fun last => ?_)
  dsimp only
  split
  · exact .map ih.items
  · exact .bind (.expect rfl) fun _ => .map ih.items

/-- The entries of a map, one step of fuel further. -/
theorem entries_succ (ih : LiteralsRepeat fuel fuel') :
    Repeats Seen Anything (readEntries (fuel + 1)) (readEntries (fuel' + 1)) := by
  unfold readEntries
  refine .closing rfl (.current fun token _ => ?_)
  split
  · refine .bind (.advance rfl) fun _ => .bind (.expect rfl) fun _ => ?_
    refine .bind ih.literal fun value => .bind .looking fun last => ?_
    dsimp only
    split
    · exact .map ih.entries
    · exact .bind (.expect rfl) fun _ => .map ih.entries
  · exact .unexpected

end LiteralsRepeat

/-- **The readers of literals repeat what they did**, with more fuel as well. -/
theorem literalsRepeat (hfuel : fuel ≤ fuel') : LiteralsRepeat fuel fuel' := by
  induction fuel generalizing fuel' with
  | zero => exact ⟨.unexpected, .unexpected, .unexpected⟩
  | succ fuel ih =>
      obtain ⟨fuel', rfl⟩ := Nat.exists_eq_add_of_lt hfuel
      have ih := ih (Nat.le_add_right fuel fuel')
      exact ⟨ih.literal_succ, ih.items_succ, ih.entries_succ⟩

/-! ## arguments -/

/-- Adding an argument does not depend on its place but for the error. -/
theorem addPositional_repeats {args : Arguments} {value : Argument} {p q : Position} :
    Repeats Seen start (addPositional args value p) (addPositional args value q) := by
  unfold addPositional
  split
  · exact .pure
  · exact .invalid

theorem addKeyword_repeats {args : Arguments} {name : String} {value : Argument} {p q : Position} :
    Repeats Seen start (addKeyword args name value p) (addKeyword args name value q) := by
  unfold addKeyword
  split
  · exact .invalid
  · exact .pure

/-- The readers of arguments repeat what they did within a larger bound. -/
structure ArgumentsRepeat [Libraries] (fuel fuel' : Nat) : Prop where
  arguments : ∀ args, Repeats Seen Anything (readArguments fuel args) (readArguments fuel' args)
  argument : ∀ args p q,
    Repeats Seen Anything (readArgument fuel args p) (readArgument fuel' args q)
  value : Repeats Seen Anything (readValue fuel) (readValue fuel')
  word : ∀ name, Repeats Seen Anything (readWord fuel name) (readWord fuel' name)
  textFilter : ∀ f, Repeats Seen Anything (readTextFilter fuel f) (readTextFilter fuel' f)
  elementFilter : ∀ f, Repeats Seen Anything (readElementFilter fuel f) (readElementFilter fuel' f)

namespace ArgumentsRepeat

variable [Libraries]

/-- Without fuel the readers of arguments fail. -/
theorem zero : ArgumentsRepeat 0 fuel' := by
  constructor
  all_goals
    intros
    exact .unexpected

/-- The arguments of a call, one step of fuel further. -/
theorem arguments_succ (ih : ArgumentsRepeat fuel fuel') (args : Arguments) :
    Repeats Seen Anything (readArguments (fuel + 1) args) (readArguments (fuel' + 1) args) := by
  unfold readArguments
  refine .isAt (.map (.advance rfl)) (.position fun p q => ?_)
  refine .bind (ih.argument args p q).weaken fun args => .bind (.accept rfl) fun more => ?_
  split
  · exact ih.arguments args
  · exact .map (.expect rfl)

/-- One argument, with or without its name; the second token tells which. -/
theorem argument_succ (ih : ArgumentsRepeat fuel fuel') (hfuel : fuel ≤ fuel') (args : Arguments)
    (p q : Position) :
    Repeats Seen Anything (readArgument (fuel + 1) args p) (readArgument (fuel' + 1) args q) := by
  unfold readArgument
  refine .current fun token _ => ?_
  split
  · refine .bind (.advance rfl) fun _ => .bind (.accept rfl) fun named => ?_
    split
    · exact .bind ih.value fun value => addKeyword_repeats
    · exact .bind (ih.word _) fun value => addPositional_repeats
  · exact .bind (literalsRepeat hfuel).literal.weaken fun value => addPositional_repeats

/-- A value is a literal or starts with a word. -/
theorem value_succ (ih : ArgumentsRepeat fuel fuel') (hfuel : fuel ≤ fuel') :
    Repeats Seen Anything (readValue (fuel + 1)) (readValue (fuel' + 1)) := by
  unfold readValue
  refine .current fun token _ => ?_
  split
  · exact .bind (.advance rfl) fun _ => ih.word _
  · exact .map (literalsRepeat hfuel).literal.weaken

/-- What a word stands for does not depend on the text around it. -/
theorem word_succ (ih : ArgumentsRepeat fuel fuel') (name : String) :
    Repeats Seen Anything (readWord (fuel + 1) name) (readWord (fuel' + 1) name) := by
  unfold readWord
  refine .isAt ?_ ?_
  · split
    · refine .bind (.advance rfl) fun _ => .bind (.expect rfl) fun _ => ?_
      exact .map (ih.textFilter _)
    · split
      · refine .bind (.advance rfl) fun _ => .bind (.expect rfl) fun _ => ?_
        exact .map (ih.elementFilter _)
      · exact .pure
  · simp only [Bool.and_false, Bool.false_eq_true, if_false]
    exact .pure

theorem textFilter_succ (ih : ArgumentsRepeat fuel fuel') (f : TextFilter) :
    Repeats Seen Anything (readTextFilter (fuel + 1) f) (readTextFilter (fuel' + 1) f) := by
  unfold readTextFilter
  refine .bind (.accept rfl) fun more => ?_
  split
  · refine .position fun p q => .bind .identifier fun method => ?_
    refine .bind (.expect rfl) fun _ => .bind (ih.arguments _) fun args => ?_
    exact .bind .calling fun f => ih.textFilter f
  · exact .pure

theorem elementFilter_succ (ih : ArgumentsRepeat fuel fuel') (f : ElementFilter) :
    Repeats Seen Anything (readElementFilter (fuel + 1) f) (readElementFilter (fuel' + 1) f) := by
  unfold readElementFilter
  refine .bind (.accept rfl) fun more => ?_
  split
  · refine .position fun p q => .bind .identifier fun method => ?_
    refine .bind (.expect rfl) fun _ => .bind (ih.arguments _) fun args => ?_
    exact .bind .calling fun f => ih.elementFilter f
  · exact .pure

end ArgumentsRepeat

/-- **The readers of arguments repeat what they did**, with more fuel as well. -/
theorem argumentsRepeat [Libraries] (hfuel : fuel ≤ fuel') : ArgumentsRepeat fuel fuel' := by
  induction fuel generalizing fuel' with
  | zero => exact .zero
  | succ fuel ih =>
      obtain ⟨fuel', rfl⟩ := Nat.exists_eq_add_of_lt hfuel
      have hfuel := Nat.le_add_right fuel fuel'
      have ih := ih hfuel
      exact ⟨ih.arguments_succ, ih.argument_succ hfuel, ih.value_succ hfuel, ih.word_succ,
        ih.textFilter_succ, ih.elementFilter_succ⟩

/-! ## chains -/

/-- The calls of a chain end at the token behind the last one, which is seen. -/
theorem readCalls_repeats [Libraries] (hfuel : fuel ≤ fuel') {chain : OpenChain} :
    Repeats Seen Anything (readCalls fuel chain) (readCalls fuel' chain) := by
  induction fuel generalizing fuel' chain with
  | zero => exact .unexpected
  | succ fuel ih =>
      obtain ⟨fuel', rfl⟩ := Nat.exists_eq_add_of_lt hfuel
      have hfuel := Nat.le_add_right fuel fuel'
      unfold readCalls
      refine .bind (.accept rfl) fun more => ?_
      split
      · refine .position fun p q => .bind .identifier fun method => ?_
        refine .bind (.expect rfl) fun _ => ?_
        refine .bind ((argumentsRepeat hfuel).arguments _) fun args => ?_
        exact .bind .calling fun chain => ih hfuel
      · exact .pure

theorem readChain_repeats [Libraries] (hfuel : fuel ≤ fuel') :
    Repeats Seen start (readChain fuel) (readChain fuel') := by
  unfold readChain
  refine .position fun p q => .bind .identifier fun word => ?_
  split
  · exact .invalid
  · refine .bind (.expect rfl) fun _ => .bind (.expect rfl) fun _ => ?_
    refine .bind (readCalls_repeats hfuel) fun chain => ?_
    split
    · exact .pure
    · exact .pure
    · exact .invalid

/-! ## shapes -/

theorem readDocstring_repeats : Repeats Seen start readDocstring readDocstring := by
  unfold readDocstring
  refine .current fun token _ => ?_
  split
  · exact .map (.advance rfl)
  · exact .pure

theorem readNullable_repeats {base : JsonFieldType} {p q : Position} :
    Repeats Seen start (readNullable base p) (readNullable base q) := by
  unfold readNullable
  refine .bind (.accept rfl) fun nullable => ?_
  split
  · refine .bind (.expect rfl) fun _ => ?_
    split
    · exact .pure
    · exact .invalid
  · exact .pure

theorem readType_repeats (hfuel : fuel ≤ fuel') :
    Repeats Seen Anything (readType fuel) (readType fuel') := by
  induction fuel generalizing fuel' with
  | zero => exact .unexpected
  | succ fuel ih =>
      obtain ⟨fuel', rfl⟩ := Nat.exists_eq_add_of_lt hfuel
      unfold readType
      refine .position fun p q => .current fun token _ => ?_
      split
      · exact .bind (.advance rfl) fun _ => readNullable_repeats
      · refine .bind (.advance rfl) fun _ => ?_
        split
        · refine .bind (.expect rfl) fun _ => ?_
          refine .bind (ih (Nat.le_add_right fuel fuel')) fun item => ?_
          split
          · exact .invalid
          · exact .bind (.expect rfl) fun _ => readNullable_repeats
        · exact readNullable_repeats
      · exact .unexpected

/-- A token in front of a colon is no heading. -/
theorem headings_colon (t : Token) (rest : List Token) :
    headings (t :: .colon :: rest) = headings rest := by
  rw [headings.eq_4 t (.colon :: rest) nofun nofun, headings_cons rfl]

/-- The key of a field may be a word that introduces declarations, but then a colon follows. -/
theorem readKey_repeats {α : Type} {f g : String → Reading α}
    (h : ∀ key, Repeats Unseen Anything (f key) (g key))
    (hcolon : ∀ key s b u, f key s = .ok (b, u) → Shows s .colon) :
    Repeats Unseen start (readKey >>= f) (readKey >>= g) := by
  intro l ls failure hclosed hstart b u hrun
  obtain ⟨key, v, hread, hb⟩ := run_bind.mp hrun
  unfold readKey at hread
  obtain ⟨token, w, hcurrent, hread⟩ := run_bind.mp hread
  obtain ⟨rfl, htoken⟩ := current_eq_ok hcurrent
  obtain rfl : l.token = token := htoken
  cases hkey : keyOf? l.token with
  | none =>
      rw [hkey] at hread
      contradiction
  | some word =>
      rw [hkey] at hread
      obtain ⟨_, v, hadvance, hpure⟩ := run_bind.mp hread
      cases hpure
      have hend : l.token ≠ .endOfInput := fun hl => by simp [hl, keyOf?] at hkey
      obtain ⟨l', ls, rfl, rfl⟩ := hclosed.advance hend hadvance
      have hnext : l'.token = .colon := Option.some.inj (hcolon key _ b u hb)
      have hrest : Closed failure ([l] ++ l' :: ls) := hclosed
      obtain ⟨front, next, back, heq, rfl, hlooked, hsilent, htakes⟩ :=
        h key l' ls failure hrest.of_append trivial b u hb
      cases front with
      | nil =>
          cases heq
          have hdot : Token.dot = l'.token := hlooked rfl .dot trivial
          rw [hnext] at hdot
          contradiction
      | cons _ front =>
          cases heq
          refine ⟨l :: l' :: front, next, back, rfl, rfl, by simp, fun rest => ?_, ?_⟩
          · have hcolons := hsilent rest
            simp only [List.map_cons, List.cons_append, hnext] at hcolons ⊢
            rw [headings_colon, ← hcolons, headings_cons rfl]
          · exact (JsonShape.takes_readKey hkey).seq htakes

/-- The fields of a shape are read up to its brace, behind which nothing is seen. -/
theorem readFields_repeats (hfuel : fuel ≤ fuel') {shape : JsonShape} :
    Repeats Unseen Anything (readFields fuel shape) (readFields fuel' shape) := by
  induction fuel generalizing fuel' shape with
  | zero => exact .unexpected
  | succ fuel ih =>
      obtain ⟨fuel', rfl⟩ := Nat.exists_eq_add_of_lt hfuel
      have hfuel := Nat.le_add_right fuel fuel'
      unfold readFields
      refine .closing rfl (.position fun p q => readKey_repeats (fun key => ?_) ?_)
      · dsimp only
        split
        · exact .invalid_bind
        · refine .bind (.expect rfl) fun _ => .bind (readType_repeats hfuel) fun type => ?_
          exact .bind (.accept rfl) fun _ => ih hfuel
      · intro key s b u hrun
        dsimp only at hrun
        split at hrun
        · contradiction
        · obtain ⟨_, v, hexpect, -⟩ := run_bind.mp hrun
          exact (expect_eq_ok hexpect (by simp)).1

/-! ## schemas -/

theorem takes_readParents_nil : Takes (readParents fuel) [] [] (· ≠ .comma) := by
  cases fuel with
  | zero => exact .pure
  | succ fuel => exact Takes.not_accept.bind_nil .pure

/-- The parents are read one by one, whatever is done with them. -/
theorem readParents_bind {α : Type} {f : List String → Reading α} :
    readParents (fuel + 1) >>= f = Reading.accept .comma >>= fun more =>
      if more then
        Reading.identifier >>= fun name => readParents fuel >>= fun names => f (name :: names)
      else f [] := by
  rw [readParents, bind_assoc]
  refine congrArg _ (funext fun more => ?_)
  cases more <;> simp

/-- A bound that is met stops the names of parents at a comma, where nothing else goes on. -/
theorem readParents_repeats {α : Type} {f g : List String → Reading α} (hfuel : fuel ≤ fuel')
    (h : ∀ names, Repeats Unseen Anything (f names) (g names))
    (hcomma : ∀ names s b u, f names s = .ok (b, u) → ¬Shows s .comma) :
    Repeats Unseen Anything (readParents fuel >>= f) (readParents fuel' >>= g) := by
  induction fuel generalizing fuel' f g with
  | zero =>
      intro l ls failure hclosed _ b u hrun
      have hl : l.token ≠ .comma := fun hl => hcomma [] _ b u hrun (congrArg some hl)
      obtain ⟨front, next, back, heq, hu, hlooked, hsilent, htakes⟩ :=
        h [] l ls failure hclosed trivial b u hrun
      refine ⟨front, next, back, heq, hu, hlooked, hsilent, ?_⟩
      refine takes_readParents_nil.bind htakes fun t ht => ?_
      rwa [headD_tokens heq hlooked ht]
  | succ fuel ih =>
      obtain ⟨fuel', rfl⟩ := Nat.exists_eq_add_of_lt hfuel
      rw [readParents_bind, readParents_bind]
      refine .bind (.accept rfl) fun more => ?_
      split
      · refine .bind .identifier fun name => ih (Nat.le_add_right fuel fuel') ?_ ?_
        · exact fun names => h (name :: names)
        · exact fun names => hcomma (name :: names)
      · exact h []

/-- The names that are left out are read up to the bracket. -/
theorem readExcluded_repeats (hfuel : fuel ≤ fuel') :
    Repeats Seen Anything (readExcluded fuel) (readExcluded fuel') := by
  unfold readExcluded
  refine .position fun p q => .bind (literalsRepeat hfuel).literal fun value => ?_
  split
  · split
    · exact .pure
    · exact .invalid
  · exact .invalid

/-- A member ends at the token behind it, which is seen. -/
theorem readMember_repeats [Libraries] (hfuel : fuel ≤ fuel') {schema : Schema} :
    Repeats Seen Anything (readMember fuel schema) (readMember fuel' schema) := by
  unfold readMember
  refine .position fun p q => .bind .identifier fun name => ?_
  dsimp only
  split
  · exact .invalid_bind
  · refine .bind (.expect rfl) fun _ => ?_
    split
    · exact .map (literalsRepeat hfuel).literal
    · split
      · exact .map (readExcluded_repeats hfuel)
      · refine .bind (.accept rfl) fun masks => ?_
        split
        · exact .pure
        · exact .map (readChain_repeats hfuel)

/-- The members of a schema are read up to its brace, behind which nothing is seen. -/
theorem readMembers_repeats [Libraries] (hfuel : fuel ≤ fuel') {schema : Schema} :
    Repeats Unseen Anything (readMembers fuel schema) (readMembers fuel' schema) := by
  induction fuel generalizing fuel' schema with
  | zero => exact .unexpected
  | succ fuel ih =>
      obtain ⟨fuel', rfl⟩ := Nat.exists_eq_add_of_lt hfuel
      have hfuel := Nat.le_add_right fuel fuel'
      unfold readMembers
      exact .closing rfl (.bind (readMember_repeats hfuel) fun next => ih hfuel)

end Readers

end Extractor.Declaration
