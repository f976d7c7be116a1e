import Extractor.Proofs.Outcome
import Extractor.XPath.Grammar

/-!
# Extractor.Proofs.XPathGrammar

The grammar of XPath 1.0 expressions over tokens, and that what the recogniser
passes over derives from it. `Derives symbol tokens rest` says that the tokens up
to the rest are a phrase of the symbol, where the rest is what follows them in
the query; it matters in one place only, behind a slash on its own. The rules are
those of the standard, left recursion included, so the loops of the recogniser
carry along what they have derived so far.
-/

namespace Extractor.XPath

open Outcome

/-! ## the grammar -/

/-- The kinds of expressions with a binary operator, from the loosest to the tightest. -/
inductive Binary where
  | or
  | and
  | equality
  | relational
  | additive
  | multiplicative
  deriving DecidableEq, Repr

/-- The symbols of the grammar. -/
inductive Symbol where
  | binary (b : Binary)
  | unary
  | union
  | path
  | filter
  | primary
  /-- The arguments of a function call, at least one. -/
  | arguments
  | location
  | relative
  | step
  /-- Any number of predicates. -/
  | predicates
  | predicate
  deriving DecidableEq, Repr

/-- The symbol of whole expressions. -/
abbrev Symbol.expression : Symbol := binary .or

namespace Binary

/-- The operators. -/
def operators : Binary → List Token
  | or => [.name "or"]
  | and => [.name "and"]
  | equality => [.eq, .ne]
  | relational => [.lt, .le, .gt, .ge]
  | additive => [.plus, .minus]
  | multiplicative => [.star, .name "div", .name "mod"]

/-- What stands on the right of an operator. -/
def operand : Binary → Symbol
  | or => .binary and
  | and => .binary equality
  | equality => .binary relational
  | relational => .binary additive
  | additive => .binary multiplicative
  | multiplicative => .unary

end Binary

/-- The tokens between steps, and in front of them in absolute paths. -/
def separators : List Token := [.slash, .doubleSlash]

/-- What may stand in front of a node test: an axis, an at sign, or nothing. -/
inductive IsAxis : List Token → Prop
  | none : IsAxis []
  | abbreviated : IsAxis [.atSign]
  | named {n : String} (h : n ∈ axes) : IsAxis [.name n, .doubleColon]

/-- A node test. -/
inductive IsNodeTest : List Token → Prop
  | any : IsNodeTest [.star]
  | name (n : String) : IsNodeTest [.name n]
  | nodeType {n : String} (h : n ∈ nodeTypes) : IsNodeTest [.name n, .leftParen, .rightParen]
  | instruction :
      IsNodeTest [.name "processing-instruction", .leftParen, .literal, .rightParen]

/-- The tokens up to the rest are a phrase of the symbol. -/
inductive Derives : Symbol → List Token → List Token → Prop
  | operand {b ts rest} (h : Derives b.operand ts rest) : Derives (.binary b) ts rest
  | operator {b op ts mid rest} (hop : op ∈ b.operators)
      (hleft : Derives (.binary b) ts (op :: mid)) (hright : Derives b.operand mid rest) :
      Derives (.binary b) ts rest
  | positive {ts rest} (h : Derives .union ts rest) : Derives .unary ts rest
  | negative {ts rest} (h : Derives .unary ts rest) : Derives .unary (.minus :: ts) rest
  | single {ts rest} (h : Derives .path ts rest) : Derives .union ts rest
  | bar {ts mid rest} (hleft : Derives .union ts (.pipe :: mid)) (hright : Derives .path mid rest) :
      Derives .union ts rest
  | location {ts rest} (h : Derives .location ts rest) : Derives .path ts rest
  | filter {ts rest} (h : Derives .filter ts rest) : Derives .path ts rest
  | descent {sep ts mid rest} (hsep : sep ∈ separators) (hleft : Derives .filter ts (sep :: mid))
      (hright : Derives .relative mid rest) : Derives .path ts rest
  | primary {ts rest} (h : Derives .primary ts rest) : Derives .filter ts rest
  | filtered {ts mid rest} (hleft : Derives .filter ts mid) (hright : Derives .predicate mid rest) :
      Derives .filter ts rest
  | literal {rest} : Derives .primary (.literal :: rest) rest
  | number {rest} : Derives .primary (.number :: rest) rest
  | reference {n rest} : Derives .primary (.dollar :: .name n :: rest) rest
  | parentheses {ts rest} (h : Derives .expression ts (.rightParen :: rest)) :
      Derives .primary (.leftParen :: ts) rest
  | call {n rest} (hname : n ∉ nodeTypes) :
      Derives .primary (.name n :: .leftParen :: .rightParen :: rest) rest
  | callWith {n ts rest} (hname : n ∉ nodeTypes) (h : Derives .arguments ts (.rightParen :: rest)) :
      Derives .primary (.name n :: .leftParen :: ts) rest
  | argument {ts rest} (h : Derives .expression ts rest) : Derives .arguments ts rest
  | arguments {ts mid rest} (hfirst : Derives .expression ts (.comma :: mid))
      (hothers : Derives .arguments mid rest) : Derives .arguments ts rest
  | relative {ts rest} (h : Derives .relative ts rest) : Derives .location ts rest
  /-- A slash on its own, behind which no step can start. -/
  | root {rest} (hnext : ∀ t, rest.head? = some t → startsStep t = false) :
      Derives .location (.slash :: rest) rest
  | absolute {sep ts rest} (hsep : sep ∈ separators) (h : Derives .relative ts rest) :
      Derives .location (sep :: ts) rest
  | step {ts rest} (h : Derives .step ts rest) : Derives .relative ts rest
  | steps {sep ts mid rest} (hsep : sep ∈ separators) (hleft : Derives .relative ts (sep :: mid))
      (hright : Derives .step mid rest) : Derives .relative ts rest
  | self {rest} : Derives .step (.dot :: rest) rest
  | parent {rest} : Derives .step (.dotDot :: rest) rest
  | test {axis test ts rest} (haxis : IsAxis axis) (htest : IsNodeTest test)
      (h : Derives .predicates ts rest) : Derives .step (axis ++ (test ++ ts)) rest
  | noPredicates {rest} : Derives .predicates rest rest
  | predicates {ts mid rest} (hfirst : Derives .predicate ts mid)
      (hothers : Derives .predicates mid rest) : Derives .predicates ts rest
  | predicate {ts rest} (h : Derives .expression ts (.rightBracket :: rest)) :
      Derives .predicate (.leftBracket :: ts) rest

theorem IsNodeTest.length_pos {test : List Token} (h : IsNodeTest test) : 0 < test.length := by
  cases h <;> simp

theorem Binary.operand_ne_predicates (b : Binary) : b.operand ≠ .predicates := by
  cases b <;> nofun

/-- All phrases have tokens, but for sequences of predicates without any. -/
theorem Derives.length_le {s : Symbol} {ts rest : List Token} (h : Derives s ts rest) :
    rest.length ≤ ts.length ∧ (s ≠ .predicates → rest.length < ts.length) := by
  induction h with
  | @operand b ts rest _ ih => exact ⟨ih.1, fun _ => ih.2 b.operand_ne_predicates⟩
  | @operator b op ts mid rest _ _ _ ihleft ihright =>
      have hlt := ihright.2 b.operand_ne_predicates
      simp only [List.length_cons] at ihleft
      omega
  | @test axis test ts rest _ htest _ ih =>
      have hpos := htest.length_pos
      simp only [List.length_append]
      omega
  | noPredicates => exact ⟨Nat.le_refl _, absurd rfl⟩
  | _ => grind

/-- Only predicates may be empty; everything else takes a token. -/
theorem Derives.length_lt {s : Symbol} {ts rest : List Token} (h : Derives s ts rest)
    (hs : s ≠ .predicates) : rest.length < ts.length :=
  h.length_le.2 hs

/-! ## tokens in a query -/

/-- The lexemes are the tokens, with the mark of the end behind them and nowhere else. -/
structure Marks (ts : List Lexeme) (us : List Token) : Prop where
  tokens : ts.map Lexeme.token = us ++ [.endOfQuery]
  no_end : .endOfQuery ∉ us

namespace Marks

variable {ts : List Lexeme} {us : List Token} {t : Token}

theorem current_eq (h : Marks ts us) : current ts = us.headD .endOfQuery := by
  rw [current, ← List.head?_map, h.tokens]
  cases us <;> rfl

/-- Behind its first token a query has the others. -/
theorem tail (h : Marks ts (t :: us)) : Marks ts.tail us where
  tokens := by
    rw [List.map_tail, h.tokens]
    rfl
  no_end := fun hmem => h.no_end (List.mem_cons_of_mem t hmem)

theorem current_cons (h : Marks ts (t :: us)) : current ts = t := h.current_eq

/-- A current token that is not the end is the first of the tokens. -/
theorem exists_cons (h : Marks ts us) (ht : current ts = t) (hne : t ≠ .endOfQuery) :
    ∃ rest, us = t :: rest ∧ Marks ts.tail rest := by
  rw [h.current_eq] at ht
  cases us with
  | nil => exact absurd ht.symm hne
  | cons u us =>
      obtain rfl : u = t := ht
      exact ⟨us, rfl, h.tail⟩

/-- Passing over minus signs on both sides. -/
theorem dropWhile (h : Marks ts us) :
    Marks (ts.dropWhile fun l => l.token = .minus) (us.dropWhile (· = .minus)) where
  tokens := by
    have hmap : (ts.dropWhile fun l => l.token = .minus).map Lexeme.token =
        (ts.map Lexeme.token).dropWhile (· = .minus) := by
      rw [List.dropWhile_map]
      rfl
    rw [hmap, h.tokens, List.dropWhile_append]
    split
    · next hempty =>
        rw [List.isEmpty_iff.mp hempty]
        rfl
    · rfl
  no_end := fun hmem => h.no_end ((List.dropWhile_suffix _).subset hmem)

end Marks

/-- A token that was expected stood in front. -/
theorem expect_eq_ok {t : Token} {ts rest : List Lexeme} {us : List Token} (hm : Marks ts us)
    (h : expect t ts = .ok rest) (hne : t ≠ .endOfQuery) :
    ∃ vs, us = t :: vs ∧ Marks rest vs := by
  rw [expect] at h
  split at h
  · next hcurrent =>
      cases h
      exact hm.exists_cons hcurrent hne
  · contradiction

/-- What the reader of an axis passes over is an axis, perhaps one that is not written. -/
theorem readAxis_eq_ok {ts rest : List Lexeme} {us : List Token} (hm : Marks ts us)
    (h : readAxis ts = .ok rest) : ∃ axis vs, us = axis ++ vs ∧ IsAxis axis ∧ Marks rest vs := by
  unfold readAxis at h
  split at h
  · next hat =>
      cases h
      obtain ⟨vs, rfl, hvs⟩ := hm.exists_cons hat nofun
      exact ⟨[.atSign], vs, rfl, .abbreviated, hvs⟩
  · next n hname =>
      split at h
      · next hcolon =>
          split at h
          · next haxis =>
              cases h
              obtain ⟨vs, rfl, hvs⟩ := hm.exists_cons hname nofun
              obtain ⟨ws, rfl, hws⟩ := hvs.exists_cons hcolon nofun
              exact ⟨[.name n, .doubleColon], ws, rfl, .named haxis, hws⟩
          · contradiction
      · cases h
        exact ⟨[], us, rfl, .none, hm⟩
  · cases h
    exact ⟨[], us, rfl, .none, hm⟩

/-- What the reader of a node test passes over is a node test. -/
theorem readNodeTest_eq_ok {ts rest : List Lexeme} {us : List Token} (hm : Marks ts us)
    (h : readNodeTest ts = .ok rest) :
    ∃ test vs, us = test ++ vs ∧ IsNodeTest test ∧ Marks rest vs := by
  unfold readNodeTest at h
  split at h
  · next hstar =>
      cases h
      obtain ⟨vs, rfl, hvs⟩ := hm.exists_cons hstar nofun
      exact ⟨[.star], vs, rfl, .any, hvs⟩
  · next n hname =>
      obtain ⟨vs, rfl, hvs⟩ := hm.exists_cons hname nofun
      dsimp only at h
      split at h
      · next hnode =>
          obtain ⟨htype, hparen⟩ : n ∈ nodeTypes ∧ current ts.tail = .leftParen := by
            simpa using hnode
          obtain ⟨ws, rfl, hws⟩ := hvs.exists_cons hparen nofun
          split at h
          · next hinstruction =>
              obtain ⟨rfl, hliteral⟩ : n = "processing-instruction" ∧
                  current ts.tail.tail = .literal := by simpa using hinstruction
              obtain ⟨xs, rfl, hxs⟩ := hws.exists_cons hliteral nofun
              obtain ⟨ys, rfl, hys⟩ := expect_eq_ok hxs h nofun
              exact ⟨[_, .leftParen, .literal, .rightParen], ys, rfl, .instruction, hys⟩
          · obtain ⟨xs, rfl, hxs⟩ := expect_eq_ok hws h nofun
            exact ⟨[.name n, .leftParen, .rightParen], xs, rfl, .nodeType htype, hxs⟩
      · cases h
        exact ⟨[.name n], vs, rfl, .name n, hvs⟩
  · contradiction

/-! ## what the recogniser passes over -/

/-- The place of an operator among the levels. -/
def Binary.level : Binary → Nat
  | or => 0
  | and => 1
  | equality => 2
  | relational => 3
  | additive => 4
  | multiplicative => 5

/-- Every operator has its level below that of the operands. -/
theorem Binary.level_lt (b : Binary) : b.level < levels := by cases b <;> decide

/-- The operators that are read at a level are those of the grammar there. -/
theorem isOperator_level {b : Binary} {t : Token} :
    isOperator b.level t = true ↔ t ∈ b.operators := by
  cases b <;> simp [isOperator, Binary.level, Binary.operators, or_assoc]

/-- The separators of steps are those of the grammar. -/
theorem isStepSeparator_iff {t : Token} : isStepSeparator t = true ↔ t ∈ separators := by
  simp [isStepSeparator, separators]

theorem ne_end_of_separator {t : Token} (h : isStepSeparator t = true) : t ≠ .endOfQuery := by
  rintro rfl
  contradiction

/-- What the readers pass over derives from the grammar, if the bound on their steps is large
enough. Loops carry along where they started. -/
structure Sound (fuel : Nat) : Prop where
  binary : ∀ {b ts us rest}, Marks ts us → 16 * us.length + 12 ≤ fuel + b.level →
    readBinary fuel b.level ts = .ok rest → ∃ vs, Marks rest vs ∧ Derives (.binary b) us vs
  operands : ∀ {b ts us rest start}, Marks ts us → 16 * us.length + 1 ≤ fuel →
    Derives (.binary b) start us → readOperands fuel b.level ts = .ok rest →
      ∃ vs, Marks rest vs ∧ Derives (.binary b) start vs
  unary : ∀ {ts us rest}, Marks ts us → 16 * us.length + 6 ≤ fuel →
    readBinary fuel levels ts = .ok rest → ∃ vs, Marks rest vs ∧ Derives .unary us vs
  union : ∀ {ts us rest start}, Marks ts us → 16 * us.length + 5 ≤ fuel →
    (start = us ∨ Derives .union start (.pipe :: us)) → readUnion fuel ts = .ok rest →
      ∃ vs, Marks rest vs ∧ Derives .union start vs
  path : ∀ {ts us rest}, Marks ts us → 16 * us.length + 4 ≤ fuel →
    readPath fuel ts = .ok rest → ∃ vs, Marks rest vs ∧ Derives .path us vs
  primary : ∀ {ts us rest}, Marks ts us → startsFilter ts = true → 16 * us.length + 3 ≤ fuel →
    readPrimary fuel ts = .ok rest → ∃ vs, Marks rest vs ∧ Derives .primary us vs
  arguments : ∀ {ts us rest}, Marks ts us → 16 * us.length + 13 ≤ fuel →
    readArguments fuel ts = .ok rest →
      ∃ vs, Marks rest vs ∧ Derives .arguments us (.rightParen :: vs)
  steps : ∀ {ts us rest start}, Marks ts us → 16 * us.length + 3 ≤ fuel →
    (start = us ∨ ∃ sep ∈ separators, Derives .relative start (sep :: us)) →
      readSteps fuel ts = .ok rest → ∃ vs, Marks rest vs ∧ Derives .relative start vs
  step : ∀ {ts us rest}, Marks ts us → 16 * us.length + 2 ≤ fuel →
    readStep fuel ts = .ok rest → ∃ vs, Marks rest vs ∧ Derives .step us vs
  predicates : ∀ {ts us rest}, Marks ts us → 16 * us.length + 1 ≤ fuel →
    readPredicates fuel ts = .ok rest → ∃ vs, Marks rest vs ∧ Derives .predicates us vs

namespace Sound

variable {fuel : Nat} {ts rest : List Lexeme} {us start : List Token} {b : Binary}

/-- Without fuel nothing is read. -/
theorem zero : Sound 0 := by
  constructor
  case binary =>
    intro b ts us rest _ hfuel
    have hlevel := b.level_lt
    simp only [levels] at hlevel
    omega
  all_goals
    intros
    omega

/-- The operand of an operator is read at the next level. -/
theorem operand (h : Sound fuel) (hm : Marks ts us)
    (hfuel : 16 * us.length + 12 ≤ fuel + (b.level + 1))
    (hread : readBinary fuel (b.level + 1) ts = .ok rest) :
    ∃ vs, Marks rest vs ∧ Derives b.operand us vs := by
  cases b with
  | or => exact h.binary (b := .and) hm hfuel hread
  | and => exact h.binary (b := .equality) hm hfuel hread
  | equality => exact h.binary (b := .relational) hm hfuel hread
  | relational => exact h.binary (b := .additive) hm hfuel hread
  | additive => exact h.binary (b := .multiplicative) hm hfuel hread
  | multiplicative => exact h.unary hm (by simpa [Binary.level] using hfuel) hread

/-- An operand and the operators behind it are an expression of their level. -/
theorem binary_succ (ih : Sound fuel) (hm : Marks ts us)
    (hfuel : 16 * us.length + 12 ≤ fuel + 1 + b.level)
    (h : readBinary (fuel + 1) b.level ts = .ok rest) :
    ∃ vs, Marks rest vs ∧ Derives (.binary b) us vs := by
  rw [readBinary, if_pos b.level_lt, bind_eq_ok] at h
  obtain ⟨mid, hmid, h⟩ := h
  obtain ⟨vs, hvs, hderives⟩ := ih.operand hm (by omega) hmid
  have hlt := hderives.length_lt b.operand_ne_predicates
  have hlevel := b.level_lt
  exact ih.operands hvs (by simp only [levels] at hlevel; omega) (.operand hderives) h

/-- Further operands of a level go on with what has been read of it. -/
theorem operands_succ (ih : Sound fuel) (hm : Marks ts us) (hfuel : 16 * us.length + 1 ≤ fuel + 1)
    (hstart : Derives (.binary b) start us) (h : readOperands (fuel + 1) b.level ts = .ok rest) :
    ∃ vs, Marks rest vs ∧ Derives (.binary b) start vs := by
  rw [readOperands] at h
  split at h
  · next hop =>
      have hop : current ts ∈ b.operators := isOperator_level.mp hop
      have hne : current ts ≠ .endOfQuery := by
        intro hend
        rw [hend] at hop
        cases b <;> simp [Binary.operators] at hop
      obtain ⟨us', rfl, hm'⟩ := hm.exists_cons rfl hne
      rw [bind_eq_ok] at h
      obtain ⟨mid, hmid, h⟩ := h
      simp only [List.length_cons] at hfuel
      obtain ⟨vs, hvs, hderives⟩ := ih.operand hm' (by omega) hmid
      have hlt := hderives.length_lt b.operand_ne_predicates
      exact ih.operands hvs (by omega) (.operator hop hstart hderives) h
  · cases h
    exact ⟨us, hm, hstart⟩

/-- Minus signs may stand in front of a union. -/
theorem derives_unary (us : List Token) {vs : List Token}
    (h : Derives .union (us.dropWhile (· = .minus)) vs) : Derives .unary us vs := by
  induction us with
  | nil => exact .positive h
  | cons u us ih =>
      by_cases hminus : u = .minus
      · subst hminus
        exact .negative (ih (by simpa using h))
      · rw [List.dropWhile_cons_of_neg (by simpa using hminus)] at h
        exact .positive h

/-- What is read above the last level is an operand with its signs. -/
theorem unary_succ (ih : Sound fuel) (hm : Marks ts us) (hfuel : 16 * us.length + 6 ≤ fuel + 1)
    (h : readBinary (fuel + 1) levels ts = .ok rest) :
    ∃ vs, Marks rest vs ∧ Derives .unary us vs := by
  rw [readBinary, if_neg (Nat.lt_irrefl levels)] at h
  have hle : (us.dropWhile (· = .minus)).length ≤ us.length := (List.dropWhile_suffix _).length_le
  obtain ⟨vs, hvs, hderives⟩ := ih.union hm.dropWhile (by omega) (.inl rfl) h
  exact ⟨vs, hvs, derives_unary us hderives⟩

/-- Further paths go on with a union. -/
theorem union_succ (ih : Sound fuel) (hm : Marks ts us) (hfuel : 16 * us.length + 5 ≤ fuel + 1)
    (hstart : start = us ∨ Derives .union start (.pipe :: us))
    (h : readUnion (fuel + 1) ts = .ok rest) :
    ∃ vs, Marks rest vs ∧ Derives .union start vs := by
  rw [readUnion, bind_eq_ok] at h
  obtain ⟨mid, hmid, h⟩ := h
  obtain ⟨vs, hvs, hpath⟩ := ih.path hm (by omega) hmid
  have hlt := hpath.length_lt nofun
  have hunion : Derives .union start vs := by
    rcases hstart with rfl | hstart
    · exact .single hpath
    · exact .bar hstart hpath
  split at h
  · next hpipe =>
      obtain ⟨others, rfl, hothers⟩ := hvs.exists_cons hpipe nofun
      simp only [List.length_cons] at hlt
      exact ih.union hothers (by omega) (.inr hunion) h
  · cases h
    exact ⟨vs, hvs, hunion⟩

/-- Predicates behind a filter expression make another one. -/
theorem derives_filter {mid vs : List Token} (hfilter : Derives .filter us mid)
    (h : Derives .predicates mid vs) : Derives .filter us vs := by
  -- predicates are taken off the front, so the filter expression grows with each of them
  generalize hs : Symbol.predicates = s at h
  induction h with
  | noPredicates => exact hfilter
  | predicates hfirst _ _ ih => exact ih (.filtered hfilter hfirst) hs
  | _ => contradiction

/-- What the reader of paths passes over is a path, whichever way it starts. -/
theorem path_succ (ih : Sound fuel) (hm : Marks ts us) (hfuel : 16 * us.length + 4 ≤ fuel + 1)
    (h : readPath (fuel + 1) ts = .ok rest) : ∃ vs, Marks rest vs ∧ Derives .path us vs := by
  rw [readPath] at h
  split at h
  · next hfilter =>
      rw [bind_eq_ok] at h
      obtain ⟨first, hfirst, h⟩ := h
      rw [bind_eq_ok] at h
      obtain ⟨mid, hmid, h⟩ := h
      obtain ⟨vs, hvs, hprimary⟩ := ih.primary hm hfilter (by omega) hfirst
      have hlt := hprimary.length_lt nofun
      obtain ⟨ws, hws, hpredicates⟩ := ih.predicates hvs (by omega) hmid
      have hle := hpredicates.length_le.1
      have hfiltered := derives_filter (.primary hprimary) hpredicates
      split at h
      · next hsep =>
          obtain ⟨others, rfl, hothers⟩ := hws.exists_cons rfl (ne_end_of_separator hsep)
          simp only [List.length_cons] at hle
          obtain ⟨xs, hxs, hrelative⟩ := ih.steps hothers (by omega) (.inl rfl) h
          exact ⟨xs, hxs, .descent (isStepSeparator_iff.mp hsep) hfiltered hrelative⟩
      · cases h
        exact ⟨ws, hws, .filter hfiltered⟩
  · split at h
    · next hslash =>
        obtain ⟨us, rfl, htail⟩ := hm.exists_cons hslash nofun
        simp only [List.length_cons] at hfuel
        split at h
        · obtain ⟨vs, hvs, hrelative⟩ := ih.steps htail (by omega) (.inl rfl) h
          exact ⟨vs, hvs, .location (.absolute (by decide) hrelative)⟩
        · next hstep =>
            cases h
            refine ⟨us, htail, .location (.root fun t ht => ?_)⟩
            rw [htail.current_eq, List.headD_eq_head?_getD, ht] at hstep
            simpa using hstep
    · next hslash =>
        obtain ⟨us, rfl, htail⟩ := hm.exists_cons hslash nofun
        simp only [List.length_cons] at hfuel
        obtain ⟨vs, hvs, hrelative⟩ := ih.steps htail (by omega) (.inl rfl) h
        exact ⟨vs, hvs, .location (.absolute (by decide) hrelative)⟩
    · obtain ⟨vs, hvs, hrelative⟩ := ih.steps hm (by omega) (.inl rfl) h
      exact ⟨vs, hvs, .location (.relative hrelative)⟩

/-- What the reader of primary expressions passes over is one, where one can start. -/
theorem primary_succ (ih : Sound fuel) (hm : Marks ts us) (hstarts : startsFilter ts = true)
    (hfuel : 16 * us.length + 3 ≤ fuel + 1) (h : readPrimary (fuel + 1) ts = .ok rest) :
    ∃ vs, Marks rest vs ∧ Derives .primary us vs := by
  rw [readPrimary] at h
  split at h
  · next hdollar =>
      obtain ⟨us, rfl, htail⟩ := hm.exists_cons hdollar nofun
      split at h
      · next name hname =>
          cases h
          obtain ⟨vs, rfl, hvs⟩ := htail.exists_cons hname nofun
          exact ⟨vs, hvs, .reference⟩
      · contradiction
  · next hparen =>
      obtain ⟨us, rfl, htail⟩ := hm.exists_cons hparen nofun
      simp only [List.length_cons] at hfuel
      rw [bind_eq_ok] at h
      obtain ⟨mid, hmid, h⟩ := h
      obtain ⟨vs, hvs, hinner⟩ := ih.binary (b := .or) htail (by omega) hmid
      obtain ⟨ws, rfl, hws⟩ := expect_eq_ok hvs h nofun
      exact ⟨ws, hws, .parentheses hinner⟩
  · next name hname =>
      obtain ⟨us, rfl, htail⟩ := hm.exists_cons hname nofun
      have hfunction : name ∉ nodeTypes := by
        rw [startsFilter, hname] at hstarts
        simpa using (Bool.and_eq_true_iff.mp hstarts).2
      simp only [List.length_cons] at hfuel
      rw [bind_eq_ok] at h
      obtain ⟨mid, hmid, h⟩ := h
      obtain ⟨vs, rfl, hvs⟩ := expect_eq_ok htail hmid nofun
      simp only [List.length_cons] at hfuel
      split at h
      · next hclose =>
          cases h
          obtain ⟨ws, rfl, hws⟩ := hvs.exists_cons hclose nofun
          exact ⟨ws, hws, .call hfunction⟩
      · obtain ⟨ws, hws, harguments⟩ := ih.arguments hvs (by omega) h
        exact ⟨ws, hws, .callWith hfunction harguments⟩
  · next hdollar hparen hname =>
      cases h
      rw [startsFilter] at hstarts
      split at hstarts
      · next hliteral =>
          obtain ⟨us, rfl, htail⟩ := hm.exists_cons hliteral nofun
          exact ⟨us, htail, .literal⟩
      · next hnumber =>
          obtain ⟨us, rfl, htail⟩ := hm.exists_cons hnumber nofun
          exact ⟨us, htail, .number⟩
      case h_5 n hn => exact absurd hn (hname n)
      all_goals contradiction

/-- The arguments are read up to the closing parenthesis, which is left to be expected. -/
theorem arguments_succ (ih : Sound fuel) (hm : Marks ts us)
    (hfuel : 16 * us.length + 13 ≤ fuel + 1) (h : readArguments (fuel + 1) ts = .ok rest) :
    ∃ vs, Marks rest vs ∧ Derives .arguments us (.rightParen :: vs) := by
  rw [readArguments, bind_eq_ok] at h
  obtain ⟨mid, hmid, h⟩ := h
  obtain ⟨vs, hvs, hfirst⟩ := ih.binary (b := .or) hm (by simp only [Binary.level]; omega) hmid
  have hlt := hfirst.length_lt nofun
  split at h
  · next hcomma =>
      obtain ⟨ws, rfl, hws⟩ := hvs.exists_cons hcomma nofun
      simp only [List.length_cons] at hlt
      obtain ⟨xs, hxs, hothers⟩ := ih.arguments hws (by omega) h
      exact ⟨xs, hxs, .arguments hfirst hothers⟩
  · obtain ⟨ws, rfl, hws⟩ := expect_eq_ok hvs h nofun
    exact ⟨ws, hws, .argument hfirst⟩

/-- Further steps go on with a relative path. -/
theorem steps_succ (ih : Sound fuel) (hm : Marks ts us) (hfuel : 16 * us.length + 3 ≤ fuel + 1)
    (hstart : start = us ∨ ∃ sep ∈ separators, Derives .relative start (sep :: us))
    (h : readSteps (fuel + 1) ts = .ok rest) :
    ∃ vs, Marks rest vs ∧ Derives .relative start vs := by
  rw [readSteps, bind_eq_ok] at h
  obtain ⟨mid, hmid, h⟩ := h
  obtain ⟨vs, hvs, hstep⟩ := ih.step hm (by omega) hmid
  have hlt := hstep.length_lt nofun
  have hrelative : Derives .relative start vs := by
    rcases hstart with rfl | ⟨sep, hsep, hstart⟩
    · exact .step hstep
    · exact .steps hsep hstart hstep
  split at h
  · next hsep =>
      obtain ⟨ws, rfl, hws⟩ := hvs.exists_cons rfl (ne_end_of_separator hsep)
      simp only [List.length_cons] at hlt
      exact ih.steps hws (by omega) (.inr ⟨_, isStepSeparator_iff.mp hsep, hrelative⟩) h
  · cases h
    exact ⟨vs, hvs, hrelative⟩

/-- Predicates are read as long as brackets open. -/
theorem predicates_succ (ih : Sound fuel) (hm : Marks ts us)
    (hfuel : 16 * us.length + 1 ≤ fuel + 1) (h : readPredicates (fuel + 1) ts = .ok rest) :
    ∃ vs, Marks rest vs ∧ Derives .predicates us vs := by
  rw [readPredicates] at h
  split at h
  · next hbracket =>
      obtain ⟨us, rfl, htail⟩ := hm.exists_cons hbracket nofun
      simp only [List.length_cons] at hfuel
      rw [bind_eq_ok] at h
      obtain ⟨mid, hmid, h⟩ := h
      rw [bind_eq_ok] at h
      obtain ⟨closed, hclosed, h⟩ := h
      obtain ⟨vs, hvs, hinner⟩ := ih.binary (b := .or) htail (by omega) hmid
      obtain ⟨ws, rfl, hws⟩ := expect_eq_ok hvs hclosed nofun
      have hlt := hinner.length_lt nofun
      simp only [List.length_cons] at hlt
      obtain ⟨xs, hxs, hothers⟩ := ih.predicates hws (by omega) h
      exact ⟨xs, hxs, .predicates (.predicate hinner) hothers⟩
  · cases h
    exact ⟨us, hm, .noPredicates⟩

/-- What the reader of steps passes over is a step. -/
theorem step_succ (ih : Sound fuel) (hm : Marks ts us) (hfuel : 16 * us.length + 2 ≤ fuel + 1)
    (h : readStep (fuel + 1) ts = .ok rest) : ∃ vs, Marks rest vs ∧ Derives .step us vs := by
  rw [readStep] at h
  split at h
  · next hdots =>
      cases h
      rcases Bool.or_eq_true_iff.mp hdots with hdot | hdot
      · obtain ⟨vs, rfl, hvs⟩ := hm.exists_cons (of_decide_eq_true hdot) nofun
        exact ⟨vs, hvs, .self⟩
      · obtain ⟨vs, rfl, hvs⟩ := hm.exists_cons (of_decide_eq_true hdot) nofun
        exact ⟨vs, hvs, .parent⟩
  · rw [bind_eq_ok] at h
    obtain ⟨behindAxis, haxis, h⟩ := h
    rw [bind_eq_ok] at h
    obtain ⟨behindTest, htest, h⟩ := h
    obtain ⟨axis, vs, rfl, hisAxis, hvs⟩ := readAxis_eq_ok hm haxis
    obtain ⟨test, ws, rfl, hisTest, hws⟩ := readNodeTest_eq_ok hvs htest
    simp only [List.length_append] at hfuel
    obtain ⟨xs, hxs, hpredicates⟩ := ih.predicates hws (by omega) h
    exact ⟨xs, hxs, .test hisAxis hisTest hpredicates⟩

end Sound

/-- **What the readers pass over derives from the grammar.** -/
theorem sound (fuel : Nat) : Sound fuel := by
  induction fuel with
  | zero => exact .zero
  | succ fuel ih =>
      exact ⟨ih.binary_succ, ih.operands_succ, ih.unary_succ, ih.union_succ, ih.path_succ,
        ih.primary_succ, ih.arguments_succ, ih.steps_succ, ih.step_succ, ih.predicates_succ⟩

end Extractor.XPath
