import Extractor.Proofs.XPathGrammar

/-!
# Extractor.Proofs.XPathRecogniser

The recogniser accepts exactly the expressions of the grammar. It goes on as long
as it can, so a phrase is read to its end only if what follows does not go with
it: each token has a grip, by which it holds on to the phrase in front of it, and
a phrase of a symbol is read to its end if the grip of the next token is within
the bound of the symbol (`Derives.reads`). The end of the query has none, so
every expression is accepted (`recognise_iff_derives`).
-/

namespace Extractor.XPath

open Outcome

/-! ## what may follow -/

/-- How tightly a token holds on to the phrase in front of it. -/
def grip : Token → Nat
  | .endOfQuery | .rightParen | .rightBracket => 0
  | .comma => 1
  | .eq | .ne => 4
  | .lt | .le | .gt | .ge => 5
  | .plus | .minus => 6
  | .star => 7
  | .pipe => 8
  | .slash | .doubleSlash => 9
  | .leftBracket => 10
  | .name n =>
      if n = "or" then 2 else if n = "and" then 3 else if n = "div" ∨ n = "mod" then 7 else 11
  | _ => 11

/-- The grip of the next token. -/
def gripOf (us : List Token) : Nat := grip (us.headD .endOfQuery)

/-- The largest grip that a token behind a phrase of the symbol may have, so that the phrase is read
on from there or is at its end. -/
def Symbol.bound : Symbol → Nat
  | binary b => b.level + 2
  | unary => 7
  | union | path | location => 8
  | relative | step | predicates => 9
  | filter => 10
  | primary | predicate => 11
  | arguments => 0

theorem Marks.grip_current {ts : List Lexeme} {us : List Token} (h : Marks ts us) :
    grip (current ts) = gripOf us := by
  rw [h.current_eq, gripOf]

/-- What holds on more tightly than the next token is not the next token. -/
theorem Marks.current_ne {ts : List Lexeme} {us : List Token} {t : Token} (h : Marks ts us)
    (hgrip : gripOf us < grip t) : current ts ≠ t := by
  rintro rfl
  rw [h.grip_current] at hgrip
  exact Nat.lt_irrefl _ hgrip

theorem Marks.length {ts : List Lexeme} {us : List Token} (h : Marks ts us) :
    ts.length = us.length + 1 := by
  have hlength := congrArg List.length h.tokens
  simpa using hlength

/-- The grip of an operator grows with its level. -/
theorem grip_operator {b : Binary} {op : Token} (h : op ∈ b.operators) : grip op = b.level + 2 := by
  cases b <;> simp only [Binary.operators, List.mem_cons, List.not_mem_nil, or_false] at h
  case or | and => subst h; rfl
  case equality | additive => rcases h with rfl | rfl <;> rfl
  case relational => rcases h with rfl | rfl | rfl | rfl <;> rfl
  case multiplicative => rcases h with rfl | rfl | rfl <;> rfl

theorem grip_separator {sep : Token} (h : sep ∈ separators) : grip sep = 9 := by
  simp only [separators, List.mem_cons, List.not_mem_nil, or_false] at h
  rcases h with rfl | rfl <;> rfl

/-- A token with a weaker grip is no operator of the level. -/
theorem not_isOperator {b : Binary} {t : Token} (h : grip t < b.level + 2) :
    isOperator b.level t = false := by
  by_contra hop
  have hgrip := grip_operator (isOperator_level.mp (by simpa using hop))
  omega

theorem not_isStepSeparator {t : Token} (h : grip t < 9) : isStepSeparator t = false := by
  by_contra hsep
  have hgrip := grip_separator (isStepSeparator_iff.mp (by simpa using hsep))
  omega

/-! ## how phrases start -/

/-- Whether a filter expression may start with the token. -/
def startsPrimary : Token → Bool
  | .literal | .number | .dollar | .leftParen | .name _ => true
  | _ => false

/-- Whether a phrase of the symbol may start with the token. -/
def Symbol.starts : Symbol → Token → Bool
  | binary _, t | unary, t | arguments, t =>
      startsStep t || startsPrimary t || isStepSeparator t || t = .minus
  | union, t | path, t => startsStep t || startsPrimary t || isStepSeparator t
  | filter, t | primary, t => startsPrimary t
  | location, t => startsStep t || isStepSeparator t
  | relative, t | step, t => startsStep t
  | predicates, _ => true
  | predicate, t => t = .leftBracket

/-- A step with an axis starts as steps do. -/
theorem IsAxis.exists_cons {axis test : List Token} (haxis : IsAxis axis) (htest : IsNodeTest test)
    (ts : List Token) : ∃ t us, axis ++ (test ++ ts) = t :: us ∧ startsStep t = true := by
  cases haxis with
  | none =>
      cases htest <;> exact ⟨_, _, rfl, rfl⟩
  | abbreviated | named => exact ⟨_, _, rfl, rfl⟩

/-- Every phrase but predicates has a first token, and one that it may start with. -/
theorem Derives.exists_cons {s : Symbol} {us vs : List Token} (h : Derives s us vs)
    (hs : s ≠ .predicates) : ∃ t rest, us = t :: rest ∧ s.starts t = true := by
  induction h with
  | @operand b _ _ _ ih =>
      obtain ⟨t, rest, rfl, ht⟩ := ih b.operand_ne_predicates
      refine ⟨t, rest, rfl, ?_⟩
      cases b <;> exact ht
  | operator _ _ _ ih _ => exact ih nofun
  | positive _ ih | location _ ih | filter _ ih | descent _ _ _ ih _ | relative _ ih =>
      obtain ⟨t, rest, rfl, ht⟩ := ih nofun
      exact ⟨t, rest, rfl, by grind [Symbol.starts]⟩
  | negative | literal | number | reference | parentheses | call | callWith | root | self | parent
  | predicate => exact ⟨_, _, rfl, rfl⟩
  | single _ ih | step _ ih | argument _ ih | primary _ ih => exact ih nofun
  | bar _ _ ih _ | steps _ _ _ ih _ | filtered _ _ ih _ | arguments _ _ ih _ => exact ih nofun
  | absolute hsep _ _ =>
      exact ⟨_, _, rfl, by rw [Symbol.starts, isStepSeparator_iff.mpr hsep, Bool.or_true]⟩
  | test haxis htest _ _ => exact haxis.exists_cons htest _
  | noPredicates | predicates => contradiction

/-! ## reading phrases -/

/-- The steps of its reader that a phrase of the symbol may take beyond sixteen for each token. -/
def Symbol.rank : Symbol → Nat
  | binary b => 12 - b.level
  | unary => 6
  | union => 5
  | path | location => 4
  | filter | primary | relative => 3
  | step => 2
  | predicates | predicate => 1
  | arguments => 13

/-- The operands of a level need one step of fuel less than the level. -/
theorem Binary.rank_operand (b : Binary) : b.operand.rank + 1 = 12 - b.level := by
  cases b <;> rfl

/-- What may follow an operand may be an operator of its level. -/
theorem Binary.le_bound_operand (b : Binary) : b.level + 2 ≤ b.operand.bound := by
  cases b <;> decide

theorem Symbol.rank_pos (s : Symbol) : 0 < s.rank := by
  cases s with
  | binary b => cases b <;> decide
  | _ => decide

/-- The reader of the symbol goes from one place to another. Where phrases are read by a loop, the
loop is still to be ended there, with enough steps left. -/
def Goes : Symbol → Nat → List Lexeme → List Lexeme → Prop
  | .binary b, fuel, ts, rest => ∃ left, 16 * rest.length ≤ left ∧
      readBinary fuel b.level ts = readOperands left b.level rest
  | .unary, fuel, ts, rest => readBinary fuel levels ts = .ok rest
  | .union, fuel, ts, rest => ∃ left, 16 * rest.length ≤ left ∧
      readUnion fuel ts = if current rest = .pipe then readUnion left rest.tail else .ok rest
  | .path, fuel, ts, rest | .location, fuel, ts, rest => readPath fuel ts = .ok rest
  | .filter, fuel, ts, rest => startsFilter ts = true ∧ ∃ left, 16 * rest.length ≤ left ∧
      (readPrimary fuel ts >>= readPredicates fuel) = readPredicates left rest
  | .primary, fuel, ts, rest => startsFilter ts = true ∧ readPrimary fuel ts = .ok rest
  | .arguments, fuel, ts, rest => readArguments fuel ts = expect .rightParen rest
  | .relative, fuel, ts, rest => startsFilter ts = false ∧ ∃ left, 16 * rest.length ≤ left ∧
      readSteps fuel ts =
        if isStepSeparator (current rest) then readSteps left rest.tail else .ok rest
  | .step, fuel, ts, rest => startsFilter ts = false ∧ readStep fuel ts = .ok rest
  | .predicates, fuel, ts, rest => readPredicates fuel ts = .ok rest
  | .predicate, fuel, ts, rest => ∃ left, 16 * rest.length ≤ left ∧
      readPredicates fuel ts = readPredicates left rest

/-- The phrase is read, if what follows does not hold on to it. -/
def Reads (s : Symbol) (us vs : List Token) : Prop :=
  gripOf vs ≤ s.bound → ∀ ts, Marks ts us → ∃ rest, Marks rest vs ∧
    ∀ fuel, 16 * us.length + s.rank ≤ fuel → Goes s fuel ts rest

section Loops

variable {fuel level left : Nat} {ts rest : List Lexeme} {b : Binary}

theorem Marks.ne_nil {us : List Token} (h : Marks ts us) : ts ≠ [] := by
  rintro rfl
  simpa using h.length

theorem Marks.pos_of_le {us : List Token} (h : Marks ts us) (hleft : 16 * ts.length ≤ left) :
    0 < left := by
  rw [h.length] at hleft
  omega

/-- A loop of operands ends where no operator of its level stands. -/
theorem readOperands_stop (hleft : 0 < left) (h : isOperator level (current rest) = false) :
    readOperands left level rest = .ok rest := by
  obtain ⟨k, rfl⟩ : ∃ k, left = k + 1 := ⟨left - 1, by omega⟩
  rw [readOperands, if_neg (by simp [h])]

/-- A loop of predicates ends where no bracket opens. -/
theorem readPredicates_stop {us : List Token} (hleft : 0 < left) (hm : Marks rest us)
    (hgrip : gripOf us ≤ 9) : readPredicates left rest = .ok rest := by
  obtain ⟨k, rfl⟩ : ∃ k, left = k + 1 := ⟨left - 1, by omega⟩
  have hbracket : current rest ≠ .leftBracket := hm.current_ne (Nat.lt_succ_of_le hgrip)
  rw [readPredicates, if_neg hbracket]

/-- Signs in front of an operand are dropped one by one. -/
theorem Marks.dropWhile_cons {t : Token} {us : List Token} (h : Marks ts (t :: us)) :
    ts.dropWhile (fun l => l.token = .minus) =
      if t = .minus then ts.tail.dropWhile (fun l => l.token = .minus) else ts := by
  obtain ⟨l, ts, rfl⟩ := List.exists_cons_of_ne_nil h.ne_nil
  obtain rfl : l.token = t := h.current_cons
  rw [List.dropWhile_cons]
  by_cases hminus : l.token = .minus <;> simp [hminus]

/-- An expression is read to its end if no operator of its level follows. -/
theorem Goes.binary_end {us : List Token} (h : Goes (.binary b) fuel ts rest) (hm : Marks rest us)
    (hgrip : gripOf us < b.level + 2) : readBinary fuel b.level ts = .ok rest := by
  obtain ⟨left, hleft, hread⟩ := h
  rw [hread, readOperands_stop (hm.pos_of_le hleft) (not_isOperator (hm.grip_current ▸ hgrip))]

/-- An operand is read to its end if nothing follows that is tighter than its operator. -/
theorem Goes.operand_end {us : List Token} (h : Goes b.operand fuel ts rest) (hm : Marks rest us)
    (hgrip : gripOf us ≤ b.level + 2) : readBinary fuel (b.level + 1) ts = .ok rest := by
  cases b with
  | multiplicative => exact h
  | or | and | equality | relational | additive =>
      exact Goes.binary_end h hm (Nat.lt_succ_of_le hgrip)

/-- Behind a phrase of steps no separator is found, if nothing as tight follows. -/
theorem Marks.steps_end {us : List Token} (h : Marks rest us) (hgrip : gripOf us ≤ 8) :
    (if isStepSeparator (current rest) then readSteps left rest.tail else .ok rest) = .ok rest := by
  rw [← h.grip_current] at hgrip
  rw [not_isStepSeparator (Nat.lt_succ_of_le hgrip)]
  rfl

theorem Marks.expect {t : Token} {us : List Token} (h : Marks ts (t :: us)) :
    expect t ts = .ok ts.tail := by
  rw [XPath.expect, if_pos h.current_cons]

/-! ### the parts of a step -/

theorem Derives.grip_predicate {us vs : List Token} (h : Derives .predicate us vs) :
    gripOf us = 10 := by
  cases h
  rfl

/-- What follows predicates has no stronger grip than their bracket. -/
theorem Derives.grip_predicates {us vs : List Token} (h : Derives .predicates us vs)
    (hgrip : gripOf vs ≤ 9) : gripOf us ≤ 10 := by
  cases h with
  | noPredicates => exact Nat.le_succ_of_le hgrip
  | predicates hfirst _ => exact Nat.le_of_eq hfirst.grip_predicate

/-- A node test starts with a star or a name. What follows the name is no pair of colons, and a
parenthesis only if the name is a node type. -/
theorem IsNodeTest.current_eq {test us : List Token} (htest : IsNodeTest test)
    (hgrip : gripOf us ≤ 10) (hm : Marks ts (test ++ us)) :
    current ts = .star ∨ ∃ n, current ts = .name n ∧ current ts.tail ≠ .doubleColon ∧
      (current ts.tail = .leftParen → n ∈ nodeTypes) := by
  cases htest with
  | any => exact .inl hm.current_cons
  | name n =>
      have hus : Marks ts.tail us := Marks.tail hm
      have hparen : current ts.tail ≠ .leftParen := hus.current_ne (Nat.lt_succ_of_le hgrip)
      exact .inr ⟨n, hm.current_cons, hus.current_ne (Nat.lt_succ_of_le hgrip),
        fun h => absurd h hparen⟩
  | @nodeType n hnode =>
      refine .inr ⟨n, hm.current_cons, ?_, fun _ => hnode⟩
      rw [(Marks.tail hm).current_cons]
      nofun
  | instruction =>
      refine .inr ⟨_, hm.current_cons, ?_, fun _ => by decide⟩
      rw [(Marks.tail hm).current_cons]
      nofun

/-- An axis in front of a node test is passed over. -/
theorem IsAxis.readAxis {axis test us : List Token} (haxis : IsAxis axis) (htest : IsNodeTest test)
    (hgrip : gripOf us ≤ 10) (hm : Marks ts (axis ++ (test ++ us))) :
    ∃ rest, Marks rest (test ++ us) ∧ readAxis ts = .ok rest := by
  cases haxis with
  | none =>
      refine ⟨ts, hm, ?_⟩
      obtain hstar | ⟨n, hname, hcolons, -⟩ := htest.current_eq hgrip hm
      · rw [XPath.readAxis, hstar]
      · rw [XPath.readAxis, hname]
        exact if_neg hcolons
  | abbreviated =>
      refine ⟨ts.tail, Marks.tail hm, ?_⟩
      rw [XPath.readAxis, hm.current_cons]
  | named hmem =>
      refine ⟨ts.tail.tail, Marks.tail (Marks.tail hm), ?_⟩
      rw [XPath.readAxis, hm.current_cons]
      dsimp only
      rw [if_pos (Marks.tail hm).current_cons, if_pos hmem]

/-- A node test is passed over. -/
theorem IsNodeTest.readNodeTest {test us : List Token} (htest : IsNodeTest test)
    (hgrip : gripOf us ≤ 10) (hm : Marks ts (test ++ us)) :
    ∃ rest, Marks rest us ∧ readNodeTest ts = .ok rest := by
  cases htest with
  | any =>
      refine ⟨ts.tail, Marks.tail hm, ?_⟩
      rw [XPath.readNodeTest, hm.current_cons]
  | name n =>
      have hus : Marks ts.tail us := Marks.tail hm
      have hparen : current ts.tail ≠ .leftParen := hus.current_ne (Nat.lt_succ_of_le hgrip)
      refine ⟨ts.tail, hus, ?_⟩
      rw [XPath.readNodeTest, hm.current_cons]
      simp [hparen]
  | nodeType hnode =>
      have hparen : current ts.tail = .leftParen := (Marks.tail hm).current_cons
      have hclose : Marks ts.tail.tail (.rightParen :: us) := Marks.tail (Marks.tail hm)
      refine ⟨ts.tail.tail.tail, hclose.tail, ?_⟩
      rw [XPath.readNodeTest, hm.current_cons]
      simp [hnode, hparen, hclose.current_cons, hclose.expect]
  | instruction =>
      have hparen : current ts.tail = .leftParen := (Marks.tail hm).current_cons
      have hliteral : Marks ts.tail.tail (.literal :: .rightParen :: us) :=
        Marks.tail (Marks.tail hm)
      refine ⟨ts.tail.tail.tail.tail, hliteral.tail.tail, ?_⟩
      rw [XPath.readNodeTest, hm.current_cons]
      simp [hparen, hliteral.current_cons, hliteral.tail.expect, nodeTypes]

/-- A step with a node test is no abbreviation, and no filter expression starts like it. -/
theorem IsAxis.starts {axis test us : List Token} (haxis : IsAxis axis) (htest : IsNodeTest test)
    (hgrip : gripOf us ≤ 10) (hm : Marks ts (axis ++ (test ++ us))) :
    startsFilter ts = false ∧ ¬ (current ts = .dot ∨ current ts = .dotDot) := by
  cases haxis with
  | none =>
      obtain hstar | ⟨n, hname, -, hparen⟩ := htest.current_eq hgrip hm
      · rw [startsFilter, hstar]
        exact ⟨rfl, by simp⟩
      · rw [startsFilter, hname]
        exact ⟨by simpa using hparen, by simp⟩
  | abbreviated =>
      rw [startsFilter, hm.current_cons]
      exact ⟨rfl, by simp⟩
  | named _ =>
      rw [startsFilter, hm.current_cons]
      exact ⟨by simp [(Marks.tail hm).current_cons], by simp⟩

end Loops

namespace Reads

variable {us mid vs : List Token} {b : Binary}

/-- A reader takes a step in any case. -/
theorem of_succ {s : Symbol} (h : gripOf vs ≤ s.bound → ∀ ts, Marks ts us → ∃ rest, Marks rest vs ∧
      ∀ fuel, 16 * us.length + s.rank ≤ fuel + 1 → Goes s (fuel + 1) ts rest) : Reads s us vs := by
  intro hgrip ts hm
  obtain ⟨rest, hrest, hgoes⟩ := h hgrip ts hm
  refine ⟨rest, hrest, fun fuel hfuel => ?_⟩
  have hpos := s.rank_pos
  obtain ⟨fuel, rfl⟩ : ∃ k, fuel = k + 1 := ⟨fuel - 1, by omega⟩
  exact hgoes fuel hfuel

/-- An operand without an operator behind it is read by its level. -/
theorem operand (h : Derives b.operand us vs) (ih : Reads b.operand us vs) :
    Reads (.binary b) us vs := by
  refine of_succ fun hgrip ts hm => ?_
  have hgrip : gripOf vs ≤ b.level + 2 := hgrip
  have hrank := b.rank_operand
  obtain ⟨rest, hrest, hgoes⟩ := ih (Nat.le_trans hgrip b.le_bound_operand) ts hm
  refine ⟨rest, hrest, fun fuel hfuel => ?_⟩
  have hlt := h.length_lt b.operand_ne_predicates
  have hlevel : b.level < 6 := b.level_lt
  simp only [Symbol.rank] at hfuel
  refine ⟨fuel, by rw [hrest.length]; omega, ?_⟩
  rw [readBinary, if_pos b.level_lt, (hgoes fuel (by omega)).operand_end hrest hgrip]
  rfl

/-- An operand is read behind what the level has read so far. -/
theorem operator {op : Token} (hop : op ∈ b.operators) (hright : Derives b.operand mid vs)
    (ihleft : Reads (.binary b) us (op :: mid)) (ihright : Reads b.operand mid vs) :
    Reads (.binary b) us vs := by
  intro hgrip ts hm
  have hgrip : gripOf vs ≤ b.level + 2 := hgrip
  have hrank := b.rank_operand
  obtain ⟨first, hfirst, hgoes⟩ := ihleft (Nat.le_of_eq (grip_operator hop)) ts hm
  obtain ⟨rest, hrest, hgoes'⟩ :=
    ihright (Nat.le_trans hgrip b.le_bound_operand) first.tail hfirst.tail
  refine ⟨rest, hrest, fun fuel hfuel => ?_⟩
  have hlt := hright.length_lt b.operand_ne_predicates
  -- the loop behind the left operand is still open, and takes the operator next
  obtain ⟨left, hleft, hread⟩ := hgoes fuel hfuel
  rw [hfirst.length, List.length_cons] at hleft
  obtain ⟨left, rfl⟩ : ∃ k, left = k + 1 := ⟨left - 1, by omega⟩
  refine ⟨left, by rw [hrest.length]; omega, ?_⟩
  rw [hread, readOperands, hfirst.current_cons, if_pos (isOperator_level.mpr hop),
    (hgoes' left (by omega)).operand_end hrest hgrip]
  rfl

/-- An operand without a sign is read. -/
theorem positive (h : Derives .union us vs) (ih : Reads .union us vs) : Reads .unary us vs := by
  refine of_succ fun hgrip ts hm => ?_
  have hgrip : gripOf vs ≤ 7 := hgrip
  obtain ⟨rest, hrest, hgoes⟩ := ih (Nat.le_succ_of_le hgrip) ts hm
  refine ⟨rest, hrest, fun fuel hfuel => ?_⟩
  have hfuel : 16 * us.length + 6 ≤ fuel + 1 := hfuel
  obtain ⟨left, -, hread⟩ := hgoes fuel (by simp only [Symbol.rank]; omega)
  have hpipe : current rest ≠ .pipe := hrest.current_ne (Nat.lt_succ_of_le hgrip)
  have hdrop : ts.dropWhile (fun l => l.token = .minus) = ts := by
    obtain ⟨t, us, rfl, ht⟩ := h.exists_cons nofun
    rw [hm.dropWhile_cons, if_neg]
    rintro rfl
    contradiction
  rw [Goes, readBinary, if_neg (Nat.lt_irrefl levels), hdrop, hread, if_neg hpipe]

/-- A sign is dropped in front of an operand. -/
theorem negative (ih : Reads .unary us vs) : Reads .unary (.minus :: us) vs := by
  refine of_succ fun hgrip ts hm => ?_
  obtain ⟨rest, hrest, hgoes⟩ := ih hgrip ts.tail hm.tail
  refine ⟨rest, hrest, fun fuel hfuel => ?_⟩
  have hfuel : 16 * (us.length + 1) + 6 ≤ fuel + 1 := hfuel
  have hread : readBinary (fuel + 1) levels ts.tail = .ok rest :=
    hgoes (fuel + 1) (by simp only [Symbol.rank]; omega)
  rw [readBinary, if_neg (Nat.lt_irrefl levels)] at hread
  rw [Goes, readBinary, if_neg (Nat.lt_irrefl levels), hm.dropWhile_cons, if_pos rfl, hread]

/-- A path without a bar behind it is read as a union. -/
theorem single (h : Derives .path us vs) (ih : Reads .path us vs) : Reads .union us vs := by
  refine of_succ fun hgrip ts hm => ?_
  obtain ⟨rest, hrest, hgoes⟩ := ih hgrip ts hm
  refine ⟨rest, hrest, fun fuel hfuel => ?_⟩
  have hfuel : 16 * us.length + 5 ≤ fuel + 1 := hfuel
  have hlt := h.length_lt nofun
  have hread : readPath fuel ts = .ok rest := hgoes fuel (by simp only [Symbol.rank]; omega)
  refine ⟨fuel, by rw [hrest.length]; omega, ?_⟩
  rw [readUnion, hread]
  rfl

/-- A path is read behind a bar. -/
theorem bar (hright : Derives .path mid vs) (ihleft : Reads .union us (.pipe :: mid))
    (ihright : Reads .path mid vs) : Reads .union us vs := by
  intro hgrip ts hm
  obtain ⟨first, hfirst, hgoes⟩ := ihleft (Nat.le_refl 8) ts hm
  obtain ⟨rest, hrest, hgoes'⟩ := single hright ihright hgrip first.tail hfirst.tail
  refine ⟨rest, hrest, fun fuel hfuel => ?_⟩
  obtain ⟨left, hleft, hread⟩ := hgoes fuel hfuel
  rw [hfirst.length, List.length_cons] at hleft
  obtain ⟨left', hleft', hread'⟩ := hgoes' left (by simp only [Symbol.rank]; omega)
  refine ⟨left', hleft', ?_⟩
  rw [hread, if_pos hfirst.current_cons, hread']

/-! ### filter expressions -/

/-- A path that starts with a filter expression goes on with steps behind a separator. -/
theorem readPath_filter {fuel : Nat} {ts rest : List Lexeme} (h : Goes .filter fuel ts rest)
    (hm : Marks rest vs) (hgrip : gripOf vs ≤ 9) :
    readPath (fuel + 1) ts =
      if isStepSeparator (current rest) then readSteps fuel rest.tail else .ok rest := by
  obtain ⟨hstarts, left, hleft, hread⟩ := h
  rw [readPredicates_stop (hm.pos_of_le hleft) hm hgrip] at hread
  rw [readPath, if_pos hstarts, ← bind_assoc, hread]
  rfl

/-- A filter expression is read as a path. -/
theorem filter (ih : Reads .filter us vs) : Reads .path us vs := by
  refine of_succ fun hgrip ts hm => ?_
  have hgrip : gripOf vs ≤ 8 := hgrip
  obtain ⟨rest, hrest, hgoes⟩ := ih (Nat.le_trans hgrip (by decide)) ts hm
  refine ⟨rest, hrest, fun fuel hfuel => ?_⟩
  have hfuel : 16 * us.length + 4 ≤ fuel + 1 := hfuel
  have hgoes := hgoes fuel (by simp only [Symbol.rank]; omega)
  rw [Goes, readPath_filter hgoes hrest (Nat.le_succ_of_le hgrip), hrest.steps_end hgrip]

/-- A filter expression is read with the steps behind it. -/
theorem descent {sep : Token} (hsep : sep ∈ separators) (hleft : Derives .filter us (sep :: mid))
    (ihleft : Reads .filter us (sep :: mid)) (ihright : Reads .relative mid vs) :
    Reads .path us vs := by
  refine of_succ fun hgrip ts hm => ?_
  have hgrip : gripOf vs ≤ 8 := hgrip
  have hfilter : gripOf (sep :: mid) = 9 := grip_separator hsep
  obtain ⟨first, hfirst, hgoes⟩ := ihleft (hfilter ▸ by decide) ts hm
  obtain ⟨rest, hrest, hgoes'⟩ := ihright (Nat.le_succ_of_le hgrip) first.tail hfirst.tail
  refine ⟨rest, hrest, fun fuel hfuel => ?_⟩
  have hfuel : 16 * us.length + 4 ≤ fuel + 1 := hfuel
  have hlt := hleft.length_lt nofun
  rw [List.length_cons] at hlt
  have hgoes := hgoes fuel (by simp only [Symbol.rank]; omega)
  obtain ⟨-, left, -, hread⟩ := hgoes' fuel (by simp only [Symbol.rank]; omega)
  rw [Goes, readPath_filter hgoes hfirst (Nat.le_of_eq hfilter), hfirst.current_cons,
    if_pos (isStepSeparator_iff.mpr hsep), hread, hrest.steps_end hgrip]

/-- A primary expression without predicates is read as a filter expression. -/
theorem primary (h : Derives .primary us vs) (ih : Reads .primary us vs) : Reads .filter us vs := by
  intro hgrip ts hm
  have hgrip : gripOf vs ≤ 10 := hgrip
  obtain ⟨rest, hrest, hgoes⟩ := ih (Nat.le_succ_of_le hgrip) ts hm
  refine ⟨rest, hrest, fun fuel hfuel => ?_⟩
  obtain ⟨hstarts, hread⟩ := hgoes fuel hfuel
  have hfuel : 16 * us.length + 3 ≤ fuel := hfuel
  have hlt := h.length_lt nofun
  refine ⟨hstarts, fuel, by rw [hrest.length]; omega, ?_⟩
  rw [hread, ok_bind]

/-- A predicate is read behind a filter expression. -/
theorem filtered (hright : Derives .predicate mid vs) (ihleft : Reads .filter us mid)
    (ihright : Reads .predicate mid vs) : Reads .filter us vs := by
  intro hgrip ts hm
  have hgrip : gripOf vs ≤ 10 := hgrip
  obtain ⟨first, hfirst, hgoes⟩ := ihleft (Nat.le_of_eq hright.grip_predicate) ts hm
  obtain ⟨rest, hrest, hgoes'⟩ := ihright (Nat.le_succ_of_le hgrip) first hfirst
  refine ⟨rest, hrest, fun fuel hfuel => ?_⟩
  obtain ⟨hstarts, left, hleft, hread⟩ := hgoes fuel hfuel
  rw [hfirst.length] at hleft
  obtain ⟨left', hleft', hread'⟩ := hgoes' left (by simp only [Symbol.rank]; omega)
  exact ⟨hstarts, left', hleft', hread.trans hread'⟩

/-! ### primary expressions -/

/-- An expression is read to its end in front of a comma or a closing bracket. -/
theorem expression_end {ts : List Lexeme} (ih : Reads .expression us vs) (hgrip : gripOf vs ≤ 1)
    (hm : Marks ts us) : ∃ rest, Marks rest vs ∧
      ∀ fuel, 16 * us.length + 12 ≤ fuel → readBinary fuel 0 ts = .ok rest := by
  obtain ⟨rest, hrest, hgoes⟩ := ih (Nat.le_succ_of_le hgrip) ts hm
  exact ⟨rest, hrest, fun fuel hfuel =>
    (hgoes fuel hfuel).binary_end hrest (Nat.lt_succ_of_le hgrip)⟩

theorem constant {t : Token} (ht : t = .literal ∨ t = .number) : Reads .primary (t :: vs) vs := by
  refine of_succ fun _ ts hm => ⟨ts.tail, hm.tail, fun fuel _ => ?_⟩
  rw [Goes, startsFilter, readPrimary, hm.current_cons]
  rcases ht with rfl | rfl <;> exact ⟨rfl, rfl⟩

/-- A variable is read. -/
theorem reference {n : String} : Reads .primary (.dollar :: .name n :: vs) vs := by
  refine of_succ fun _ ts hm => ?_
  refine ⟨ts.tail.tail, hm.tail.tail, fun fuel hfuel => ?_⟩
  constructor
  · rw [startsFilter, hm.current_cons]
  · rw [readPrimary, hm.current_cons]
    dsimp only
    rw [hm.tail.current_cons]

/-- An expression in parentheses is read. -/
theorem parentheses (ih : Reads .expression us (.rightParen :: vs)) :
    Reads .primary (.leftParen :: us) vs := by
  refine of_succ fun _ ts hm => ?_
  obtain ⟨rest, hrest, hread⟩ := ih.expression_end (Nat.zero_le 1) hm.tail
  refine ⟨rest.tail, hrest.tail, fun fuel hfuel => ?_⟩
  have hfuel : 16 * (us.length + 1) + 3 ≤ fuel + 1 := hfuel
  constructor
  · rw [startsFilter, hm.current_cons]
  · rw [readPrimary, hm.current_cons]
    dsimp only
    rw [hread fuel (by omega), ok_bind, hrest.expect]

/-- A function call starts with a name that is not a node type, and a parenthesis. -/
theorem startsFilter_call {n : String} {ts : List Lexeme} (hname : n ∉ nodeTypes)
    (hm : Marks ts (.name n :: .leftParen :: us)) : startsFilter ts = true := by
  rw [startsFilter, hm.current_cons]
  simp [hm.tail.current_cons, hname]

/-- A call without arguments is read, unless its name is that of a node type. -/
theorem call {n : String} (hname : n ∉ nodeTypes) :
    Reads .primary (.name n :: .leftParen :: .rightParen :: vs) vs := by
  refine of_succ fun _ ts hm => ?_
  refine ⟨ts.tail.tail.tail, hm.tail.tail.tail, fun fuel hfuel => ?_⟩
  refine ⟨startsFilter_call hname hm, ?_⟩
  rw [readPrimary, hm.current_cons]
  dsimp only
  rw [hm.tail.expect, ok_bind, if_pos hm.tail.tail.current_cons]
  rfl

/-- A call with arguments is read. -/
theorem callWith {n : String} (hname : n ∉ nodeTypes)
    (h : Derives .arguments us (.rightParen :: vs))
    (ih : Reads .arguments us (.rightParen :: vs)) :
    Reads .primary (.name n :: .leftParen :: us) vs := by
  refine of_succ fun _ ts hm => ?_
  obtain ⟨rest, hrest, hgoes⟩ := ih (Nat.le_refl 0) ts.tail.tail hm.tail.tail
  refine ⟨rest.tail, hrest.tail, fun fuel hfuel => ?_⟩
  have hfuel : 16 * (us.length + 1 + 1) + 3 ≤ fuel + 1 := hfuel
  have hparen : current ts.tail.tail ≠ .rightParen := by
    obtain ⟨t, us, rfl, ht⟩ := h.exists_cons nofun
    rw [hm.tail.tail.current_cons]
    rintro rfl
    contradiction
  have hread : readArguments fuel ts.tail.tail = expect .rightParen rest :=
    hgoes fuel (by simp only [Symbol.rank]; omega)
  refine ⟨startsFilter_call hname hm, ?_⟩
  rw [readPrimary, hm.current_cons]
  dsimp only
  rw [hm.tail.expect, ok_bind, if_neg hparen, hread, hrest.expect]

/-- A single argument is read. -/
theorem argument (ih : Reads .expression us vs) : Reads .arguments us vs := by
  refine of_succ fun hgrip ts hm => ?_
  have hgrip : gripOf vs ≤ 0 := hgrip
  obtain ⟨rest, hrest, hread⟩ := ih.expression_end (Nat.le_succ_of_le hgrip) hm
  refine ⟨rest, hrest, fun fuel hfuel => ?_⟩
  have hfuel : 16 * us.length + 13 ≤ fuel + 1 := hfuel
  have hcomma : current rest ≠ .comma := hrest.current_ne (Nat.lt_succ_of_le hgrip)
  rw [Goes, readArguments, hread fuel (by omega), ok_bind, if_neg hcomma]

/-- An argument with others behind it is read. -/
theorem arguments (hfirst : Derives .expression us (.comma :: mid))
    (ihfirst : Reads .expression us (.comma :: mid)) (ihothers : Reads .arguments mid vs) :
    Reads .arguments us vs := by
  refine of_succ fun hgrip ts hm => ?_
  obtain ⟨first, hcomma, hread⟩ := ihfirst.expression_end (Nat.le_refl 1) hm
  obtain ⟨rest, hrest, hgoes⟩ := ihothers hgrip first.tail hcomma.tail
  refine ⟨rest, hrest, fun fuel hfuel => ?_⟩
  have hfuel : 16 * us.length + 13 ≤ fuel + 1 := hfuel
  have hlt := hfirst.length_lt nofun
  rw [List.length_cons] at hlt
  have hothers : readArguments fuel first.tail = expect .rightParen rest :=
    hgoes fuel (by simp only [Symbol.rank]; omega)
  rw [Goes, readArguments, hread fuel (by omega), ok_bind, if_pos hcomma.current_cons, hothers]

/-! ### location paths -/

/-- A relative path is read where no filter expression starts. -/
theorem relative (h : Derives .relative us vs) (ih : Reads .relative us vs) :
    Reads .location us vs := by
  refine of_succ fun hgrip ts hm => ?_
  have hgrip : gripOf vs ≤ 8 := hgrip
  obtain ⟨rest, hrest, hgoes⟩ := ih (Nat.le_succ_of_le hgrip) ts hm
  refine ⟨rest, hrest, fun fuel hfuel => ?_⟩
  have hfuel : 16 * us.length + 4 ≤ fuel + 1 := hfuel
  obtain ⟨hstarts, left, -, hread⟩ := hgoes fuel (by simp only [Symbol.rank]; omega)
  obtain ⟨t, us, rfl, ht⟩ := h.exists_cons nofun
  rw [hrest.steps_end hgrip] at hread
  rw [Goes, readPath, if_neg (by simp [hstarts]), hm.current_cons]
  -- no step starts with a separator
  cases t with
  | slash | doubleSlash => contradiction
  | _ => exact hread

/-- The root alone is read where no step follows. -/
theorem root (hnext : ∀ t, vs.head? = some t → startsStep t = false) :
    Reads .location (.slash :: vs) vs := by
  refine of_succ fun _ ts hm => ?_
  refine ⟨ts.tail, hm.tail, fun fuel hfuel => ?_⟩
  have hstop : startsStep (current ts.tail) = false := by
    rw [hm.tail.current_eq]
    cases vs with
    | nil => rfl
    | cons t vs => exact hnext t rfl
  have hstarts : startsFilter ts = false := by rw [startsFilter, hm.current_cons]
  rw [Goes, readPath, if_neg (by simp [hstarts]), hm.current_cons]
  simp [hstop]

/-- A path from the root is read. -/
theorem absolute {sep : Token} (hsep : sep ∈ separators) (h : Derives .relative us vs)
    (ih : Reads .relative us vs) : Reads .location (sep :: us) vs := by
  refine of_succ fun hgrip ts hm => ?_
  have hgrip : gripOf vs ≤ 8 := hgrip
  obtain ⟨rest, hrest, hgoes⟩ := ih (Nat.le_succ_of_le hgrip) ts.tail hm.tail
  refine ⟨rest, hrest, fun fuel hfuel => ?_⟩
  have hfuel : 16 * (us.length + 1) + 4 ≤ fuel + 1 := hfuel
  obtain ⟨-, left, -, hread⟩ := hgoes fuel (by simp only [Symbol.rank]; omega)
  obtain ⟨t, us, rfl, ht⟩ := h.exists_cons nofun
  rw [hrest.steps_end hgrip] at hread
  have hstep : startsStep (current ts.tail) = true := by
    rw [hm.tail.current_cons]
    exact ht
  simp only [separators, List.mem_cons, List.not_mem_nil, or_false] at hsep
  have hstarts : startsFilter ts = false := by
    rw [startsFilter, hm.current_cons]
    rcases hsep with rfl | rfl <;> rfl
  rw [Goes, readPath, if_neg (by simp [hstarts]), hm.current_cons]
  rcases hsep with rfl | rfl
  · dsimp only
    rw [if_pos hstep, hread]
  · exact hread

/-- A step without others behind it is read. -/
theorem step (h : Derives .step us vs) (ih : Reads .step us vs) : Reads .relative us vs := by
  refine of_succ fun hgrip ts hm => ?_
  obtain ⟨rest, hrest, hgoes⟩ := ih hgrip ts hm
  refine ⟨rest, hrest, fun fuel hfuel => ?_⟩
  have hfuel : 16 * us.length + 3 ≤ fuel + 1 := hfuel
  have hlt := h.length_lt nofun
  obtain ⟨hstarts, hread⟩ := hgoes fuel (by simp only [Symbol.rank]; omega)
  refine ⟨hstarts, fuel, by rw [hrest.length]; omega, ?_⟩
  rw [readSteps, hread]
  rfl

/-- A step is read behind a separator. -/
theorem steps {sep : Token} (hsep : sep ∈ separators) (hright : Derives .step mid vs)
    (ihleft : Reads .relative us (sep :: mid)) (ihright : Reads .step mid vs) :
    Reads .relative us vs := by
  intro hgrip ts hm
  obtain ⟨first, hfirst, hgoes⟩ := ihleft (Nat.le_of_eq (grip_separator hsep)) ts hm
  obtain ⟨rest, hrest, hgoes'⟩ := step hright ihright hgrip first.tail hfirst.tail
  refine ⟨rest, hrest, fun fuel hfuel => ?_⟩
  obtain ⟨hstarts, left, hleft, hread⟩ := hgoes fuel hfuel
  rw [hfirst.length, List.length_cons] at hleft
  obtain ⟨-, left', hleft', hread'⟩ := hgoes' left (by simp only [Symbol.rank]; omega)
  refine ⟨hstarts, left', hleft', ?_⟩
  rw [hread, hfirst.current_cons, if_pos (isStepSeparator_iff.mpr hsep), hread']

theorem abbreviation {t : Token} (ht : t = .dot ∨ t = .dotDot) : Reads .step (t :: vs) vs := by
  refine of_succ fun _ ts hm => ⟨ts.tail, hm.tail, fun fuel _ => ?_⟩
  rw [Goes, startsFilter, readStep, hm.current_cons]
  rcases ht with rfl | rfl <;> exact ⟨rfl, rfl⟩

/-- A step is read with its axis, its node test and its predicates. -/
theorem test {axis test : List Token} (haxis : IsAxis axis) (htest : IsNodeTest test)
    (h : Derives .predicates us vs) (ih : Reads .predicates us vs) :
    Reads .step (axis ++ (test ++ us)) vs := by
  refine of_succ fun hgrip ts hm => ?_
  -- behind the node test stands a predicate or what follows the step, so the test is read whole
  have hus := h.grip_predicates hgrip
  obtain ⟨behind, hbehind, hreadAxis⟩ := haxis.readAxis htest hus hm
  obtain ⟨inside, hinside, hreadTest⟩ := htest.readNodeTest hus hbehind
  obtain ⟨rest, hrest, hgoes⟩ := ih hgrip inside hinside
  refine ⟨rest, hrest, fun fuel hfuel => ?_⟩
  have hpos := htest.length_pos
  simp only [List.length_append, Symbol.rank] at hfuel
  have hread : readPredicates fuel inside = .ok rest :=
    hgoes fuel (by simp only [Symbol.rank]; omega)
  obtain ⟨hstarts, hdots⟩ := haxis.starts htest hus hm
  refine ⟨hstarts, ?_⟩
  rw [readStep, if_neg (by simpa using hdots), hreadAxis, ok_bind, hreadTest, ok_bind, hread]

/-! ### predicates -/

/-- Where no bracket follows there are no predicates. -/
theorem noPredicates : Reads .predicates vs vs := by
  intro hgrip ts hm
  refine ⟨ts, hm, fun fuel hfuel => ?_⟩
  rw [Goes, readPredicates_stop _ hm hgrip]
  simp only [Symbol.rank] at hfuel
  omega

/-- A predicate with others behind it is read. -/
theorem predicates (hothers : Derives .predicates mid vs) (ihfirst : Reads .predicate us mid)
    (ihothers : Reads .predicates mid vs) : Reads .predicates us vs := by
  intro hgrip ts hm
  obtain ⟨first, hfirst, hgoes⟩ :=
    ihfirst (Nat.le_succ_of_le (hothers.grip_predicates hgrip)) ts hm
  obtain ⟨rest, hrest, hgoes'⟩ := ihothers hgrip first hfirst
  refine ⟨rest, hrest, fun fuel hfuel => ?_⟩
  obtain ⟨left, hleft, hread⟩ := hgoes fuel hfuel
  rw [hfirst.length] at hleft
  exact hread.trans (hgoes' left (by simp only [Symbol.rank]; omega))

/-- A predicate is read up to its bracket. -/
theorem predicate (h : Derives .expression us (.rightBracket :: vs))
    (ih : Reads .expression us (.rightBracket :: vs)) :
    Reads .predicate (.leftBracket :: us) vs := by
  refine of_succ fun _ ts hm => ?_
  obtain ⟨rest, hrest, hread⟩ := ih.expression_end (Nat.zero_le 1) hm.tail
  refine ⟨rest.tail, hrest.tail, fun fuel hfuel => ?_⟩
  have hfuel : 16 * (us.length + 1) + 1 ≤ fuel + 1 := hfuel
  have hlt := h.length_lt nofun
  rw [List.length_cons] at hlt
  refine ⟨fuel, by rw [hrest.tail.length]; omega, ?_⟩
  rw [readPredicates, if_pos hm.current_cons, hread fuel (by omega), ok_bind, hrest.expect, ok_bind]

end Reads

/-! ## the recogniser -/

/-- A phrase is read to its end if what follows does not hold on to it. -/
theorem Derives.reads {s : Symbol} {us vs : List Token} (h : Derives s us vs) : Reads s us vs := by
  induction h with
  | operand h ih => exact .operand h ih
  | operator hop _ hright ihleft ihright => exact .operator hop hright ihleft ihright
  | positive h ih => exact .positive h ih
  | negative _ ih => exact .negative ih
  | single h ih => exact .single h ih
  | bar _ hright ihleft ihright => exact .bar hright ihleft ihright
  | location _ ih => exact ih
  | filter _ ih => exact .filter ih
  | descent hsep hleft _ ihleft ihright => exact .descent hsep hleft ihleft ihright
  | primary h ih => exact .primary h ih
  | filtered _ hright ihleft ihright => exact .filtered hright ihleft ihright
  | literal => exact .constant (.inl rfl)
  | number => exact .constant (.inr rfl)
  | reference => exact .reference
  | parentheses _ ih => exact .parentheses ih
  | call hname => exact .call hname
  | callWith hname h ih => exact .callWith hname h ih
  | argument _ ih => exact .argument ih
  | arguments hfirst _ ihfirst ihothers => exact .arguments hfirst ihfirst ihothers
  | relative h ih => exact .relative h ih
  | root hnext => exact .root hnext
  | absolute hsep h ih => exact .absolute hsep h ih
  | step h ih => exact .step h ih
  | steps hsep _ hright ihleft ihright => exact .steps hsep hright ihleft ihright
  | self => exact .abbreviation (.inl rfl)
  | parent => exact .abbreviation (.inr rfl)
  | test haxis htest h ih => exact .test haxis htest h ih
  | noPredicates => exact .noPredicates
  | predicates _ hothers ihfirst ihothers => exact .predicates hothers ihfirst ihothers
  | predicate h ih => exact .predicate h ih

/-- At the end of the query no tokens are left. -/
theorem Marks.eq_nil {ts : List Lexeme} {us : List Token} (h : Marks ts us)
    (hend : current ts = .endOfQuery) : us = [] := by
  rw [h.current_eq] at hend
  cases us with
  | nil => rfl
  | cons t us =>
      obtain rfl : t = .endOfQuery := hend
      exact absurd List.mem_cons_self h.no_end

/-- The recogniser accepts exactly the expressions: a sequence of tokens with the mark of the end
behind it passes if and only if the whole of it derives from the grammar. -/
theorem recognise_iff_derives (ts : List Lexeme) (us : List Token) (hend : .endOfQuery ∉ us)
    (htokens : ts.map Lexeme.token = us ++ [.endOfQuery]) :
    recognise ts = .ok () ↔ Derives .expression us [] := by
  have hm : Marks ts us := ⟨htokens, hend⟩
  have hlength := hm.length
  rw [recognise, bind_eq_ok]
  constructor
  · rintro ⟨rest, hread, hrest⟩
    obtain ⟨vs, hvs, hderives⟩ := (sound _).binary (b := .or) hm (by omega) hread
    split at hrest
    · next hcurrent => rwa [hvs.eq_nil hcurrent] at hderives
    · contradiction
  · intro hderives
    obtain ⟨rest, hrest, hread⟩ := hderives.reads.expression_end (Nat.zero_le 1) hm
    have hcurrent : current rest = .endOfQuery := hrest.current_eq
    refine ⟨rest, hread _ (by omega), ?_⟩
    rw [if_pos hcurrent]
    rfl

/-- The tokens as lexemes, with the mark of the end behind them. -/
def lexemes (us : List Token) : List Lexeme := (us ++ [Token.endOfQuery]).map (⟨·, 0⟩)

/-- The tokens of `div div - //or[@b] | /`. -/
def operatorNames : List Token :=
  [.name "div", .name "div", .minus, .doubleSlash, .name "or", .leftBracket, .atSign, .name "b",
    .rightBracket, .pipe, .slash]

/-- The tokens of `/ or /`. -/
def slashes : List Token := [.slash, .name "or", .slash]

/-- The names of operators are names of elements where an operand is due. So is the name behind the
first slash of the other sequence, whose second slash lacks a step. -/
theorem recognise_iff_derives_operatorNames :
    Derives .expression operatorNames [] ∧ ¬ Derives .expression slashes [] := by
  constructor
  · exact (recognise_iff_derives (lexemes operatorNames) _ (by decide) rfl).mp (by decide)
  · exact mt (recognise_iff_derives (lexemes slashes) _ (by decide) rfl).mpr (by decide)

end Extractor.XPath
