import Extractor.Proofs.OperandDue

/-!
# Extractor.Proofs.LastStep

What becomes of an expression when its last step is taken off. The separator in front
of the step goes on with a path or starts one, and what is due there tells which: if an
operand is due, the tokens in front of the separator are an expression with a slash
behind them, and elsewhere they are one as they stand, never both (`Derives.cut`).

The step may be one of those that extraction suffixes look like. No phrase but a path
ends with a separator and such a step, so the separator is found by going down on the
right side of the derivation (`Derives.left`). What stands on the left side is moved in
front of another rest on the way, which matters behind a slash on its own only
(`Derives.movable`).
-/

namespace Extractor.XPath

/-! ## what follows -/

/-- One rest can stand where another stands: it starts with a token that may start a step only if
the other starts with the same token. -/
def Admits (rest rest' : List Token) : Prop :=
  ∀ t, rest'.head? = some t → startsStep t = true → rest.head? = some t

/-- The same tokens may be put in front of both rests. -/
theorem Admits.append {rest rest' : List Token} (h : Admits rest rest') (ps : List Token) :
    Admits (ps ++ rest) (ps ++ rest') := by
  cases ps with
  | nil => exact h
  | cons p ps => exact fun t ht _ => ht

/-- A rest may be replaced by one with the same first token, or by nothing. -/
theorem Admits.cons (t : Token) (rest rest' : List Token) : Admits (t :: rest) (t :: rest') :=
  fun _ ht _ => ht

theorem Admits.nil (rest : List Token) : Admits rest [] := by
  intro t ht
  cases ht

/-- The tokens up to the rest are a phrase of the symbol in front of every rest that can stand
there. -/
def Movable (s : Symbol) (us rest : List Token) : Prop :=
  ∃ ps, us = ps ++ rest ∧ ∀ rest', Admits rest rest' → Derives s (ps ++ rest') rest'

namespace Movable

variable {s s' s'' : Symbol} {us mid rest : List Token} {t : Token}

/-- Tokens that are a phrase in front of everything are movable. -/
theorem tokens (ps : List Token) (rest : List Token) (h : ∀ rest, Derives s (ps ++ rest) rest) :
    Movable s (ps ++ rest) rest :=
  ⟨ps, rfl, fun rest' _ => h rest'⟩

/-- Each way to build a phrase keeps it movable. -/
theorem behind (front : List Token) (h : Movable s us rest)
    (hs : ∀ us rest, Derives s us rest → Derives s' (front ++ us) rest) :
    Movable s' (front ++ us) rest := by
  obtain ⟨ps, rfl, hps⟩ := h
  refine ⟨front ++ ps, (List.append_assoc ..).symm, fun rest' hrest => ?_⟩
  rw [List.append_assoc]
  exact hs _ _ (hps rest' hrest)

theorem append (h : Movable s us mid) (h' : Movable s' mid rest)
    (hs : ∀ us mid rest, Derives s us mid → Derives s' mid rest → Derives s'' us rest) :
    Movable s'' us rest := by
  obtain ⟨ps, rfl, hps⟩ := h
  obtain ⟨qs, rfl, hqs⟩ := h'
  refine ⟨ps ++ qs, (List.append_assoc ..).symm, fun rest' hrest => ?_⟩
  rw [List.append_assoc]
  exact hs _ _ _ (hps _ (hrest.append qs)) (hqs rest' hrest)

theorem join (h : Movable s us (t :: mid)) (h' : Movable s' mid rest)
    (hs : ∀ us mid rest, Derives s us (t :: mid) → Derives s' mid rest → Derives s'' us rest) :
    Movable s'' us rest := by
  obtain ⟨ps, rfl, hps⟩ := h
  obtain ⟨qs, rfl, hqs⟩ := h'
  refine ⟨ps ++ t :: qs, by simp, fun rest' hrest => ?_⟩
  rw [List.append_assoc]
  exact hs _ _ _ (hps _ (.cons t _ _)) (hqs rest' hrest)

theorem enclosed (front : List Token) (h : Movable s us (t :: rest))
    (hs : ∀ us rest, Derives s us (t :: rest) → Derives s' (front ++ us) rest) :
    Movable s' (front ++ us) rest := by
  obtain ⟨ps, rfl, hps⟩ := h
  refine ⟨front ++ (ps ++ [t]), by simp, fun rest' hrest => ?_⟩
  rw [List.append_assoc, List.append_assoc]
  exact hs _ _ (hps _ (.cons t _ _))

end Movable

/-- **Every phrase is movable.** -/
theorem Derives.movable {s : Symbol} {us rest : List Token} (h : Derives s us rest) :
    Movable s us rest := by
  induction h with
  | operand _ ih => exact ih.behind [] fun _ _ => .operand
  | operator hop _ _ ihleft ihright => exact ihleft.join ihright fun _ _ _ => .operator hop
  | positive _ ih => exact ih.behind [] fun _ _ => .positive
  | negative _ ih => exact ih.behind [_] fun _ _ => .negative
  | single _ ih => exact ih.behind [] fun _ _ => .single
  | bar _ _ ihleft ihright => exact ihleft.join ihright fun _ _ _ => .bar
  | location _ ih => exact ih.behind [] fun _ _ => .location
  | filter _ ih => exact ih.behind [] fun _ _ => .filter
  | descent hsep _ _ ihleft ihright => exact ihleft.join ihright fun _ _ _ => .descent hsep
  | primary _ ih => exact ih.behind [] fun _ _ => .primary
  | filtered _ _ ihleft ihright => exact ihleft.append ihright fun _ _ _ => .filtered
  | literal => exact .tokens [_] _ fun _ => .literal
  | number => exact .tokens [_] _ fun _ => .number
  | reference => exact .tokens [_, _] _ fun _ => .reference
  | parentheses _ ih => exact ih.enclosed [_] fun _ _ => .parentheses
  | call hname => exact .tokens [_, _, _] _ fun _ => .call hname
  | callWith hname _ ih => exact ih.enclosed [_, _] fun _ _ => .callWith hname
  | argument _ ih => exact ih.behind [] fun _ _ => .argument
  | arguments _ _ ihfirst ihothers => exact ihfirst.join ihothers fun _ _ _ => .arguments
  | relative _ ih => exact ih.behind [] fun _ _ => .relative
  | @root rest hnext =>
      refine ⟨[.slash], rfl, fun rest' hrest => .root fun t ht => ?_⟩
      by_contra hstart
      exact hstart (hnext t (hrest t ht (by simpa using hstart)))
  | absolute hsep _ ih => exact ih.behind [_] fun _ _ => .absolute hsep
  | step _ ih => exact ih.behind [] fun _ _ => .step
  | steps hsep _ _ ihleft ihright => exact ihleft.join ihright fun _ _ _ => .steps hsep
  | self => exact .tokens [_] _ fun _ => .self
  | parent => exact .tokens [_] _ fun _ => .parent
  | @test axis test ts rest haxis htest _ ih =>
      rw [← List.append_assoc]
      refine ih.behind (axis ++ test) fun us _ h => ?_
      rw [List.append_assoc]
      exact .test haxis htest h
  | noPredicates => exact .tokens [] _ fun _ => .noPredicates
  | predicates _ _ ihfirst ihothers => exact ihfirst.append ihothers fun _ _ _ => .predicates
  | predicate _ ih => exact ih.enclosed [_] fun _ _ => .predicate

/-! ## the end of an expression -/

/-- What may stand behind the last separator: nothing, or the tokens of an extraction suffix. -/
inductive IsEnd : List Token → Prop
  | nothing : IsEnd []
  | call {n : String} (h : n ∈ ["text", "raw"]) : IsEnd [.name n, .leftParen, .rightParen]
  | attr (n : String) : IsEnd [.atSign, .name n]

/-- The tokens of suffixes that have others behind them. -/
def suffixTokens : List Token := [.name "text", .name "raw", .leftParen, .atSign]

namespace IsEnd

variable {s : Symbol} {sep t : Token} {us vs mid xs : List Token}

/-- The last token. -/
theorem last_eq (h : IsEnd xs) (heq : vs ++ sep :: xs = us ++ [t]) :
    t = sep ∨ t = .rightParen ∨ ∃ n, t = .name n := by
  have hlast := congrArg List.getLast? heq
  cases h <;> simp only [List.getLast?_append, List.getLast?_cons_cons, List.getLast?_singleton,
    Option.some_or, Option.some.injEq] at hlast
  case nothing => exact .inl hlast.symm
  case call => exact .inr (.inl hlast.symm)
  case attr n => exact .inr (.inr ⟨n, hlast.symm⟩)

/-- All tokens of an end but the last are tokens of suffixes. -/
theorem mem_of_mem_dropLast (h : IsEnd xs) (ht : t ∈ xs.dropLast) : t ∈ suffixTokens := by
  cases h with
  | nothing => cases ht
  | call hn => grind [suffixTokens]
  | attr n => grind [suffixTokens]

/-- A token that stands between two phrases is the separator or stands in front of it. -/
theorem split (h : IsEnd xs) (heq : us ++ t :: mid = vs ++ sep :: xs)
    (ht : t ∉ suffixTokens) (hmid : mid ≠ []) :
    us = vs ∧ t = sep ∧ mid = xs ∨ ∃ ws, vs = us ++ t :: ws ∧ mid = ws ++ sep :: xs := by
  rcases List.append_eq_append_iff.mp heq with ⟨ws, rfl, hws⟩ | ⟨ws, rfl, hws⟩
  · cases ws with
    | nil => exact .inl (by simpa using hws)
    | cons w ws =>
        obtain ⟨rfl, rfl⟩ : t = w ∧ mid = ws ++ sep :: xs := by simpa using hws
        exact .inr ⟨ws, rfl, rfl⟩
  · cases ws with
    | nil => exact .inl (by simpa [eq_comm] using hws)
    | cons w ws =>
        obtain ⟨rfl, rfl⟩ : sep = w ∧ xs = ws ++ t :: mid := by simpa using hws
        refine absurd (h.mem_of_mem_dropLast ?_) ht
        rw [List.dropLast_append_of_ne_nil (List.cons_ne_nil t mid),
          List.dropLast_cons_of_ne_nil hmid]
        simp

end IsEnd

/-- Predicates close with a bracket. -/
theorem Derives.predicate_end {us rest : List Token} (h : Derives .predicate us rest) :
    ∃ ps, us = ps ++ .rightBracket :: rest := by
  cases h with
  | predicate h =>
      obtain ⟨ps, rfl, -⟩ := h.movable
      exact ⟨.leftBracket :: ps, rfl⟩

/-- Predicates are nothing or end in a bracket. -/
theorem Derives.predicates_end {us rest : List Token} (h : Derives .predicates us rest) :
    us = rest ∨ ∃ ps, us = ps ++ .rightBracket :: rest := by
  generalize hs : Symbol.predicates = s at h
  induction h with
  | noPredicates => exact .inl rfl
  | predicates hfirst hothers _ ih =>
      obtain ⟨ps, rfl⟩ := hfirst.predicate_end
      rcases ih rfl with rfl | ⟨qs, rfl⟩
      · exact .inr ⟨ps, rfl⟩
      · exact .inr ⟨ps ++ .rightBracket :: qs, by simp⟩
  | _ => cases hs

theorem Derives.ne_nil {s : Symbol} {us : List Token} (h : Derives s us [])
    (hs : s ≠ .predicates) : us ≠ [] :=
  List.ne_nil_of_length_pos (h.length_lt hs)

/-- A separator is not among tokens without separators. -/
theorem separators_disjoint {sep : Token} (hsep : sep ∈ separators) {us : List Token}
    (hus : us.all (!isStepSeparator ·) = true) : sep ∉ us := by
  intro hmem
  have hno := List.all_eq_true.mp hus sep hmem
  rw [isStepSeparator_iff.mpr hsep] at hno
  contradiction

/-- The first separator stands behind tokens that are none. -/
theorem exists_behind {sep : Token} {us vs xs : List Token} (front : List Token)
    (hfront : sep ∉ front) (heq : vs ++ sep :: xs = front ++ us) :
    ∃ ws, vs = front ++ ws ∧ us = ws ++ sep :: xs := by
  rcases List.append_eq_append_iff.mp heq with ⟨ws, rfl, hws⟩ | ⟨ws, rfl, rfl⟩
  · cases ws with
    | nil => exact ⟨[], by simp, by simpa using hws.symm⟩
    | cons w ws =>
        obtain ⟨rfl, -⟩ := List.cons.inj hws
        exact absurd (by simp) hfront
  · exact ⟨ws, rfl, rfl⟩

namespace IsEnd

variable {s : Symbol} {sep t : Token} {us vs mid xs : List Token}

/-- Tokens with such an end do not end in a bracket. -/
theorem ne_closed (h : IsEnd xs) (hsep : sep ∈ separators) (us : List Token) :
    vs ++ sep :: xs ≠ us ++ [.rightBracket] := by
  intro heq
  rcases h.last_eq heq with rfl | hlast | ⟨n, hlast⟩
  · exact absurd hsep (by decide)
  all_goals cases hlast

/-- A step has no separator outside its predicates. -/
theorem not_step (h : IsEnd xs) (hsep : sep ∈ separators) :
    ¬ Derives .step (vs ++ sep :: xs) [] := by
  intro hstep
  have hmem : sep ∈ vs ++ sep :: xs := by simp
  generalize hus : vs ++ sep :: xs = us at hstep hmem
  cases hstep with
  | self | parent => exact separators_disjoint hsep (by decide) hmem
  | @test axis test ts _ haxis htest hpredicates =>
      rcases hpredicates.predicates_end with rfl | ⟨ps, rfl⟩
      · refine separators_disjoint hsep ?_ hmem
        cases haxis <;> cases htest <;> rfl
      · exact h.ne_closed hsep (axis ++ (test ++ ps)) (by simpa using hus)

/-- What stands in parentheses does not end like this: the last parenthesis belongs to the step. -/
theorem not_inner (h : IsEnd xs) (hsep : sep ∈ separators) (hs : s.Entry .operand) :
    ¬ Derives s (vs ++ sep :: xs) [.rightParen] := by
  intro hinner
  obtain ⟨ps, heq, -⟩ := hinner.movable
  cases h with
  | nothing =>
      obtain ⟨-, rfl⟩ : vs = ps ∧ sep = .rightParen := by simpa using heq
      exact absurd hsep (by decide)
  | attr n =>
      have hlast := congrArg List.getLast? heq
      simp at hlast
  | @call n _ =>
      have hsplit : vs ++ [sep, .name n, .leftParen, .rightParen] =
          (vs ++ [sep, .name n] ++ [.leftParen]) ++ [.rightParen] := by simp
      rw [hsplit] at hinner
      obtain ⟨after, hleads, hexit⟩ := hinner.passes .operand hs
      -- behind a parenthesis that opens, an operand is due
      have hrun := hleads.run?_eq
      rw [Due.run?_append] at hrun
      obtain ⟨mid, -, hmid⟩ := Option.bind_eq_some_iff.mp hrun
      refine hexit.ne_operand ?_
      simp only [Due.run?_cons, Due.run?_nil, Due.next?] at hmid
      grind

/-- A filter expression has no separator outside its parentheses and predicates. -/
theorem not_filter (h : IsEnd xs) (hsep : sep ∈ separators) :
    ¬ Derives .filter (vs ++ sep :: xs) [] := by
  intro hfilter
  have hmem : sep ∈ vs ++ sep :: xs := by simp
  generalize hus : vs ++ sep :: xs = us at hfilter hmem
  cases hfilter with
  | filtered hleft hright =>
      obtain ⟨ps, rfl, -⟩ := hleft.movable
      obtain ⟨qs, rfl⟩ := hright.predicate_end
      exact h.ne_closed hsep (ps ++ qs) (by simpa using hus)
  | primary hprimary =>
      cases hprimary with
      | literal | number | reference | call => exact separators_disjoint hsep rfl hmem
      | parentheses hinner =>
          obtain ⟨ws, -, rfl⟩ := exists_behind [_] (separators_disjoint hsep rfl) hus
          exact h.not_inner hsep (s := .expression) rfl hinner
      | callWith _ hinner =>
          obtain ⟨ws, -, rfl⟩ := exists_behind [_, _] (separators_disjoint hsep rfl) hus
          exact h.not_inner hsep (s := .arguments) rfl hinner

/-- Without its last step a relative path is a relative path. -/
theorem relative (h : IsEnd xs) (hsep : sep ∈ separators)
    (hpath : Derives .relative (vs ++ sep :: xs) []) : xs ≠ [] ∧ Derives .relative vs [] := by
  generalize hus : vs ++ sep :: xs = us at hpath
  cases hpath with
  | step hstep =>
      rw [← hus] at hstep
      exact absurd hstep (h.not_step hsep)
  | @steps sep' _ mid _ hsep' hleft hright =>
      obtain ⟨ps, rfl, hps⟩ := hleft.movable
      have hmid := hright.ne_nil (by simp)
      rcases h.split hus.symm (separators_disjoint hsep' rfl) hmid with
        ⟨rfl, -, rfl⟩ | ⟨ws, rfl, rfl⟩
      · exact ⟨hmid, by simpa using hps [] (.nil _)⟩
      · exact absurd hright (h.not_step hsep)

end IsEnd

/-- What is left of a phrase without its last step: a phrase of the same symbol, or one if a slash
stands behind it, where a path is due. -/
def Left (s : Symbol) (vs xs : List Token) : Prop :=
  xs ≠ [] ∧ Derives s vs [] ∨
    Due.operand.run? vs = some .operand ∧ Derives s (vs ++ [.slash]) []

theorem Left.behind {s s' : Symbol} {vs xs : List Token} (h : Left s vs xs) (front : List Token)
    (hfront : Due.operand.run? front = some .operand)
    (hs : ∀ us, Derives s us [] → Derives s' (front ++ us) []) : Left s' (front ++ vs) xs := by
  rcases h with ⟨hxs, h⟩ | ⟨hrun, h⟩
  · exact .inl ⟨hxs, hs vs h⟩
  · refine .inr ⟨by simp [hfront, hrun], ?_⟩
    rw [List.append_assoc]
    exact hs _ h

/-- A token between two phrases is in front of the last separator, which belongs to the second. -/
theorem Left.join {s s' s'' : Symbol} {t sep : Token} {us mid vs xs : List Token}
    (hleft : Derives s us (t :: mid)) (hentry : s.Entry .operand)
    (hnext : ∀ due, s.Exit due (t :: mid) → due.next? t = some .operand) (hxs : IsEnd xs)
    (hus : vs ++ sep :: xs = us) (ht : t ∉ suffixTokens) (hne : t ≠ sep)
    (hmid : mid ≠ []) (hright : ∀ {ws}, ws ++ sep :: xs = mid → Left s' ws xs)
    (hs : ∀ us mid, Derives s us (t :: mid) → Derives s' mid [] → Derives s'' us []) :
    Left s'' vs xs := by
  obtain ⟨ps, rfl, hps⟩ := hleft.movable
  obtain ⟨after, hleads, hexit⟩ := hleft.passes .operand hentry
  rcases hxs.split hus.symm ht hmid with ⟨-, rfl, -⟩ | ⟨ws, rfl, rfl⟩
  · exact absurd rfl hne
  · rw [List.append_cons]
    refine (hright rfl).behind (ps ++ [t]) ?_ fun us hus => ?_
    · simp [hleads.run?_eq, hnext after hexit]
    · rw [List.append_assoc]
      exact hs _ _ (hps _ (.cons t _ _)) hus

/-- Without its last step a phrase is a phrase, or it is one with a slash in place of separator and
step: the separator goes on with a path in the one case and starts one in the other. -/
theorem Derives.left {s : Symbol} {sep : Token} {us rest vs xs : List Token} (h : Derives s us rest)
    (hs : s.endsOpen = true) (hrest : rest = []) (hxs : IsEnd xs) (hsep : sep ∈ separators)
    (hus : vs ++ sep :: xs = us) : Left s vs xs := by
  have hsign : ∀ {t}, isStepSeparator t = false → t ≠ sep := by
    rintro t ht rfl
    rw [isStepSeparator_iff.mpr hsep] at ht
    contradiction
  induction h generalizing vs with
  | @operand b us rest _ ih =>
      exact (ih (by cases b <;> rfl) hrest hus).behind [] rfl fun _ => .operand
  | @operator b op us mid rest hop hleft hright _ ih =>
      subst hrest
      have hsigns : op ∉ suffixTokens ∧ isStepSeparator op = false := by
        cases b <;>
          simp only [Binary.operators, List.mem_cons, List.not_mem_nil, or_false] at hop <;>
          rcases hop with rfl | rfl | rfl | rfl <;> decide
      have hmid := hright.ne_nil b.operand_ne_predicates
      exact .join hleft rfl (fun _ h => h.next?_operator hop) hxs hus hsigns.1
        (hsign hsigns.2) hmid (ih (by cases b <;> rfl) rfl) fun _ _ => .operator hop
  | positive _ ih => exact (ih rfl hrest hus).behind [] rfl fun _ => .positive
  | negative _ ih =>
      obtain ⟨ws, rfl, rfl⟩ := exists_behind [_] (separators_disjoint hsep rfl) hus
      exact (ih rfl hrest rfl).behind [_] rfl fun _ => .negative
  | single _ ih => exact (ih rfl hrest hus).behind [] rfl fun _ => .single
  | bar hleft hright _ ih =>
      subst hrest
      exact .join hleft rfl (fun _ h => if_neg h.ne_test) hxs hus (by decide) (hsign rfl)
        (hright.ne_nil (by simp)) (ih rfl rfl) fun _ _ => .bar
  | location _ ih => exact (ih rfl hrest hus).behind [] rfl fun _ => .location
  | filter h =>
      subst hrest hus
      exact absurd h (hxs.not_filter hsep)
  | @descent sep' us mid rest hsep' hleft hright =>
      subst hrest
      obtain ⟨ps, rfl, hps⟩ := hleft.movable
      have hmid := hright.ne_nil (by simp)
      rcases hxs.split hus.symm (separators_disjoint hsep' rfl) hmid with
        ⟨rfl, -, rfl⟩ | ⟨ws, rfl, rfl⟩
      · exact .inl ⟨hmid, .filter (by simpa using hps [] (.nil _))⟩
      · obtain ⟨hne, hrelative⟩ := hxs.relative hsep hright
        exact .inl ⟨hne, .descent hsep' (hps _ (.cons sep' _ _)) hrelative⟩
  | argument _ ih => exact (ih rfl hrest hus).behind [] rfl fun _ => .argument
  | arguments hfirst hothers _ ih =>
      subst hrest
      exact .join hfirst rfl (fun _ h => if_neg h.ne_test) hxs hus (by decide) (hsign rfl)
        (hothers.ne_nil (by simp)) (ih rfl rfl) fun _ _ => .arguments
  | relative h =>
      subst hrest hus
      obtain ⟨hne, hrelative⟩ := hxs.relative hsep h
      exact .inl ⟨hne, .relative hrelative⟩
  | root =>
      subst hrest
      cases vs with
      | nil => exact .inr ⟨rfl, .root (by simp)⟩
      | cons v vs =>
          obtain ⟨-, hnil⟩ := List.cons.inj hus
          exact absurd hnil (by simp)
  | absolute hsep' h =>
      subst hrest
      cases vs with
      | nil => exact .inr ⟨rfl, .root (by simp)⟩
      | cons v vs =>
          obtain ⟨rfl, rfl⟩ := List.cons.inj hus
          obtain ⟨hne, hrelative⟩ := hxs.relative hsep h
          exact .inl ⟨hne, .absolute hsep' hrelative⟩
  | _ => cases hs

/-! ## expressions -/

section Expressions

variable {sep : Token} {us vs xs : List Token}

/-- A slash at the end of an expression stands where an operand is due. -/
theorem Derives.run?_of_slash (h : Derives .expression (us ++ [.slash]) []) :
    Due.operand.run? us = some .operand := by
  rcases h.left rfl rfl .nothing (by decide) rfl with ⟨hne, -⟩ | ⟨hrun, -⟩
  · exact absurd rfl hne
  · exact hrun

/-- **An expression without its last step.** If an operand is due in front of the separator, the
separator started a path: what is left is an expression with a slash behind it. Elsewhere the
separator went on with a path, and what is left is an expression as it stands. -/
theorem Derives.cut (h : Derives .expression (vs ++ sep :: xs) []) (hxs : IsEnd xs)
    (hsep : sep ∈ separators) :
    (Derives .expression vs [] ↔ Due.operand.run? vs ≠ some .operand) ∧
    (Derives .expression (vs ++ [.slash]) [] ↔ Due.operand.run? vs = some .operand) := by
  refine ⟨⟨run?_ne_operand, fun hrun => ?_⟩, ⟨run?_of_slash, fun hrun => ?_⟩⟩
  · rcases h.left rfl rfl hxs hsep rfl with ⟨-, hleft⟩ | ⟨hrun', -⟩
    · exact hleft
    · exact absurd hrun' hrun
  · rcases h.left rfl rfl hxs hsep rfl with ⟨-, hleft⟩ | ⟨-, hslash⟩
    · exact absurd hrun hleft.run?_ne_operand
    · exact hslash

end Expressions

end Extractor.XPath
