import Extractor.Proofs.XPathRecogniser

/-!
# Extractor.Proofs.OperandDue

What is due behind the first tokens of an expression. Read from left to right, one
state tells operands from operators: a name or a star is an operator where nothing is
due, and belongs to an operand elsewhere. Every phrase of the grammar leaves nothing
due, but for a slash on its own, behind which a step might have followed
(`Derives.passes`). What may stand next to what in an expression follows from this.
-/

namespace Extractor.XPath

/-! ## reading from left to right -/

/-- What is due behind the tokens read so far. -/
inductive Due where
  /-- An operand, or the name that its sign announces. -/
  | operand
  /-- A step. If the separator in front is a slash on its own, it may be missing. -/
  | step
  /-- A node test. -/
  | test
  /-- Nothing, but for the colons that make the name in front the name of an axis. -/
  | colons
  | nothing
  deriving DecidableEq, Repr

namespace Due

/-- What is due behind one more token, if the token may stand there. -/
def next? (due : Due) : Token → Option Due
  | .name _ =>
      match due with
      | operand | step => some colons
      | test => some nothing
      | colons | nothing => some operand
  | .star =>
      match due with
      | operand | step | test => some nothing
      | colons | nothing => some operand
  | .doubleColon => if due = colons then some test else none
  | t =>
      if due = test then none
      else match t with
        | .atSign => some test
        | .slash | .doubleSlash => if due = step then none else some step
        | .literal | .number | .dot | .dotDot | .rightParen | .rightBracket => some nothing
        | _ => some operand

/-- What is due behind more tokens, if they may stand there. -/
def run? (due : Due) (us : List Token) : Option Due := us.foldlM next? due

/-- Tokens are read one by one. -/
@[simp] theorem run?_nil (due : Due) : due.run? [] = some due := rfl

@[simp] theorem run?_cons (due : Due) (t : Token) (us : List Token) :
    due.run? (t :: us) = (due.next? t).bind (·.run? us) := rfl

@[simp] theorem run?_append (due : Due) (us vs : List Token) :
    due.run? (us ++ vs) = (due.run? us).bind (·.run? vs) := by
  rw [run?, List.foldlM_append]
  rfl

/-- Nothing has to follow, though colons might. -/
def Complete (due : Due) : Prop := due = colons ∨ due = nothing

/-- A step may follow. -/
def Open (due : Due) : Prop := due = operand ∨ due = step

end Due

/-- The tokens up to the rest lead from what was due in front of them to what is due behind. -/
def Leads (due : Due) (us : List Token) (after : Due) (rest : List Token) : Prop :=
  ∃ ps, us = ps ++ rest ∧ due.run? ps = some after

namespace Leads

variable {due mid after : Due} {us vs rest : List Token} {t : Token}

/-- Leading on is reflexive and transitive. -/
theorem refl (due : Due) (us : List Token) : Leads due us due us := ⟨[], rfl, rfl⟩

theorem trans (h : Leads due us mid vs) (h' : Leads mid vs after rest) :
    Leads due us after rest := by
  obtain ⟨ps, rfl, hps⟩ := h
  obtain ⟨qs, rfl, hqs⟩ := h'
  exact ⟨ps ++ qs, (List.append_assoc ..).symm, by simp [hps, hqs]⟩

theorem token (h : due.next? t = some mid) (rest : List Token) : Leads due (t :: rest) mid rest :=
  ⟨[t], rfl, by simp [h]⟩

theorem snoc (h : Leads due us mid (t :: rest)) (ht : mid.next? t = some after) :
    Leads due us after rest :=
  h.trans (token ht rest)

/-- What leads on to the rest can be read up to it. -/
theorem run?_eq (h : Leads due (us ++ rest) after rest) : due.run? us = some after := by
  obtain ⟨ps, heq, hps⟩ := h
  rwa [List.append_cancel_right heq]

end Leads

/-! ## phrases -/

/-- Whether a phrase of the symbol may end with a slash on its own. -/
def Symbol.endsOpen : Symbol → Bool
  | binary _ | unary | union | path | location | arguments => true
  | _ => false

/-- What may be due in front of a phrase of the symbol. -/
def Symbol.Entry : Symbol → Due → Prop
  | predicates, due | predicate, due => due.Complete
  | relative, due | step, due => due.Open
  | _, due => due = .operand

/-- What may be due behind a phrase of the symbol, in front of the rest. -/
def Symbol.Exit (s : Symbol) (due : Due) (rest : List Token) : Prop :=
  due.Complete ∨
    due = .step ∧ s.endsOpen = true ∧ ∀ t, rest.head? = some t → startsStep t = false

namespace Symbol.Exit

variable {s s' : Symbol} {due : Due} {t : Token} {rest : List Token}

/-- What may be due behind one phrase may be due behind another that ends no less openly. -/
theorem mono (h : s.Exit due rest) (hopen : s.endsOpen = true → s'.endsOpen = true) :
    s'.Exit due rest :=
  h.imp_right fun ⟨hstep, hs, hnext⟩ => ⟨hstep, hopen hs, hnext⟩

theorem complete (h : s.Exit due rest) (hs : s.endsOpen = false) : due.Complete := by
  rcases h with h | ⟨-, hopen, -⟩
  · exact h
  · rw [hs] at hopen
    contradiction

/-- Behind a phrase an operator is read as one. -/
theorem next?_operator {b : Binary} (h : s.Exit due (t :: rest)) (ht : t ∈ b.operators) :
    due.next? t = some .operand := by
  have hdue : due.Complete ∨ due = .step ∧ startsStep t = false :=
    h.imp_right fun ⟨hstep, _, hnext⟩ => ⟨hstep, hnext t rfl⟩
  cases b <;> simp only [Binary.operators, List.mem_cons, List.not_mem_nil, or_false] at ht <;>
    grind [Due.next?, Due.Complete, startsStep]

/-- Behind a phrase neither a test nor an operand is due. -/
theorem ne_test (h : s.Exit due rest) : due ≠ .test := by
  rintro rfl
  rcases h with (h | h) | ⟨h, -, -⟩ <;> contradiction

theorem ne_operand (h : s.Exit due rest) : due ≠ .operand := by
  rintro rfl
  rcases h with (h | h) | ⟨h, -, -⟩ <;> contradiction

end Symbol.Exit

/-- A separator may stand behind what is complete and where an operand is due. -/
theorem Due.next?_separator {sep : Token} (h : sep ∈ separators) {due : Due}
    (hdue : due.Complete ∨ due = .operand) : due.next? sep = some .step := by
  simp only [separators, List.mem_cons, List.not_mem_nil, or_false] at h
  rcases h with rfl | rfl <;> rcases hdue with (rfl | rfl) | rfl <;> rfl

/-- Where a node test is due nothing else may stand. -/
theorem Due.next?_test {t : Token} {due : Due} (h : Due.test.next? t = some due) :
    (t = .star ∨ ∃ n, t = .name n) ∧ due = .nothing := by
  cases t <;> simp_all [next?]

/-- Behind an axis a test may stand. -/
theorem IsAxis.leads {axis : List Token} (h : IsAxis axis) {due : Due} (hdue : due.Open)
    (rest : List Token) :
    ∃ after, Leads due (axis ++ rest) after rest ∧ (after.Open ∨ after = .test) := by
  cases h with
  | none => exact ⟨due, .refl due rest, .inl hdue⟩
  | abbreviated | named =>
      exact ⟨.test, ⟨_, rfl, by rcases hdue with rfl | rfl <;> rfl⟩, .inr rfl⟩

/-- Behind a node test nothing has to follow. -/
theorem IsNodeTest.leads {test : List Token} (h : IsNodeTest test) {due : Due}
    (hdue : due.Open ∨ due = .test) (rest : List Token) :
    ∃ after, Leads due (test ++ rest) after rest ∧ after.Complete := by
  cases h with
  | any | nodeType | instruction =>
      exact ⟨.nothing, ⟨_, rfl, by rcases hdue with (rfl | rfl) | rfl <;> rfl⟩, .inr rfl⟩
  | name n =>
      rcases hdue with hdue | rfl
      · exact ⟨.colons, ⟨_, rfl, by rcases hdue with rfl | rfl <;> rfl⟩, .inl rfl⟩
      · exact ⟨.nothing, ⟨_, rfl, rfl⟩, .inr rfl⟩

/-- The tokens up to the rest are read as a phrase of the symbol. -/
def Passes (s : Symbol) (us rest : List Token) : Prop :=
  ∀ due, s.Entry due → ∃ after, Leads due us after rest ∧ s.Exit after rest

namespace Passes

variable {s s' s'' : Symbol} {us mid rest : List Token} {t : Token}

/-- A phrase of one symbol is a phrase of another. -/
theorem widen (h : Passes s us rest) (hentry : ∀ due, s'.Entry due → s.Entry due)
    (hopen : s.endsOpen = true → s'.endsOpen = true) : Passes s' us rest := by
  intro due hdue
  obtain ⟨after, hleads, hexit⟩ := h due (hentry due hdue)
  exact ⟨after, hleads, hexit.mono hopen⟩

/-- A token between two phrases. -/
theorem join (h : Passes s us (t :: mid)) (h' : Passes s' mid rest)
    (ht : ∀ due, s.Exit due (t :: mid) → ∃ after, due.next? t = some after ∧ s'.Entry after)
    (hentry : ∀ due, s''.Entry due → s.Entry due)
    (hopen : s'.endsOpen = true → s''.endsOpen = true) : Passes s'' us rest := by
  intro due hdue
  obtain ⟨left, hleft, hexit⟩ := h due (hentry due hdue)
  obtain ⟨between, hbetween, hentry'⟩ := ht left hexit
  obtain ⟨after, hright, hexit'⟩ := h' between hentry'
  exact ⟨after, (hleft.snoc hbetween).trans hright, hexit'.mono hopen⟩

/-- A phrase behind another. -/
theorem append (h : Passes s us mid) (h' : Passes s' mid rest) (hs : s.endsOpen = false)
    (hentry' : ∀ due, due.Complete → s'.Entry due) (hentry : ∀ due, s''.Entry due → s.Entry due)
    (hopen : s'.endsOpen = true → s''.endsOpen = true) : Passes s'' us rest := by
  intro due hdue
  obtain ⟨between, hleft, hexit⟩ := h due (hentry due hdue)
  obtain ⟨after, hright, hexit'⟩ := h' between (hentry' between (hexit.complete hs))
  exact ⟨after, hleft.trans hright, hexit'.mono hopen⟩

/-- Tokens that are a phrase as they stand. -/
theorem tokens (ps : List Token) (rest : List Token)
    (hps : ∀ due, s.Entry due → ∃ after, due.run? ps = some after ∧ after.Complete) :
    Passes s (ps ++ rest) rest := by
  intro due hdue
  obtain ⟨after, hrun, hafter⟩ := hps due hdue
  exact ⟨after, ⟨ps, rfl, hrun⟩, .inl hafter⟩

/-- A phrase between tokens that open and a token that closes. -/
theorem enclosed (front : List Token) (h : Passes s us (t :: rest)) (hs : s.Entry .operand)
    (hfront : ∀ due, s'.Entry due → due.run? front = some .operand)
    (ht : ∀ due, due ≠ .test → Due.next? due t = some .nothing) : Passes s' (front ++ us) rest := by
  intro due hdue
  obtain ⟨after, hleads, hexit⟩ := h .operand hs
  exact ⟨.nothing, (Leads.trans ⟨front, rfl, hfront due hdue⟩ hleads).snoc (ht after hexit.ne_test),
    .inl (.inr rfl)⟩

end Passes

/-- **A phrase leaves nothing due**, but for a slash on its own at its end. -/
theorem Derives.passes {s : Symbol} {us rest : List Token} (h : Derives s us rest) :
    Passes s us rest := by
  induction h with
  | @operand b us rest _ ih =>
      exact ih.widen (fun _ h => by cases b <;> exact h) fun _ => rfl
  | @operator b op us mid rest hop _ _ ihleft ihright =>
      exact ihleft.join ihright
        (fun _ h => ⟨.operand, h.next?_operator hop, by cases b <;> rfl⟩) (fun _ h => h)
        fun _ => rfl
  | positive _ ih | single _ ih | location _ ih | filter _ ih | primary _ ih | argument _ ih
  | step _ ih => exact ih.widen (fun _ h => h) (by decide)
  | relative _ ih => exact ih.widen (fun _ h => .inl h) (by decide)
  | negative _ ih =>
      rintro _ rfl
      obtain ⟨after, hleads, hexit⟩ := ih .operand rfl
      exact ⟨after, (Leads.token rfl _).trans hleads, hexit⟩
  | bar _ _ ihleft ihright | arguments _ _ ihleft ihright =>
      exact ihleft.join ihright (fun _ h => ⟨.operand, if_neg h.ne_test, rfl⟩) (fun _ h => h)
        fun _ => rfl
  | descent hsep _ _ ihleft ihright | steps hsep _ _ ihleft ihright =>
      exact ihleft.join ihright
        (fun _ h => ⟨.step, Due.next?_separator hsep (.inl (h.complete rfl)), .inr rfl⟩)
        (fun _ h => h) (by decide)
  | filtered _ _ ihleft ihright =>
      exact ihleft.append ihright rfl (fun _ h => h) (fun _ h => h) (by decide)
  | literal | number => exact .tokens [_] _ (by rintro _ rfl; exact ⟨.nothing, rfl, .inr rfl⟩)
  | reference => exact .tokens [_, _] _ (by rintro _ rfl; exact ⟨.colons, rfl, .inl rfl⟩)
  | call => exact .tokens [_, _, _] _ (by rintro _ rfl; exact ⟨.nothing, rfl, .inr rfl⟩)
  | self | parent =>
      exact .tokens [_] _ (by rintro _ (rfl | rfl) <;> exact ⟨.nothing, rfl, .inr rfl⟩)
  | parentheses _ ih => exact ih.enclosed [_] rfl (by rintro _ rfl; rfl) fun _ h => if_neg h
  | callWith _ _ ih => exact ih.enclosed [_, _] rfl (by rintro _ rfl; rfl) fun _ h => if_neg h
  | root hnext =>
      rintro _ rfl
      exact ⟨.step, .token rfl _, .inr ⟨rfl, rfl, hnext⟩⟩
  | absolute hsep _ ih =>
      rintro _ rfl
      obtain ⟨after, hleads, hexit⟩ := ih .step (.inr rfl)
      exact ⟨after, (Leads.token (Due.next?_separator hsep (.inr rfl)) _).trans hleads,
        hexit.mono fun _ => rfl⟩
  | test haxis htest _ ih =>
      intro due hdue
      obtain ⟨first, hfirst, hopen⟩ := haxis.leads hdue _
      obtain ⟨second, hsecond, hcomplete⟩ := htest.leads hopen _
      obtain ⟨after, hleads, hexit⟩ := ih second hcomplete
      exact ⟨after, (hfirst.trans hsecond).trans hleads, hexit.mono (by decide)⟩
  | noPredicates => exact fun due hdue => ⟨due, .refl due _, .inl hdue⟩
  | predicates _ _ ihfirst ihothers =>
      exact ihfirst.append ihothers rfl (fun _ h => h) (fun _ h => h) (by decide)
  | predicate _ ih =>
      exact ih.enclosed [_] rfl (by rintro _ (rfl | rfl) <;> rfl) fun _ h => if_neg h

/-! ## expressions -/

section Expressions

variable {sep sep' : Token} {us vs : List Token}

/-- An expression is read to its end. -/
theorem Derives.exists_run? (h : Derives .expression us []) :
    ∃ after, Due.operand.run? us = some after ∧ Symbol.expression.Exit after [] := by
  obtain ⟨after, ⟨ps, rfl, hrun⟩, hexit⟩ := h.passes .operand rfl
  exact ⟨after, by simpa using hrun, hexit⟩

/-- Behind an expression no operand is due. -/
theorem Derives.run?_ne_operand (h : Derives .expression us []) :
    Due.operand.run? us ≠ some .operand := by
  obtain ⟨after, hrun, hexit⟩ := h.exists_run?
  intro hoperand
  exact hexit.ne_operand (Option.some.inj (hrun.symm.trans hoperand))

/-- A separator does not stand behind another. -/
theorem Derives.not_adjacent (h : Derives .expression (vs ++ sep :: sep' :: us) [])
    (hsep : sep ∈ separators) : sep' ∉ separators := by
  intro hsep'
  obtain ⟨after, hrun, -⟩ := h.exists_run?
  simp only [separators, List.mem_cons, List.not_mem_nil, or_false] at hsep hsep'
  rw [Due.run?_append] at hrun
  obtain ⟨mid, -, hmid⟩ := Option.bind_eq_some_iff.mp hrun
  rcases hsep with rfl | rfl <;> rcases hsep' with rfl | rfl <;> cases mid <;> cases hmid

/-- Behind an at sign stands a node test, and no colons behind that. -/
theorem Derives.behind_atSign (h : Derives .expression (vs ++ .atSign :: us) []) :
    ∃ t ws, us = t :: ws ∧ (t = .star ∨ ∃ n, t = .name n) ∧ ws.head? ≠ some .doubleColon := by
  obtain ⟨after, hrun, hexit⟩ := h.exists_run?
  rw [Due.run?_append] at hrun
  obtain ⟨mid, -, hmid⟩ := Option.bind_eq_some_iff.mp hrun
  obtain ⟨due, hdue, hus⟩ := Option.bind_eq_some_iff.mp hmid
  obtain rfl : due = .test := by
    simp only [Due.next?] at hdue
    grind
  cases us with
  | nil => exact absurd (Option.some.inj hus).symm hexit.ne_test
  | cons t ws =>
      obtain ⟨due, ht, hws⟩ := Option.bind_eq_some_iff.mp hus
      obtain ⟨htest, rfl⟩ := Due.next?_test ht
      refine ⟨t, ws, rfl, htest, fun hcolons => ?_⟩
      obtain ⟨ws, rfl⟩ := List.head?_eq_some_iff.mp hcolons
      cases hws

end Expressions

end Extractor.XPath
