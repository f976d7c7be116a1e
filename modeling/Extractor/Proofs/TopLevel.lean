import Extractor.XPath.OfCss
import Extractor.XPath.ToCss
import Extractor.Proofs.Outcome
import Extractor.Proofs.SelectorText

/-!
# Extractor.Proofs.TopLevel

What a text does to the places in a query. `Nesting.pass?` follows the
parentheses and literals of a text that has no brackets of its own. Such a text
stays in one piece between brackets, both where a query is cut at separators
(`Whole.brackets`) and where the predicates of a step are told apart
(`splitPredicates_brackets`).
-/

namespace Extractor.XPath

/-! ## passing a text -/

namespace Nesting

/-- The place behind a character that is no bracket and closes nothing from outside. -/
def passChar? (n : Nesting) (c : Char) : Option Nesting :=
  if n.quote.isNone && (c = '[' || c = ']' || c = ')' && n.depth = 0) then none
  else some (n.advance c)

/-- The place behind a text whose parentheses are its own and whose brackets are in literals. -/
def pass? (n : Nesting) (cs : List Char) : Option Nesting := cs.foldlM passChar? n

variable {n n' n'' : Nesting} {c : Char} {cs ds : List Char} {d : Nat}

/-- Texts are passed one after the other. -/
theorem pass?_append (h : n.pass? cs = some n') (h' : n'.pass? ds = some n'') :
    n.pass? (cs ++ ds) = some n'' := by
  rw [pass?, List.foldlM_append]
  exact Option.bind_eq_some_iff.mpr ⟨n', h, h'⟩

theorem pass?_cons (h : n.passChar? c = some n') (h' : n'.pass? cs = some n'') :
    n.pass? (c :: cs) = some n'' := by
  rw [pass?, List.foldlM_cons]
  exact Option.bind_eq_some_iff.mpr ⟨n', h, h'⟩

theorem advance_plain (h : isDelimiter c = false) : advance ⟨d, none⟩ c = ⟨d, none⟩ := by
  simp only [isDelimiter, Bool.or_eq_false_iff, decide_eq_false_iff_not] at h
  simp [advance, h]

/-- Nothing is opened or closed where there is no delimiter. -/
theorem pass?_plain (h : ∀ c ∈ cs, isDelimiter c = false) :
    pass? ⟨d, none⟩ cs = some ⟨d, none⟩ := by
  induction cs with
  | nil => rfl
  | cons c cs ih =>
      obtain ⟨hc, hcs⟩ := List.forall_mem_cons.mp h
      refine pass?_cons ?_ (ih hcs)
      rw [passChar?, advance_plain hc]
      simp only [isDelimiter, Bool.or_eq_false_iff, decide_eq_false_iff_not] at hc
      simp [hc]

/-- Inside quotes everything is passed but the quote. -/
theorem pass?_quoted {q : Char} (h : q ∉ cs) : pass? ⟨d, some q⟩ cs = some ⟨d, some q⟩ := by
  induction cs with
  | nil => rfl
  | cons c cs ih =>
      obtain ⟨hc, hcs⟩ := List.ne_and_not_mem_of_not_mem_cons h
      refine pass?_cons ?_ (ih hcs)
      simp [passChar?, advance, hc.symm]

/-- A literal leads back to the place where it starts. -/
theorem pass?_literal (h : ¬('"' ∈ cs ∧ '\'' ∈ cs)) :
    pass? ⟨d, none⟩ (literal cs) = some ⟨d, none⟩ := by
  unfold literal
  split
  · next hsingle =>
      have hdouble : '"' ∉ cs := fun hmem => h ⟨hmem, hsingle⟩
      exact pass?_cons rfl (pass?_append (pass?_quoted hdouble) rfl)
  · next hsingle => exact pass?_cons rfl (pass?_append (pass?_quoted hsingle) rfl)

/-- The same place inside one more pair of brackets. -/
def deeper (n : Nesting) : Nesting := { n with depth := n.depth + 1 }

theorem isTop_deeper (n : Nesting) : n.deeper.isTop = false := by
  simp [isTop, deeper]

/-- One level deeper a text is passed in the same way. -/
theorem advance_deeper (h : n.passChar? c = some n') : n.deeper.advance c = n'.deeper := by
  obtain ⟨depth, quote⟩ := n
  rw [passChar?] at h
  split at h
  · cases h
  · next hpass =>
      obtain rfl := Option.some.inj h
      cases quote with
      | some q => by_cases hc : c = q <;> simp [advance, deeper, hc]
      | none =>
          simp only [Option.isNone_none, Bool.true_and, Bool.or_eq_true, Bool.and_eq_true,
            decide_eq_true_eq, not_or, not_and] at hpass
          simp only [advance, deeper]
          grind

end Nesting

/-! ## cutting at separators -/

variable {sep c : Char} {n n' : Nesting} {cs ds rest seen : List Char}

theorem splitFrom_ne_nil (sep : Char) (n : Nesting) (cs : List Char) : splitFrom sep n cs ≠ [] := by
  cases cs with
  | nil => nofun
  | cons c cs =>
      rw [splitFrom]
      split
      · nofun
      · split <;> nofun

/-- A character that is no separator here goes to the first piece. -/
theorem splitFrom_cons (h : (c = sep && n.isTop && !isDelimiter c) = false) :
    splitFrom sep n (c :: cs) = (splitFrom sep (n.advance c) cs).modifyHead (c :: ·) := by
  have hne := splitFrom_ne_nil sep (n.advance c) cs
  rw [splitFrom, h]
  cases hsplit : splitFrom sep (n.advance c) cs with
  | nil => contradiction
  | cons piece pieces => rfl

/-- A separator at the top cuts. -/
theorem splitFrom_sep (h : isDelimiter sep = false) :
    splitFrom sep .start (sep :: cs) = [] :: splitFrom sep .start cs := by
  rw [splitFrom, if_pos (by simp [h, Nesting.isTop, Nesting.start])]

/-- Between brackets a text is not cut. -/
theorem splitFrom_pass (h : n.pass? cs = some n') : splitFrom sep n.deeper (cs ++ rest) =
    (splitFrom sep n'.deeper rest).modifyHead (cs ++ ·) := by
  induction cs generalizing n with
  | nil =>
      obtain rfl := Option.some.inj h
      exact (congrFun List.modifyHead_id _).symm
  | cons c cs ih =>
      rw [Nesting.pass?, List.foldlM_cons] at h
      obtain ⟨next, hc, hcs⟩ := Option.bind_eq_some_iff.mp h
      rw [List.cons_append, splitFrom_cons (by simp [Nesting.isTop_deeper]),
        Nesting.advance_deeper hc, ih hcs, List.modifyHead_modifyHead]
      rfl

/-- The text has no separator outside brackets and closes what it opens. -/
def Whole (sep : Char) (cs : List Char) : Prop :=
  ∀ rest, splitFrom sep .start (cs ++ rest) =
    (splitFrom sep .start rest).modifyHead (cs ++ ·)

namespace Whole

/-- Texts without a separator at the top stay so when they are put together. -/
theorem append (h : Whole sep cs) (h' : Whole sep ds) : Whole sep (cs ++ ds) := by
  intro rest
  rw [List.append_assoc, h, h', List.modifyHead_modifyHead]
  simp [Function.comp_def]

theorem plain (h : ∀ c ∈ cs, isDelimiter c = false ∧ c ≠ sep) : Whole sep cs := by
  intro rest
  induction cs with
  | nil => exact (congrFun List.modifyHead_id _).symm
  | cons c cs ih =>
      obtain ⟨⟨hdelimiter, hsep⟩, hcs⟩ := List.forall_mem_cons.mp h
      have hadvance : Nesting.start.advance c = .start := Nesting.advance_plain hdelimiter
      rw [List.cons_append, splitFrom_cons (by simp [hsep]), hadvance, ih hcs,
        List.modifyHead_modifyHead]
      rfl

theorem brackets (h : Nesting.start.pass? cs = some .start) : Whole sep ('[' :: (cs ++ [']'])) := by
  intro rest
  have hopen : Nesting.start.advance '[' = Nesting.start.deeper := rfl
  have hclose : Nesting.start.deeper.advance ']' = .start := rfl
  rw [List.cons_append, List.append_assoc, List.singleton_append,
    splitFrom_cons (by simp [isDelimiter]), hopen, splitFrom_pass h,
    splitFrom_cons (by simp [Nesting.isTop_deeper]), hclose, List.modifyHead_modifyHead,
    List.modifyHead_modifyHead]
  simp [Function.comp_def]

/-- Such a text is one piece. -/
theorem splitTopLevel_eq (h : Whole sep cs) : splitTopLevel sep cs = [cs] := by
  have hsplit := h []
  rw [List.append_nil] at hsplit
  rw [splitTopLevel, hsplit]
  simp [splitFrom]

/-- A whole text is cut off at the separator behind it. -/
theorem splitTopLevel_append (h : Whole sep cs) (hsep : isDelimiter sep = false) :
    splitTopLevel sep (cs ++ sep :: rest) = cs :: splitTopLevel sep rest := by
  rw [splitTopLevel, h, splitFrom_sep hsep, List.modifyHead_cons, List.append_nil]
  rfl

end Whole

/-! ## telling predicates apart -/

/-- Inside a bracket a text is passed without an end of the predicate. -/
theorem splitPredicates_pass {depth : Nat} (h : n.pass? cs = some n') :
    splitPredicates (depth + 1) n.quote seen (cs ++ rest) =
      splitPredicates (depth + 1) n'.quote (cs.reverse ++ seen) rest := by
  induction cs generalizing n seen with
  | nil =>
      obtain rfl := Option.some.inj h
      rfl
  | cons c cs ih =>
      rw [Nesting.pass?, List.foldlM_cons] at h
      obtain ⟨next, hc, hcs⟩ := Option.bind_eq_some_iff.mp h
      have hstep : splitPredicates (depth + 1) n.quote seen (c :: (cs ++ rest)) =
          splitPredicates (depth + 1) next.quote (c :: seen) (cs ++ rest) := by
        obtain ⟨level, quote⟩ := n
        rw [Nesting.passChar?] at hc
        split at hc
        · cases hc
        · next hpass =>
            obtain rfl := Option.some.inj hc
            cases quote with
            | some q =>
                rw [splitPredicates]
                by_cases hq : c = q <;> simp [Nesting.advance, hq]
            | none =>
                rw [splitPredicates]
                simp only [Option.isNone_none, Bool.true_and, Bool.or_eq_true, Bool.and_eq_true,
                  decide_eq_true_eq, not_or, not_and] at hpass
                simp only [Nesting.advance]
                grind
      rw [List.cons_append, hstep, ih hcs]
      simp

/-- The tests of predicates come back one by one. -/
theorem splitPredicates_brackets {tests : List (List Char)}
    (h : ∀ test ∈ tests, Nesting.start.pass? test = some .start ∧ Text.Unpadded test) :
    splitPredicates 0 none seen (tests.flatMap fun test => '[' :: (test ++ [']'])) = .ok tests := by
  induction tests generalizing seen with
  | nil => rfl
  | cons test tests ih =>
      obtain ⟨⟨hpass, htest⟩, htests⟩ := List.forall_mem_cons.mp h
      have hinner : splitPredicates 1 none []
          (test ++ ']' :: tests.flatMap fun test => '[' :: (test ++ [']'])) =
            splitPredicates 1 none (test.reverse ++ [])
              (']' :: tests.flatMap fun test => '[' :: (test ++ [']'])) :=
        splitPredicates_pass hpass
      have htrim : Text.trim (test.reverse ++ []).reverse = test := by
        rw [List.append_nil, List.reverse_reverse, Text.trim_eq_self htest]
      rw [List.flatMap_cons, List.cons_append, List.append_assoc, List.singleton_append]
      change splitPredicates 1 none [] _ = _
      refine hinner.trans ?_
      change (splitPredicates 0 none _ _ >>= fun others => pure (Text.trim _ :: others)) = _
      rw [ih htests, htrim]
      rfl

end Extractor.XPath
