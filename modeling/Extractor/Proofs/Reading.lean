import Extractor.Declaration.Expression

/-!
# Extractor.Proofs.Reading

Which tokens a reader takes. `Takes m tokens value follow` says that the reader
`m` passes over exactly these tokens and gives the value, whatever the places of
the tokens, provided that the token behind them is one that `follow` admits.
Readers that are put together take the tokens of their parts one after the
other (`Takes.bind`), where each part sees what the next one starts with.
-/

namespace Extractor.Declaration

variable {α β : Type} {m : Reading α} {f : α → Reading β} {tokens others : List Token} {a : α}
  {b : β} {t : Token} {follow behind : Token → Prop}

/-- The reader passes over the tokens and gives the value, if an admitted token comes next. -/
def Takes (m : Reading α) (tokens : List Token) (a : α) (follow : Token → Prop) : Prop :=
  ∀ (front back : List Lexeme) (next : Lexeme) (failure : Option LexError),
    front.map Lexeme.token = tokens → follow next.token →
      m ⟨front ++ next :: back, failure⟩ = .ok (a, ⟨next :: back, failure⟩)

/-- No demand on what comes next. -/
def Anything (_ : Token) : Prop := True

namespace Takes

/-! ## sequences -/

theorem pure : Takes (pure a) [] a follow := by
  intro front back next failure hfront _
  rw [List.map_eq_nil_iff] at hfront
  subst hfront
  rfl

/-- What comes behind the first part is the first token of the second, or else what comes behind
both. -/
theorem bind (hm : Takes m tokens a follow) (hf : Takes (f a) others b behind)
    (hfollow : ∀ t, behind t → follow (others.headD t)) :
    Takes (m >>= f) (tokens ++ others) b behind := by
  intro front back next failure hfront hnext
  obtain ⟨first, second, rfl, hfirst, hsecond⟩ := List.map_eq_append_iff.mp hfront
  have hstart : ∃ l ls, second ++ next :: back = l :: ls ∧ l.token = others.headD next.token := by
    cases second with
    | nil => exact ⟨next, back, rfl, by rw [← hsecond]; rfl⟩
    | cons l second => exact ⟨l, second ++ next :: back, rfl, by rw [← hsecond]; rfl⟩
  obtain ⟨l, ls, hsplit, hl⟩ := hstart
  have hrun : m ⟨first ++ l :: ls, failure⟩ = .ok (a, ⟨l :: ls, failure⟩) :=
    hm first ls l failure hfirst (hl ▸ hfollow next.token hnext)
  have hbind : (m >>= f) ⟨first ++ l :: ls, failure⟩ = f a ⟨l :: ls, failure⟩ := by
    change (m ⟨first ++ l :: ls, failure⟩ >>= fun r => f r.1 r.2) = _
    rw [hrun]
    rfl
  rw [List.append_assoc, hsplit, hbind, ← hsplit]
  exact hf second back next failure hsecond hnext

/-- A first part that does not look at what comes behind it. -/
theorem seq (hm : Takes m tokens a Anything) (hf : Takes (f a) others b behind) :
    Takes (m >>= f) (tokens ++ others) b behind :=
  hm.bind hf fun _ _ => trivial

/-- A first part that takes all the tokens, and a second one that only looks at what comes next. -/
theorem bind_nil (hm : Takes m tokens a follow) (hf : Takes (f a) [] b follow) :
    Takes (m >>= f) tokens b follow := by
  have h := hm.bind hf fun t ht => ht
  rwa [List.append_nil] at h

/-! ## tokens -/

/-- The place of the current token may be anything. -/
theorem position_bind {f : Position → Reading β} (h : ∀ p, Takes (f p) tokens b follow) :
    Takes (Reading.position >>= f) tokens b follow :=
  fun front back next failure hfront hnext => h _ front back next failure hfront hnext

theorem current_bind {f : Token → Reading β} (h : Takes (f t) (t :: tokens) b follow) :
    Takes (Reading.current >>= f) (t :: tokens) b follow := by
  intro front back next failure hfront hnext
  cases front with
  | nil => contradiction
  | cons l front =>
      have hl : l.token = t := (List.cons.inj hfront).1
      have hrun := h (l :: front) back next failure hfront hnext
      rw [← hl] at hrun
      exact hrun

/-- Where nothing is taken, the current token is the one that comes next. -/
theorem current_bind_nil {f : Token → Reading β} (h : ∀ t, follow t → Takes (f t) [] b follow) :
    Takes (Reading.current >>= f) [] b follow := by
  intro front back next failure hfront hnext
  have hrun := h next.token hnext front back next failure hfront hnext
  rw [List.map_eq_nil_iff] at hfront
  subst hfront
  exact hrun

theorem advance : Takes Reading.advance [t] () follow := by
  intro front back next failure hfront _
  obtain ⟨l, rfl, -⟩ := List.map_eq_singleton_iff.mp hfront
  rfl

/-- Whether a token stands in front is told without taking it. -/
theorem isAt : Takes (Reading.isAt t) [] true (· = t) := by
  refine current_bind_nil fun u hu => ?_
  subst hu
  rw [decide_eq_true rfl]
  exact pure

theorem not_isAt : Takes (Reading.isAt t) [] false (· ≠ t) := by
  refine current_bind_nil fun u hu => ?_
  rw [decide_eq_false hu]
  exact pure

theorem expect : Takes (Reading.expect t) [t] () follow :=
  isAt.bind advance fun _ _ => rfl

theorem accept : Takes (Reading.accept t) [t] true follow :=
  isAt.bind (advance.bind_nil pure) fun _ _ => rfl

theorem not_accept : Takes (Reading.accept t) [] false (· ≠ t) :=
  not_isAt.bind_nil pure

theorem identifier {name : String} : Takes Reading.identifier [.identifier name] name follow :=
  current_bind (advance.bind_nil pure)

end Takes

end Extractor.Declaration
