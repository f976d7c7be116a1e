import Extractor.Failure
import Mathlib.Data.List.Forall2

/-!
# Extractor.Proofs.Outcome

What the outcome of a computation that may fail says about its parts. Every
stage of the library is such a computation: sequences, loops over lists and
loops with an accumulator are taken apart here, so that the proofs about the
stages never open the monad.
-/

namespace Extractor.Outcome

variable {ε α β γ : Type}

/-! ## sequences -/

/-- A sequence succeeds when its first part does and then its second. -/
theorem bind_eq_ok {x : Except ε α} {f : α → Except ε β} {b : β} :
    x >>= f = .ok b ↔ ∃ a, x = .ok a ∧ f a = .ok b := by
  cases x with
  | error e => simp [bind, Except.bind]
  | ok a => simp [bind, Except.bind]

theorem ok_bind (a : α) (f : α → Except ε β) : (Except.ok a >>= f) = f a := rfl

/-- A sequence fails when its first part does, or else its second. -/
theorem bind_eq_error {x : Except ε α} {f : α → Except ε β} {e : ε} :
    x >>= f = .error e ↔ x = .error e ∨ ∃ a, x = .ok a ∧ f a = .error e := by
  cases x with
  | error e => simp [bind, Except.bind]
  | ok a => simp [bind, Except.bind]

theorem map_eq_ok {x : Except ε α} {g : α → β} {b : β} :
    x.map g = .ok b ↔ ∃ a, x = .ok a ∧ g a = b := by
  cases x <;> simp [Except.map]

theorem map_bind {x : Except ε α} {g : α → β} {f : β → Except ε γ} :
    x.map g >>= f = x >>= fun a => f (g a) := by
  cases x <;> rfl

theorem bind_map {x : Except ε α} {f : α → Except ε β} {g : β → γ} :
    (x >>= f).map g = x >>= fun a => (f a).map g := by
  cases x <;> rfl

@[simp] theorem pure_eq_ok {a b : α} : (pure a : Except ε α) = .ok b ↔ a = b := by
  simp [pure, Except.pure]

@[simp] theorem pure_ne_error {a : α} {e : ε} : (pure a : Except ε α) ≠ .error e := by
  simp [pure, Except.pure]

@[simp] theorem throw_ne_ok {e : ε} {a : α} : (throw e : Except ε α) ≠ .ok a := by
  simp [throw, throwThe, MonadExceptOf.throw]

theorem lift_ok (a : α) : (liftM (Except.ok a : Except ε α) : Except (Failure ε) α) = .ok a := rfl

/-- What cannot overflow succeeds among what can as it does by itself. -/
@[simp] theorem lift_eq_ok {x : Except ε α} {a : α} :
    (liftM x : Except (Failure ε) α) = .ok a ↔ x = .ok a := by
  cases x <;> simp [liftM, monadLift, MonadLift.monadLift, Except.mapError]

/-- Without its value a computation still has to succeed. -/
theorem discard_eq_ok {x : Except ε α} : discard x = .ok () ↔ ∃ a, x = .ok a := by
  cases x with
  | error e => simp [discard, Functor.discard, Functor.mapConst, Except.map]
  | ok a => simp [discard, Functor.discard, Functor.mapConst, Except.map]

/-! ## loops -/

theorem forM_eq_ok {f : α → Except ε Unit} {l : List α} :
    l.forM f = .ok () ↔ ∀ x ∈ l, f x = .ok () := by
  induction l with
  | nil => simp [List.forM]
  | cons x l ih =>
      have hcons : (x :: l).forM f = f x >>= fun _ => l.forM f := rfl
      rw [hcons, bind_eq_ok, List.forall_mem_cons, ← ih]
      exact ⟨fun ⟨_, hx, hl⟩ => ⟨hx, hl⟩, fun ⟨hx, hl⟩ => ⟨(), hx, hl⟩⟩

/-- A loop that collects succeeds with the results of its elements, in order. -/
theorem mapM_eq_ok {f : α → Except ε β} {l : List α} {r : List β} :
    l.mapM f = .ok r ↔ List.Forall₂ (fun x y => f x = .ok y) l r := by
  induction l generalizing r with
  | nil => cases r <;> simp
  | cons x l ih =>
      simp only [List.mapM_cons, bind_eq_ok, ih, pure_eq_ok, List.forall₂_cons_left_iff]
      constructor
      · rintro ⟨y, hy, ys, hys, rfl⟩
        exact ⟨y, ys, hy, hys, rfl⟩
      · rintro ⟨y, ys, hy, hys, rfl⟩
        exact ⟨y, hy, ys, hys, rfl⟩

/-- A loop that collects succeeds just where each of its elements does. -/
theorem mapM_eq_ok_iff {f : α → Except ε β} {P : α → Prop} {g : α → β} {l : List α} {r : List β}
    (h : ∀ x ∈ l, ∀ y, f x = .ok y ↔ P x ∧ y = g x) :
    l.mapM f = .ok r ↔ (∀ x ∈ l, P x) ∧ r = l.map g := by
  induction l generalizing r with
  | nil => cases r <;> simp
  | cons x l ih =>
      obtain ⟨hx, hl⟩ := List.forall_mem_cons.mp h
      simp only [List.mapM_cons, bind_eq_ok, hx, ih hl, pure_eq_ok, List.forall_mem_cons,
        List.map_cons]
      constructor
      · rintro ⟨_, ⟨hPx, rfl⟩, _, ⟨hPl, rfl⟩, rfl⟩
        exact ⟨⟨hPx, hPl⟩, rfl⟩
      · rintro ⟨⟨hPx, hPl⟩, rfl⟩
        exact ⟨_, ⟨hPx, rfl⟩, _, ⟨hPl, rfl⟩, rfl⟩

/-- Each element on the left of related lists has one on the right. -/
theorem exists_right {R : α → β → Prop} {l : List α} {r : List β} {x : α}
    (h : List.Forall₂ R l r) (hx : x ∈ l) : ∃ y ∈ r, R x y := by
  obtain ⟨hlength, hget⟩ := List.forall₂_iff_get.mp h
  obtain ⟨i, hi, rfl⟩ := List.getElem_of_mem hx
  exact ⟨r[i], List.getElem_mem _, hget i hi (hlength ▸ hi)⟩

/-- Each element on the right of related lists has one on the left. -/
theorem exists_left {R : α → β → Prop} {l : List α} {r : List β} {y : β}
    (h : List.Forall₂ R l r) (hy : y ∈ r) : ∃ x ∈ l, R x y :=
  exists_right h.flip hy

/-- Where each element on the right has that on the left as its key, the keys are the left list. -/
theorem map_eq_left {R : α → β → Prop} {key : β → α} {l : List α} {r : List β}
    (h : List.Forall₂ R l r) (hkey : ∀ x y, R x y → key y = x) : r.map key = l := by
  induction h with
  | nil => rfl
  | cons hxy _ ih => rw [List.map_cons, hkey _ _ hxy, ih]

/-- A loop that collects succeeds when each of its elements does. -/
theorem exists_mapM {f : α → Except ε β} {P : β → Prop} {l : List α}
    (h : ∀ x ∈ l, ∃ y, f x = .ok y ∧ P y) : ∃ r, l.mapM f = .ok r ∧ ∀ y ∈ r, P y := by
  induction l with
  | nil => exact ⟨[], rfl, by simp⟩
  | cons x l ih =>
      obtain ⟨⟨y, hy, hP⟩, hl⟩ := List.forall_mem_cons.mp h
      obtain ⟨r, hr, hPr⟩ := ih hl
      refine ⟨y :: r, ?_, List.forall_mem_cons.mpr ⟨hP, hPr⟩⟩
      rw [List.mapM_cons, hy, hr]
      rfl

/-- A loop with an accumulator ends in a state that all its steps preserve. -/
theorem foldlM_preserves {P : β → Prop} {f : β → α → Except ε β} {l : List α} {b c : β}
    (hstep : ∀ x ∈ l, ∀ s t, P s → f s x = .ok t → P t) (hb : P b)
    (h : l.foldlM f b = .ok c) : P c := by
  induction l generalizing b with
  | nil =>
      simp only [List.foldlM_nil, pure_eq_ok] at h
      exact h ▸ hb
  | cons x l ih =>
      rw [List.foldlM_cons, bind_eq_ok] at h
      obtain ⟨s, hs, h⟩ := h
      exact ih (fun y hy => hstep y (List.mem_cons_of_mem x hy))
        (hstep x List.mem_cons_self b s hb hs) h

/-- A loop with an accumulator succeeds when each of its steps does. -/
theorem exists_foldlM {f : β → α → Except ε β} {l : List α}
    (h : ∀ x ∈ l, ∀ s, ∃ t, f s x = .ok t) (b : β) : ∃ c, l.foldlM f b = .ok c := by
  induction l generalizing b with
  | nil => exact ⟨b, rfl⟩
  | cons x l ih =>
      obtain ⟨t, ht⟩ := h x List.mem_cons_self b
      obtain ⟨c, hc⟩ := ih (fun y hy => h y (List.mem_cons_of_mem x hy)) t
      exact ⟨c, by rw [List.foldlM_cons, bind_eq_ok]; exact ⟨t, ht, hc⟩⟩

/-- A map of accumulators that commutes with each step commutes with the loop. -/
theorem foldlM_map {f : β → α → Except ε β} {f' : γ → α → Except ε γ} {g : β → γ} {l : List α}
    (hstep : ∀ b, ∀ x ∈ l, f' (g b) x = (f b x).map g) (b : β) :
    l.foldlM f' (g b) = (l.foldlM f b).map g := by
  induction l generalizing b with
  | nil => rfl
  | cons x l ih =>
      rw [List.foldlM_cons, List.foldlM_cons, hstep b x List.mem_cons_self, map_bind, bind_map]
      exact congrArg _ (funext (ih fun b y hy => hstep b y (List.mem_cons_of_mem x hy)))

/-- A loop with an accumulator fails at one of its elements. -/
theorem foldlM_eq_error {f : β → α → Except ε β} {l : List α} {b : β} {e : ε}
    (h : l.foldlM f b = .error e) : ∃ x ∈ l, ∃ s, f s x = .error e := by
  induction l generalizing b with
  | nil => simp at h
  | cons x l ih =>
      rw [List.foldlM_cons, bind_eq_error] at h
      obtain h | ⟨s, hs, h⟩ := h
      · exact ⟨x, List.mem_cons_self, b, h⟩
      · obtain ⟨y, hy, h⟩ := ih h
        exact ⟨y, List.mem_cons_of_mem x hy, h⟩

end Extractor.Outcome
