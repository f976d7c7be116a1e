import Extractor.Text.Blank
import Extractor.Text.Numeric
import Mathlib.Data.List.TakeDrop

/-!
# Extractor.Proofs.Characters

How the classes of characters lie to each other. White space is a short list of
code points, so that what holds of all of it is computed (`forall_blank`).
Trimming takes off the white space around a text and nothing else
(`trim_append`).
-/

namespace Extractor.Text

/-! ## white space -/

/-- The code points of white space, one by one. -/
def blankPoints : List Nat :=
  blank.flatMap fun (first, last) => List.range' first (last + 1 - first)

/-- What a list of ranges holds lies in one of them. -/
theorem Ranges.mem_of_holds {r : Ranges} {n : Nat} (h : r.holds n = true) :
    n ∈ r.flatMap fun (first, last) => List.range' first (last + 1 - first) := by
  induction r with
  | nil => contradiction
  | cons range rest ih =>
      obtain ⟨first, last⟩ := range
      rw [holds] at h
      rw [List.flatMap_cons, List.mem_append]
      split at h
      · contradiction
      · next hfirst =>
          split at h
          · next hlast =>
              left
              rw [List.mem_range'_1]
              omega
          · exact .inr (ih h)

/-- What holds of each code point of white space holds of each character that is white space. -/
theorem forall_blank {P : Nat → Prop} (h : ∀ n ∈ blankPoints, P n) {c : Char}
    (hc : isBlank c = true) : P c.toNat :=
  h c.toNat (Ranges.mem_of_holds hc)

/-- White space is neither a letter nor a digit. -/
theorem isAlphanumeric_of_isBlank {c : Char} (h : isBlank c = true) : isAlphanumeric c = false := by
  have hpoints : ∀ n ∈ blankPoints, (alphabetic.holds n || numeric.holds n) = false := by
    decide +kernel
  exact forall_blank hpoints h

/-- What is computed of each character of a text holds of all of them. -/
theorem forall_mem_of_all {P : Char → Prop} [DecidablePred P] {cs : List Char}
    (h : cs.all (fun c => decide (P c)) = true) : ∀ c ∈ cs, P c :=
  fun c hc => of_decide_eq_true (List.all_eq_true.mp h c hc)

/-- A character of a class is none of those outside it. -/
theorem forall_mem_ne_of_all {p : Char → Bool} {c : Char} {ds : List Char} (hc : p c = true)
    (h : ds.all (fun d => decide (p d = false)) = true) : ∀ d ∈ ds, c ≠ d := by
  rintro d hd rfl
  rw [forall_mem_of_all h c hd] at hc
  contradiction

/-! ## trimming -/

/-- The text does not start with white space. -/
def Unblank (cs : List Char) : Prop := ∀ c ∈ cs.head?, isBlank c = false

/-- A text that starts with a visible character does not start with white space. -/
theorem unblank_cons {c : Char} {cs : List Char} (h : isBlank c = false) : Unblank (c :: cs) :=
  fun _ hd => Option.some.inj hd ▸ h

theorem unblank_append {cs : List Char} (hne : cs ≠ []) (h : ∀ c ∈ cs, isBlank c = false)
    (rest : List Char) : Unblank (cs ++ rest) := by
  cases cs with
  | nil => contradiction
  | cons c cs => exact unblank_cons (h c List.mem_cons_self)

/-- The text neither starts nor ends with white space. -/
def Unpadded (cs : List Char) : Prop :=
  (∀ c ∈ cs.head?, isBlank c = false) ∧ ∀ c ∈ cs.getLast?, isBlank c = false

instance (cs : List Char) : Decidable (Unpadded cs) :=
  decidable_of_iff (cs.head?.all (!isBlank ·) = true ∧ cs.getLast?.all (!isBlank ·) = true)
    (by simp [Unpadded, Option.all_eq_true])

theorem unpadded_of_forall {cs : List Char} (h : ∀ c ∈ cs, isBlank c = false) : Unpadded cs :=
  ⟨fun c hc => h c (List.mem_of_mem_head? hc), fun c hc => h c (List.mem_of_mem_getLast? hc)⟩

/-- The text ends with a character that is no white space. -/
def Ended (cs : List Char) : Prop := ∃ front c, cs = front ++ [c] ∧ isBlank c = false

/-- What ends in a visible character does so behind any text. -/
theorem Ended.append {ds : List Char} (cs : List Char) (h : Ended ds) : Ended (cs ++ ds) := by
  obtain ⟨front, c, rfl, hc⟩ := h
  exact ⟨cs ++ front, c, (List.append_assoc cs front [c]).symm, hc⟩

theorem Ended.cons {cs : List Char} (c : Char) (h : Ended cs) : Ended (c :: cs) :=
  h.append [c]

theorem ended_of_forall {cs : List Char} (hne : cs ≠ []) (h : ∀ c ∈ cs, isBlank c = false) :
    Ended cs :=
  ⟨cs.dropLast, cs.getLast hne, (List.dropLast_concat_getLast hne).symm, h _ (List.getLast_mem hne)⟩

/-- A text is unpadded if neither of its ends is white space. -/
theorem Ended.unpadded {cs : List Char} (h : Ended cs) (hhead : Unblank cs) : Unpadded cs := by
  obtain ⟨front, last, rfl, hlast⟩ := h
  refine ⟨hhead, fun c hc => ?_⟩
  rw [List.getLast?_concat] at hc
  exact Option.some.inj hc ▸ hlast

/-- Texts that end in a visible character end in one when they are put together. -/
theorem Ended.flatMap {α : Type} {f : α → List Char} {head : List Char} {l : List α}
    (hhead : Ended head) (h : ∀ x ∈ l, Ended (f x)) : Ended (head ++ l.flatMap f) := by
  induction l generalizing head with
  | nil => exact (List.append_nil head).symm ▸ hhead
  | cons x l ih =>
      obtain ⟨hx, hl⟩ := List.forall_mem_cons.mp h
      have hrest := ih (hx.append head) hl
      rwa [List.append_assoc] at hrest

theorem Ended.ne_nil {cs : List Char} (h : Ended cs) : cs ≠ [] := by
  obtain ⟨front, c, rfl, -⟩ := h
  simp

/-- A separated list is its first text and the others with the separator before each. -/
theorem intercalate_eq_append (sep first : List Char) (rest : List (List Char)) :
    sep.intercalate (first :: rest) = first ++ rest.flatMap (sep ++ ·) := by
  induction rest generalizing first with
  | nil => simp
  | cons next rest ih =>
      rw [List.intercalate_cons_cons, ih, List.flatMap_cons, List.append_assoc, List.append_assoc]

/-- Texts that are joined are padded only if the first or the last of them is. -/
theorem unpadded_intercalate {sep first : List Char} {rest : List (List Char)}
    (hhead : Unblank first) (h : ∀ text ∈ first :: rest, Ended text) :
    Unpadded (sep.intercalate (first :: rest)) := by
  obtain ⟨hfirst, hrest⟩ := List.forall_mem_cons.mp h
  rw [intercalate_eq_append]
  refine (hfirst.flatMap fun text htext => (hrest text htext).append sep).unpadded ?_
  cases first with
  | nil => exact absurd rfl hfirst.ne_nil
  | cons c first => exact hhead

/-- Nothing is dropped from a text that does not start with white space. -/
theorem dropWhile_isBlank {cs : List Char} (h : Unblank cs) : cs.dropWhile isBlank = cs := by
  cases cs with
  | nil => rfl
  | cons c cs => rw [List.dropWhile_cons_of_neg (by simp [h c rfl])]

theorem isBlank_space : ∀ c ∈ [' '], isBlank c = true := forall_mem_of_all (by decide)

/-- White space around a text is trimmed off it, and no more. -/
theorem trim_append {front cs back : List Char} (hfront : ∀ c ∈ front, isBlank c = true)
    (hback : ∀ c ∈ back, isBlank c = true) (h : Unpadded cs) :
    trim (front ++ (cs ++ back)) = cs := by
  rw [trim, trimStart, List.dropWhile_append_of_pos hfront]
  cases cs with
  | nil =>
      have hnil : back.dropWhile isBlank = [] := by
        have hall := @List.dropWhile_append_of_pos _ isBlank back [] hback
        rwa [List.append_nil] at hall
      rw [List.nil_append, hnil]
      rfl
  | cons c cs =>
      have hlast : Unblank (c :: cs).reverse := by
        rw [Unblank, List.head?_reverse]
        exact h.2
      have hhead : Unblank (c :: cs ++ back) := h.1
      rw [dropWhile_isBlank hhead, trimEnd, List.reverse_append,
        List.dropWhile_append_of_pos (by simpa using hback), dropWhile_isBlank hlast,
        List.reverse_reverse]

/-- An unpadded text is left alone by trimming. -/
theorem trim_eq_self {cs : List Char} (h : Unpadded cs) : trim cs = cs := by
  have htrim : trim ([] ++ (cs ++ [])) = cs := trim_append nofun nofun h
  rwa [List.nil_append, List.append_nil] at htrim

/-! ## spans -/

section Append

variable {p : Char → Bool} {rest : List Char}

/-- What follows does not go on with the characters that are taken off a text. -/
theorem takeWhile_append (h : ∀ c ∈ rest.head?, p c = false) (cs : List Char) :
    (cs ++ rest).takeWhile p = cs.takeWhile p := by
  induction cs with
  | nil =>
      cases rest with
      | nil => rfl
      | cons c rest => exact List.takeWhile_cons_of_neg (by simp [h c rfl])
  | cons c cs ih => simp only [List.cons_append, List.takeWhile_cons, ih]

theorem dropWhile_append (h : ∀ c ∈ rest.head?, p c = false) (cs : List Char) :
    (cs ++ rest).dropWhile p = cs.dropWhile p ++ rest := by
  induction cs with
  | nil =>
      cases rest with
      | nil => rfl
      | cons c rest => exact List.dropWhile_cons_of_neg (by simp [h c rfl])
  | cons c cs ih =>
      simp only [List.cons_append, List.dropWhile_cons, ih]
      split <;> rfl

end Append

/-- A span ends where the first character of another class stands. -/
theorem span_append {p : Char → Bool} {cs rest : List Char} (hcs : ∀ c ∈ cs, p c = true)
    (hrest : ∀ c ∈ rest.head?, p c = false) : (cs ++ rest).span p = (cs, rest) := by
  have htail : rest.takeWhile p = [] ∧ rest.dropWhile p = rest := by
    cases rest with
    | nil => exact ⟨rfl, rfl⟩
    | cons c rest => simp [hrest c rfl]
  rw [List.span_eq_takeWhile_dropWhile, List.takeWhile_append_of_pos hcs,
    List.dropWhile_append_of_pos hcs, htail.1, htail.2, List.append_nil]

end Extractor.Text
