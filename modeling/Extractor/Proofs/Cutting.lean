import Extractor.Proofs.Characters
import Extractor.Text.Split
import Mathlib.Data.List.Infix
import Mathlib.Data.List.TakeWhile

/-!
# Extractor.Proofs.Cutting

What is cut off a text, and what is left of it. A piece at either end is cut off
just where the text has it (`stripPrefix?_eq_some_iff`, `stripSuffix?_eq_some_iff`),
the last place of a piece is found if the piece does not stand behind it
(`splitLast?_append`), and trimming does not depend on the white space that is
around a text (`trim_padded`).
-/

namespace Extractor.Text

variable {piece cs rest front back : List Char} {c : Char}

/-! ## pieces at the ends -/

/-- A piece is taken off the front exactly if the text starts with it. -/
theorem stripPrefix?_eq_some_iff : stripPrefix? piece cs = some rest ↔ cs = piece ++ rest := by
  induction piece generalizing cs with
  | nil => simp [stripPrefix?]
  | cons p piece ih =>
      cases cs with
      | nil => simp [stripPrefix?]
      | cons c cs =>
          rw [stripPrefix?, List.cons_append, List.cons.injEq]
          split
          · next hpc => rw [ih, and_iff_right hpc.symm]
          · next hpc => simp [Ne.symm hpc]

theorem stripPrefix?_eq_none_iff : stripPrefix? piece cs = none ↔ ¬ piece <+: cs := by
  rw [Option.eq_none_iff_forall_ne_some, List.IsPrefix, not_exists]
  simp only [ne_eq, stripPrefix?_eq_some_iff, eq_comm (b := cs)]

/-- A piece is taken off the end exactly if the text ends with it. -/
theorem stripSuffix?_eq_some_iff : stripSuffix? piece cs = some rest ↔ cs = rest ++ piece := by
  have hreverse : ∀ other, cs.reverse = piece.reverse ++ other ↔ cs = other.reverse ++ piece :=
    fun other => by rw [← List.reverse_inj, List.reverse_reverse, List.reverse_append,
      List.reverse_reverse]
  rw [stripSuffix?, Option.map_eq_some_iff]
  simp only [stripPrefix?_eq_some_iff, hreverse]
  constructor
  · rintro ⟨other, hcs, rfl⟩
    exact hcs
  · exact fun hcs => ⟨rest.reverse, by rwa [List.reverse_reverse], List.reverse_reverse rest⟩

/-- Where a text ends with one piece, it does not end with another one that differs from it. -/
theorem stripSuffix?_append_eq_none
    (h : ∀ rest, stripPrefix? piece.reverse (back.reverse ++ rest) = none) :
    stripSuffix? piece (cs ++ back) = none := by
  rw [stripSuffix?, List.reverse_append, h, Option.map_none]

/-! ## the last place of a piece -/

/-- No last place is found exactly if the piece does not stand in the text. -/
theorem splitLast?_eq_none_iff (hne : piece ≠ []) :
    splitLast? piece cs = none ↔ ¬ piece <:+: cs := by
  induction cs with
  | nil => simp [splitLast?, hne]
  | cons c cs ih =>
      rw [splitLast?, List.infix_cons_iff, not_or, ← ih, ← stripPrefix?_eq_none_iff]
      cases splitLast? piece cs with
      | none => simp
      | some halves => simp

/-- The cut is at a place of the piece. -/
theorem eq_append_of_splitLast? (h : splitLast? piece cs = some (front, rest)) :
    cs = front ++ (piece ++ rest) := by
  induction cs generalizing front with
  | nil => cases h
  | cons c cs ih =>
      rw [splitLast?] at h
      split at h
      · next before after hsplit =>
          cases h
          rw [ih hsplit, List.cons_append]
      · obtain ⟨after, hstrip, hhalves⟩ := Option.map_eq_some_iff.mp h
        cases hhalves
        rw [List.nil_append]
        exact stripPrefix?_eq_some_iff.mp hstrip

/-- The piece is found where it stands if it does not stand anywhere behind its first character. -/
theorem splitLast?_append (hne : piece ≠ []) (h : ¬ piece <:+: (piece ++ rest).tail) :
    splitLast? piece (front ++ (piece ++ rest)) = some (front, rest) := by
  rw [← splitLast?_eq_none_iff hne] at h
  induction front with
  | nil =>
      cases piece with
      | nil => contradiction
      | cons p piece =>
          have hstrip : stripPrefix? (p :: piece) (p :: (piece ++ rest)) = some rest :=
            stripPrefix?_eq_some_iff.mpr rfl
          rw [List.cons_append, List.tail_cons] at h
          rw [List.nil_append, List.cons_append, splitLast?, h]
          simp only [hstrip, Option.map_some]
  | cons c front ih => rw [List.cons_append, splitLast?, ih]

/-- In front of a character that it does not hold, a piece has to end. -/
theorem prefix_of_not_mem (hc : c ∉ piece) (h : piece <+: front ++ c :: rest) :
    piece <+: front := by
  have hfront : front ++ [c] <+: front ++ c :: rest := ⟨rest, by simp⟩
  by_cases hlength : piece.length ≤ front.length
  · exact List.prefix_of_prefix_length_le h (List.prefix_append _ _) hlength
  · have hstarts : front ++ [c] <+: piece :=
      List.prefix_of_prefix_length_le hfront h (by simpa [Nat.succ_le_iff] using hlength)
    exact absurd (hstarts.subset (List.mem_append_right front List.mem_cons_self)) hc

/-- A piece stands on one side of a character that it does not hold. -/
theorem infix_of_not_mem (hc : c ∉ piece) (h : piece <:+: front ++ c :: rest) :
    piece <:+: front ∨ piece <:+: rest := by
  induction front with
  | nil =>
      rw [List.nil_append, List.infix_cons_iff] at h
      exact h.imp_left fun hstarts => (prefix_of_not_mem hc hstarts).isInfix
  | cons d front ih =>
      rw [List.cons_append, List.infix_cons_iff] at h
      obtain hstarts | hoccurs := h
      · exact .inl (prefix_of_not_mem hc hstarts).isInfix
      · exact (ih hoccurs).imp_left List.infix_cons

/-- A piece without the separator that stands in a separated list stands in one of its texts. -/
theorem infix_of_intercalate {sep : Char} {texts : List (List Char)} (hne : piece ≠ [])
    (hsep : sep ∉ piece) (h : piece <:+: [sep].intercalate texts) :
    ∃ text ∈ texts, piece <:+: text := by
  induction texts with
  | nil => exact absurd (by simpa using h) hne
  | cons text texts ih =>
      cases texts with
      | nil => exact ⟨text, List.mem_cons_self, by simpa using h⟩
      | cons next texts =>
          rw [List.intercalate_cons_cons, List.append_assoc, List.singleton_append] at h
          obtain hfirst | hlater := infix_of_not_mem hsep h
          · exact ⟨text, List.mem_cons_self, hfirst⟩
          · obtain ⟨other, hmem, hother⟩ := ih hlater
            exact ⟨other, List.mem_cons_of_mem text hmem, hother⟩

/-- A piece without white space stands in a text if it stands in the text with white space around
it. -/
theorem infix_of_padded (hne : piece ≠ []) (hpiece : ∀ c ∈ piece, isBlank c = false)
    (hfront : ∀ c ∈ front, isBlank c = true) (hback : ∀ c ∈ back, isBlank c = true)
    (h : piece <:+: front ++ (cs ++ back)) : piece <:+: cs := by
  have hblank : ∀ c, isBlank c = true → c ∉ piece := fun c hc hmem => by
    rw [hpiece c hmem] at hc
    contradiction
  induction front with
  | nil =>
      cases back with
      | nil => simpa using h
      | cons c back =>
          refine (infix_of_not_mem (hblank c (hback c List.mem_cons_self)) h).resolve_right ?_
          -- the white space behind the text does not hold the piece
          intro hoccurs
          obtain ⟨d, hd⟩ := List.exists_mem_of_ne_nil piece hne
          exact hblank d (hback d (List.mem_cons_of_mem c (hoccurs.subset hd))) hd
  | cons c front ih =>
      have hc := hblank c (hfront c List.mem_cons_self)
      have hcons : piece <:+: [] ++ c :: (front ++ (cs ++ back)) := h
      obtain hnil | hoccurs := infix_of_not_mem hc hcons
      · exact absurd (by simpa using hnil) hne
      · exact ih (fun d hd => hfront d (List.mem_cons_of_mem c hd)) hoccurs

/-! ## separators -/

/-- Cutting at a separator is the cutting of the library. -/
theorem splitOn_eq (sep : Char) (cs : List Char) : splitOn sep cs = cs.splitOn sep := by
  induction cs with
  | nil => simp [splitOn]
  | cons c cs ih =>
      obtain ⟨head, tail, hsplit⟩ := List.exists_cons_of_ne_nil (List.splitOn_ne_nil sep cs)
      rw [splitOn, ih, List.splitOn_cons_eq_if_modifyHead, hsplit]
      simp only [beq_iff_eq, List.modifyHead_cons]

/-! ## trimming -/

/-- Trimming one end does not see the other, if that is visible. -/
theorem trimStart_append (hback : Unblank back) :
    trimStart (cs ++ back) = trimStart cs ++ back := by
  rw [trimStart, List.dropWhile_append]
  split
  · next hempty =>
      rw [dropWhile_isBlank hback, trimStart, List.isEmpty_iff.mp hempty, List.nil_append]
  · rfl

theorem trimEnd_append (hback : Ended back) : trimEnd (cs ++ back) = cs ++ back := by
  obtain ⟨front, c, rfl, hc⟩ := hback
  have hlast : Unblank (cs ++ (front ++ [c])).reverse := by
    rw [← List.append_assoc, List.reverse_append]
    exact unblank_cons hc
  rw [trimEnd, dropWhile_isBlank hlast, List.reverse_reverse]

theorem trim_append_ended (hhead : Unblank back) (hback : Ended back) :
    trim (cs ++ back) = trimStart cs ++ back := by
  rw [trim, trimStart_append hhead, trimEnd_append hback]

theorem trimEnd_append_blank (hback : ∀ c ∈ back, isBlank c = true) :
    trimEnd (cs ++ back) = trimEnd cs := by
  rw [trimEnd, List.reverse_append, List.dropWhile_append_of_pos (by simpa using hback), trimEnd]

/-- What trimming takes from the end is white space. -/
theorem exists_trimEnd (cs : List Char) :
    ∃ gap, (∀ c ∈ gap, isBlank c = true) ∧ cs = trimEnd cs ++ gap := by
  refine ⟨(cs.reverse.takeWhile isBlank).reverse,
    fun c hc => List.mem_takeWhile_imp (List.mem_reverse.mp hc), ?_⟩
  rw [trimEnd, ← List.reverse_append, List.takeWhile_append_dropWhile, List.reverse_reverse]

theorem trimEnd_isPrefix (cs : List Char) : trimEnd cs <+: cs := by
  obtain ⟨gap, -, hcs⟩ := exists_trimEnd cs
  exact ⟨gap, hcs.symm⟩

/-- White space at the end is looked for only behind a text that ends without. -/
theorem trimEnd_behind (hcs : Ended cs) (back : List Char) :
    trimEnd (cs ++ back) = cs ++ trimEnd back := by
  have hreverse : Unblank cs.reverse := by
    obtain ⟨front, c, rfl, hc⟩ := hcs
    rw [List.reverse_append]
    exact unblank_cons hc
  rw [trimEnd, List.reverse_append, List.dropWhile_append]
  split
  · next hempty =>
      rw [dropWhile_isBlank hreverse, trimEnd, List.isEmpty_iff.mp hempty, List.reverse_reverse,
        List.reverse_nil, List.append_nil]
  · rw [List.reverse_append, List.reverse_reverse, trimEnd]

/-- What is left of a text does not depend on the white space around it. -/
theorem trim_padded (hfront : ∀ c ∈ front, isBlank c = true)
    (hback : ∀ c ∈ back, isBlank c = true) :
    trim (front ++ (cs ++ back)) = trim cs := by
  have hblank : back.dropWhile isBlank = [] := List.dropWhile_eq_nil_iff.mpr hback
  rw [trim, trim, trimStart, List.dropWhile_append_of_pos hfront, List.dropWhile_append]
  split
  · next hempty => rw [hblank, trimStart, List.isEmpty_iff.mp hempty]
  · exact trimEnd_append_blank hback

/-- A text is what is left of it, with white space around. -/
theorem exists_padding (cs : List Char) : ∃ front back, (∀ c ∈ front, isBlank c = true) ∧
    (∀ c ∈ back, isBlank c = true) ∧ cs = front ++ (trim cs ++ back) := by
  refine ⟨cs.takeWhile isBlank, ((trimStart cs).reverse.takeWhile isBlank).reverse,
    fun c hc => List.mem_takeWhile_imp hc,
    fun c hc => List.mem_takeWhile_imp (List.mem_reverse.mp hc), ?_⟩
  rw [trim, trimEnd, ← List.reverse_append, List.takeWhile_append_dropWhile, List.reverse_reverse,
    trimStart, List.takeWhile_append_dropWhile]

/-- Trimming twice does what trimming once does. -/
theorem trim_trim (cs : List Char) : trim (trim cs) = trim cs := by
  obtain ⟨front, back, hfront, hback, hcs⟩ := exists_padding cs
  have htrim := @trim_padded (trim cs) front back hfront hback
  rw [← hcs] at htrim
  exact htrim.symm

/-- A text with a visible character is not trimmed to nothing. -/
theorem trim_ne_nil (h : ∃ c ∈ cs, isBlank c = false) : trim cs ≠ [] := by
  obtain ⟨c, hc, hblank⟩ := h
  obtain ⟨front, back, hfront, hback, hcs⟩ := exists_padding cs
  intro htrim
  rw [htrim, List.nil_append] at hcs
  rw [hcs, List.mem_append] at hc
  obtain hc | hc := hc
  · rw [hfront c hc] at hblank
    contradiction
  · rw [hback c hc] at hblank
    contradiction

end Extractor.Text
