import Extractor.Proofs.TopLevel

/-!
# Extractor.Proofs.Splitting

Cutting at the top level neither loses nor misplaces text
(`splitTopLevel_laws`): the pieces joined by the separator are the text again, no
piece is cut once more, and a separator is cut at exactly if nothing is open in
front of it.

What leaves nothing open is said in two ways. `Nesting.behind` is the place that
the scan comes to, which passes closing brackets that close nothing. `Shut` is a
grammar: balanced texts with such closing brackets between them. `shut_iff` says
that they agree.
-/

namespace Extractor.XPath

/-! ## balanced texts -/

/-- Whether the character starts and ends a literal. -/
def isQuote (c : Char) : Bool := c = '\'' || c = '"'

/-- Whether the character is an opening bracket or parenthesis. -/
def isOpening (c : Char) : Bool := c = '[' || c = '('

/-- Whether the character is a closing bracket or parenthesis. -/
def isClosing (c : Char) : Bool := c = ']' || c = ')'

/-- Every bracket and every quote that is opened outside of literals is closed, and none is closed
that is not open. Brackets and parentheses may close each other. -/
inductive Balanced : List Char → Prop
  | nil : Balanced []
  | plain {c : Char} {rest : List Char} (hc : isDelimiter c = false) (hrest : Balanced rest) :
      Balanced (c :: rest)
  | literal {q : Char} {body rest : List Char} (hq : isQuote q = true) (hbody : q ∉ body)
      (hrest : Balanced rest) : Balanced (q :: (body ++ q :: rest))
  | brackets {c e : Char} {body rest : List Char} (hc : isOpening c = true) (hbody : Balanced body)
      (he : isClosing e = true) (hrest : Balanced rest) : Balanced (c :: (body ++ e :: rest))

/-- Nothing is left open: balanced texts, with closing brackets between them that close nothing. -/
inductive Shut : List Char → Prop
  | balanced {u : List Char} (h : Balanced u) : Shut u
  | stray {u rest : List Char} {c : Char} (h : Balanced u) (hc : isClosing c = true)
      (hrest : Shut rest) : Shut (u ++ c :: rest)

variable {sep c q : Char} {n : Nesting} {cs ds body u v : List Char} {d : Nat}

/-- Every character is plain, a quote or a bracket. -/
theorem char_cases (c : Char) :
    isDelimiter c = false ∨ isQuote c = true ∨ isOpening c = true ∨ isClosing c = true := by
  simp only [isDelimiter, isQuote, isOpening, isClosing, Bool.or_eq_false_iff, Bool.or_eq_true,
    decide_eq_true_eq, decide_eq_false_iff_not]
  tauto

/-! ## the place behind a text -/

namespace Nesting

/-- The place behind a text. -/
def behind (n : Nesting) (cs : List Char) : Nesting := cs.foldl advance n

/-- The place behind a text is found character by character. -/
theorem behind_cons : n.behind (c :: cs) = (n.advance c).behind cs := rfl

theorem behind_append : n.behind (cs ++ ds) = (n.behind cs).behind ds := List.foldl_append

theorem isTop_iff : n.isTop = true ↔ n = .start := by
  obtain ⟨depth, quote⟩ := n
  simp [isTop, start]

theorem advance_quote (h : isQuote c = true) : advance ⟨d, none⟩ c = ⟨d, some c⟩ := if_pos h

theorem advance_opening (h : isOpening c = true) : advance ⟨d, none⟩ c = ⟨d + 1, none⟩ := by
  obtain rfl | rfl : c = '[' ∨ c = '(' := by simpa [isOpening] using h
  · rfl
  · rfl

/-- Where nothing is open, a closing bracket closes nothing. -/
theorem advance_closing (h : isClosing c = true) : advance ⟨d, none⟩ c = ⟨d - 1, none⟩ := by
  obtain rfl | rfl : c = ']' ∨ c = ')' := by simpa [isClosing] using h
  · rfl
  · rfl

/-- Behind a literal is the place where it starts. -/
theorem behind_literal (h : q ∉ body) :
    behind ⟨d, some q⟩ (body ++ q :: cs) = behind ⟨d, none⟩ cs := by
  induction body with
  | nil => simp [behind_cons, advance]
  | cons c body ih =>
      obtain ⟨hc, hbody⟩ := List.ne_and_not_mem_of_not_mem_cons h
      have hadvance : advance ⟨d, some q⟩ c = ⟨d, some q⟩ := if_neg hc.symm
      rw [List.cons_append, behind_cons, hadvance, ih hbody]

/-- A text that is left at the top leaves the quotes it is in. -/
theorem exists_quote (h : behind ⟨d, some q⟩ cs = .start) : ∃ body rest,
    cs = body ++ q :: rest ∧ q ∉ body ∧ behind ⟨d, none⟩ rest = .start := by
  induction cs with
  | nil => cases h
  | cons c cs ih =>
      by_cases hc : c = q
      · subst hc
        refine ⟨[], cs, rfl, List.not_mem_nil, ?_⟩
        rwa [← List.nil_append (c :: cs), behind_literal List.not_mem_nil] at h
      · have hadvance : advance ⟨d, some q⟩ c = ⟨d, some q⟩ := if_neg hc
        rw [behind_cons, hadvance] at h
        obtain ⟨body, rest, rfl, hbody, hrest⟩ := ih h
        exact ⟨c :: body, rest, rfl, List.not_mem_cons_of_ne_of_not_mem (Ne.symm hc) hbody, hrest⟩

end Nesting

/-! ## what the scan says of balanced texts -/

/-- A balanced text leads back to the place where it starts. -/
theorem Balanced.behind_eq (h : Balanced u) (d : Nat) : Nesting.behind ⟨d, none⟩ u = ⟨d, none⟩ := by
  induction h generalizing d with
  | nil => rfl
  | plain hc _ ih => rw [Nesting.behind_cons, Nesting.advance_plain hc, ih]
  | literal hq hbody _ ih =>
      rw [Nesting.behind_cons, Nesting.advance_quote hq, Nesting.behind_literal hbody, ih]
  | brackets hc _ he _ ihbody ihrest =>
      rw [Nesting.behind_cons, Nesting.advance_opening hc, Nesting.behind_append, ihbody,
        Nesting.behind_cons, Nesting.advance_closing he, Nat.add_sub_cancel, ihrest]

/-- Behind a shut text the place is at the top. -/
theorem Shut.behind_eq (h : Shut u) : Nesting.start.behind u = .start := by
  induction h with
  | balanced h => exact h.behind_eq 0
  | stray h hc _ ih =>
      rw [Nesting.behind_append, Nesting.start, h.behind_eq 0, Nesting.behind_cons,
        Nesting.advance_closing hc]
      exact ih

/-- A text that leads to the top is balanced, if it starts there, or has a balanced text in front of
a closing bracket, behind which it leads on from one level higher. -/
theorem exists_balanced (h : Nesting.behind ⟨d, none⟩ cs = .start) :
    d = 0 ∧ Balanced cs ∨ ∃ body e rest, cs = body ++ e :: rest ∧ Balanced body ∧
      isClosing e = true ∧ Nesting.behind ⟨d - 1, none⟩ rest = .start := by
  -- Behind a literal or a bracket the induction goes on at its end, hence it is on the length.
  induction hlength : cs.length using Nat.strongRecOn generalizing cs d with
  | _ length ih =>
      subst hlength
      cases cs with
      | nil =>
          obtain rfl : d = 0 := congrArg Nesting.depth h
          exact .inl ⟨rfl, .nil⟩
      | cons c cs =>
          rw [Nesting.behind_cons] at h
          obtain hc | hc | hc | hc := char_cases c
          · rw [Nesting.advance_plain hc] at h
            obtain ⟨rfl, hcs⟩ | ⟨body, e, rest, rfl, hbody, he, hrest⟩ := ih _ (by simp) h rfl
            · exact .inl ⟨rfl, .plain hc hcs⟩
            · exact .inr ⟨c :: body, e, rest, rfl, .plain hc hbody, he, hrest⟩
          · rw [Nesting.advance_quote hc] at h
            obtain ⟨inner, cs, rfl, hinner, h⟩ := Nesting.exists_quote h
            obtain ⟨rfl, hcs⟩ | ⟨body, e, rest, rfl, hbody, he, hrest⟩ := ih _ (by grind) h rfl
            · exact .inl ⟨rfl, .literal hc hinner hcs⟩
            · exact .inr ⟨c :: (inner ++ c :: body), e, rest, by simp, .literal hc hinner hbody,
                he, hrest⟩
          · rw [Nesting.advance_opening hc] at h
            obtain ⟨hzero, -⟩ | ⟨inner, i, cs, rfl, hinner, hi, h⟩ := ih _ (by simp) h rfl
            · cases hzero
            · rw [Nat.add_sub_cancel] at h
              obtain ⟨rfl, hcs⟩ | ⟨body, e, rest, rfl, hbody, he, hrest⟩ := ih _ (by grind) h rfl
              · exact .inl ⟨rfl, .brackets hc hinner hi hcs⟩
              · exact .inr ⟨c :: (inner ++ i :: body), e, rest, by simp,
                  .brackets hc hinner hi hbody, he, hrest⟩
          · rw [Nesting.advance_closing hc] at h
            exact .inr ⟨[], c, cs, rfl, .nil, hc, h⟩

/-- **The grammar says which texts the scan leaves at the top.** -/
theorem shut_iff : Shut u ↔ Nesting.start.behind u = .start := by
  refine ⟨Shut.behind_eq, fun h => ?_⟩
  induction hlength : u.length using Nat.strongRecOn generalizing u with
  | _ length ih =>
      subst hlength
      obtain ⟨-, hu⟩ | ⟨body, c, rest, rfl, hbody, hc, hrest⟩ := exists_balanced h
      · exact .balanced hu
      · exact .stray hbody hc (ih _ (by grind) hrest rfl)

/-- Balanced texts lead back to where they start, at the top as well as one level below, where a
closing bracket too many would show. -/
theorem balanced_iff : Balanced u ↔
    Nesting.start.behind u = .start ∧ Nesting.start.deeper.behind u = Nesting.start.deeper := by
  refine ⟨fun h => ⟨h.behind_eq 0, h.behind_eq 1⟩, ?_⟩
  rintro ⟨htop, hbelow⟩
  obtain ⟨-, hu⟩ | ⟨body, e, rest, rfl, hbody, he, hrest⟩ := exists_balanced htop
  · exact hu
  · have hstray : Nesting.start.deeper.behind (body ++ e :: rest) = .start := by
      rw [Nesting.behind_append, Nesting.deeper, Nesting.start, hbody.behind_eq,
        Nesting.behind_cons, Nesting.advance_closing he]
      exact hrest
    rw [hstray] at hbelow
    cases hbelow

instance : DecidablePred Balanced := fun _ => decidable_of_iff _ balanced_iff.symm

instance : DecidablePred Shut := fun _ => decidable_of_iff _ shut_iff.symm

/-! ## pieces -/

/-- A character is either cut at, at the top, or goes to the first piece. -/
theorem splitFrom_cases (sep : Char) (n : Nesting) (c : Char) :
    (c = sep ∧ n = .start ∧ n.advance c = n ∧
      ∀ cs, splitFrom sep n (c :: cs) = [] :: splitFrom sep n cs) ∨
    ∀ cs, splitFrom sep n (c :: cs) = (splitFrom sep (n.advance c) cs).modifyHead (c :: ·) := by
  cases hcut : (c = sep && n.isTop && !isDelimiter c) with
  | false => exact .inr fun cs => splitFrom_cons hcut
  | true =>
      have hsplit : ∀ cs, splitFrom sep n (c :: cs) = [] :: splitFrom sep n cs := fun cs => by
        rw [splitFrom, if_pos hcut]
      simp only [Bool.and_eq_true, decide_eq_true_eq, Bool.not_eq_true', Nesting.isTop_iff] at hcut
      obtain ⟨⟨hc, rfl⟩, hplain⟩ := hcut
      exact .inl ⟨hc, rfl, Nesting.advance_plain hplain, hsplit⟩

/-- **The pieces of a text with another one behind it.** All pieces but the last stay, and the last
goes on with the first piece of the other text, which is cut from where the scan has come to. -/
theorem exists_splitFrom_append (sep : Char) (n : Nesting) (u : List Char) : ∃ front last,
    splitFrom sep n u = front ++ [last] ∧ ∀ rest, splitFrom sep n (u ++ rest) =
      front ++ (splitFrom sep (n.behind u) rest).modifyHead (last ++ ·) := by
  induction u generalizing n with
  | nil => exact ⟨[], [], rfl, fun rest => (congrFun List.modifyHead_id _).symm⟩
  | cons c u ih =>
      obtain ⟨front, last, hu, happend⟩ := ih (n.advance c)
      obtain ⟨-, -, hadvance, hcut⟩ | hkeep := splitFrom_cases sep n c
      · rw [hadvance] at hu happend
        refine ⟨[] :: front, last, by rw [hcut, hu, List.cons_append], fun rest => ?_⟩
        rw [List.cons_append, hcut, happend, Nesting.behind_cons, hadvance, List.cons_append]
      · rw [hkeep, hu]
        cases front with
        | nil =>
            refine ⟨[], c :: last, rfl, fun rest => ?_⟩
            rw [List.cons_append, hkeep, happend, Nesting.behind_cons, List.nil_append,
              List.nil_append, List.modifyHead_modifyHead]
            rfl
        | cons first front =>
            refine ⟨(c :: first) :: front, last, rfl, fun rest => ?_⟩
            rw [List.cons_append, hkeep, happend, Nesting.behind_cons]
            rfl

/-- Joined by the separator the pieces are the text. -/
theorem intercalate_splitFrom (sep : Char) (n : Nesting) (cs : List Char) :
    [sep].intercalate (splitFrom sep n cs) = cs := by
  induction cs generalizing n with
  | nil => rfl
  | cons c cs ih =>
      have htext := ih (n.advance c)
      obtain ⟨piece, pieces, hpieces⟩ := List.exists_cons_of_ne_nil
        (splitFrom_ne_nil sep (n.advance c) cs)
      rw [hpieces] at htext
      obtain ⟨rfl, -, hadvance, hcut⟩ | hkeep := splitFrom_cases sep n c
      · rw [hadvance] at hpieces
        rw [hcut, hpieces, List.intercalate_cons_cons, htext]
        rfl
      · rw [Text.intercalate_eq_append] at htext
        rw [hkeep, hpieces, List.modifyHead_cons, Text.intercalate_eq_append, List.cons_append,
          htext]

/-- The first piece is not cut from where the text starts, nor any other one from the top. -/
theorem splitFrom_piece {piece : List Char} {pieces : List (List Char)}
    (h : splitFrom sep n cs = piece :: pieces) : splitFrom sep n piece = [piece] ∧
      ∀ other ∈ pieces, splitTopLevel sep other = [other] := by
  induction cs generalizing n piece pieces with
  | nil =>
      cases h
      exact ⟨rfl, nofun⟩
  | cons c cs ih =>
      obtain ⟨first, others, hfirst⟩ := List.exists_cons_of_ne_nil
        (splitFrom_ne_nil sep (n.advance c) cs)
      obtain ⟨hpiece, hothers⟩ := ih hfirst
      obtain ⟨-, rfl, hadvance, hcut⟩ | hkeep := splitFrom_cases sep n c
      · rw [hadvance] at hfirst hpiece
        rw [hcut, hfirst] at h
        cases h
        exact ⟨rfl, List.forall_mem_cons.mpr ⟨hpiece, hothers⟩⟩
      · rw [hkeep, hfirst] at h
        cases h
        refine ⟨?_, hothers⟩
        rw [hkeep, hpiece]
        rfl

/-- A separator is cut at exactly if the scan is at the top there. -/
theorem splitTopLevel_append_iff (hsep : isDelimiter sep = false) :
    splitTopLevel sep (u ++ sep :: v) = splitTopLevel sep u ++ splitTopLevel sep v ↔
      Nesting.start.behind u = .start := by
  obtain ⟨front, last, hu, happend⟩ := exists_splitFrom_append sep .start u
  rw [splitTopLevel, splitTopLevel, hu, happend, List.append_assoc, List.append_right_inj]
  constructor
  · intro h
    obtain ⟨-, htop, -, -⟩ | hkeep := splitFrom_cases sep (Nesting.start.behind u) sep
    · exact htop
    · obtain ⟨piece, pieces, hpieces⟩ := List.exists_cons_of_ne_nil
        (splitFrom_ne_nil sep ((Nesting.start.behind u).advance sep) v)
      rw [hkeep, hpieces] at h
      -- The last piece in front of the separator would have to go on with it.
      have hlast : last ++ sep :: piece = last := (List.cons.inj h).1
      simp at hlast
  · intro htop
    rw [htop, splitFrom_sep hsep, List.modifyHead_cons, List.append_nil]
    rfl

/-- **Cutting at the top level neither loses nor misplaces text.** The pieces joined by the
separator are the text, and none of them is cut again. Of two texts with the separator between them
the pieces are those of the first and then those of the second if both are balanced; in fact exactly
if the first one leaves nothing open. -/
theorem splitTopLevel_laws (sep : Char) (hsep : isDelimiter sep = false) :
    (∀ cs, [sep].intercalate (splitTopLevel sep cs) = cs) ∧
      (∀ cs, ∀ piece ∈ splitTopLevel sep cs, splitTopLevel sep piece = [piece]) ∧
      (∀ u v, Balanced u → Balanced v →
        splitTopLevel sep (u ++ sep :: v) = splitTopLevel sep u ++ splitTopLevel sep v) ∧
      ∀ u v, splitTopLevel sep (u ++ sep :: v) = splitTopLevel sep u ++ splitTopLevel sep v ↔
        Shut u := by
  have hexact : ∀ u v, splitTopLevel sep (u ++ sep :: v) =
      splitTopLevel sep u ++ splitTopLevel sep v ↔ Shut u := fun u v =>
    (splitTopLevel_append_iff hsep).trans shut_iff.symm
  refine ⟨intercalate_splitFrom sep .start, fun cs => ?_, fun u v hu _ => ?_, hexact⟩
  · obtain ⟨piece, pieces, hpieces⟩ := List.exists_cons_of_ne_nil (splitFrom_ne_nil sep .start cs)
    obtain ⟨hpiece, hothers⟩ := splitFrom_piece hpieces
    rw [splitTopLevel, hpieces]
    exact List.forall_mem_cons.mpr ⟨hpiece, hothers⟩
  · exact (hexact u v).mpr (.balanced hu)

/-- Two paths of a union with bars in a literal and between parentheses, and a bracket that is left
open in front of a bar. -/
theorem splitTopLevel_laws_union :
    isDelimiter '|' = false ∧ Balanced "a['|]'] ".toList ∧ Balanced " (b|c)".toList ∧
      splitTopLevel '|' "a['|]'] | (b|c)".toList =
        splitTopLevel '|' "a['|]'] ".toList ++ splitTopLevel '|' " (b|c)".toList ∧
      splitTopLevel '|' "a['|]'] | (b|c)".toList = ["a['|]'] ".toList, " (b|c)".toList] ∧
      splitTopLevel '|' "a[|]".toList ≠
        splitTopLevel '|' "a[".toList ++ splitTopLevel '|' "]".toList := by
  have hfirst : Balanced "a['|]'] ".toList := by decide
  have hsecond : Balanced " (b|c)".toList := by decide
  have hopen : ¬Shut "a[".toList := by decide
  obtain ⟨-, -, hbalanced, hexact⟩ := splitTopLevel_laws '|' (by decide)
  exact ⟨by decide, hfirst, hsecond, hbalanced _ _ hfirst hsecond, by decide,
    mt (hexact "a[".toList "]".toList).mp hopen⟩

end Extractor.XPath
