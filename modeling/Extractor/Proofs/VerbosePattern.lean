import Extractor.Pattern
import Mathlib.Data.List.Forall2

/-!
# Extractor.Proofs.VerbosePattern

What flattening a verbose pattern takes out of it. Where classes start and end is
said by the rules of the dialect (`Pattern.Place`): a closing bracket at the
start of a class is a member, and an opening bracket in a class opens another one
inside. By these rules a pattern falls into pieces, of which white space and
comments outside of all classes may be left out (`Pattern.pieces`).

Flattening follows simpler rules: it takes a class to end at the next closing
bracket. It never leaves in what may be left out (`Pattern.flatten_sublist`), and
it leaves out just that exactly if the bracket before each white space and each
hash sign in a class is an opening one (`Pattern.normalise_verbose`).
-/

namespace Extractor.Pattern

/-! ## classes -/

/-- How far the reading of a class has come. -/
inductive Progress where
  /-- Directly behind the opening bracket. -/
  | opened
  /-- Directly behind the sign of negation, which follows the opening bracket. -/
  | negated
  | begun
  deriving DecidableEq, Repr

/-- A place in a pattern: the number of classes that are open there, and how far the innermost of
them has been read. -/
structure Place where
  depth : Nat
  progress : Progress
  deriving DecidableEq, Repr

namespace Place

/-- The place outside of all classes. -/
def outside : Place := ⟨0, .begun⟩

/-- The place behind a member of a class, or behind anything outside of them. -/
def begin (place : Place) : Place := { place with progress := .begun }

/-- The place behind a character that is not escaped. -/
def next (place : Place) (c : Char) : Place :=
  if c = '[' then ⟨place.depth + 1, .opened⟩
  else if 0 < place.depth ∧ place.progress = .opened ∧ c = '^' then ⟨place.depth, .negated⟩
  else if place.progress = .begun ∧ c = ']' then ⟨place.depth - 1, .begun⟩
  else place.begin

/-- Only a closing bracket leads out of a class. -/
theorem depth_next_pos {place : Place} {c : Char} (hplace : 0 < place.depth) (hc : c ≠ ']') :
    0 < (place.next c).depth := by
  unfold next
  split
  · exact Nat.succ_pos _
  · split
    · exact hplace
    · rw [if_neg fun h => hc h.2]
      exact hplace

end Place

/-! ## pieces -/

/-- A piece of a verbose pattern. -/
inductive Piece where
  /-- A character that has a meaning of its own. -/
  | sign (c : Char)
  /-- A character behind a backslash. -/
  | escape (c : Char)
  /-- White space or a character of a comment, outside of all classes. -/
  | ignored (c : Char)
  deriving DecidableEq, Repr

namespace Piece

/-- The text of the piece. -/
def text : Piece → List Char
  | sign c => [c]
  | escape c => ['\\', c]
  | ignored c => [c]

/-- What is left of the piece in a pattern that is not verbose: nothing is ignored there, and a
space or a hash sign needs no backslash. -/
def kept : Piece → List Char
  | sign c => [c]
  | escape c => if c = '#' ∨ c = ' ' then [c] else ['\\', c]
  | ignored _ => []

theorem length_kept_le (p : Piece) : p.kept.length ≤ p.text.length := by
  cases p with
  | sign => exact Nat.le_refl _
  | escape c =>
      rw [kept]
      split
      · exact Nat.le_succ 1
      · exact Nat.le_refl _
  | ignored => exact Nat.zero_le _

/-- Whether the last bracket is an opening one, once the piece has been read. -/
def behindOpening (opening : Bool) : Piece → Bool
  | sign c => if c = '[' then true else if c = ']' then false else opening
  | _ => opening

end Piece

/-- The pieces of a verbose pattern from a place on, or from the inside of a comment on. -/
def pieces (place : Place) (inComment : Bool) : List Char → List Piece
  | [] => []
  | c :: cs =>
      if inComment then .ignored c :: pieces place (c ≠ '\n') cs
      else if c = '\\' then
        match cs with
        | [] => [.sign c]
        | e :: rest => .escape e :: pieces place.begin false rest
      else if place.depth = 0 ∧ c = '#' then .ignored c :: pieces place true cs
      else if place.depth = 0 ∧ Text.isBlank c then .ignored c :: pieces place false cs
      else .sign c :: pieces (place.next c) false cs

/-- A pattern is made up of its pieces. -/
theorem flatMap_text_pieces (place : Place) (inComment : Bool) (cs : List Char) :
    (pieces place inComment cs).flatMap Piece.text = cs := by
  fun_induction pieces place inComment cs <;> simp_all [Piece.text]

/-- The text is what remains of the pieces if nothing more than may be left out is left out. -/
def Sheds (ps : List Piece) (text : List Char) : Prop :=
  ∃ parts, List.Forall₂ (fun p part => part = p.text ∨ part = p.kept) ps parts ∧
    text = parts.flatten

/-- Whether the character would be left out outside of classes. -/
def isVerbose (c : Char) : Bool := Text.isBlank c || c = '#'

/-- The nearest bracket before each white space and each hash sign that has a meaning of its own is
an opening one. Such a sign stands in a class. -/
def GuardedFrom (opening : Bool) (ps : List Piece) : Prop :=
  ∀ front c back, ps = front ++ .sign c :: back → isVerbose c = true →
    front.foldl Piece.behindOpening opening = true

theorem guardedFrom_nil (opening : Bool) : GuardedFrom opening [] := by
  intro front c back h
  simp at h

/-- Whether the piece may stand there. -/
def Piece.isGuarded (opening : Bool) : Piece → Bool
  | sign c => !isVerbose c || opening
  | escape _ => true
  | ignored _ => true

/-- Pieces are guarded one after the other. -/
theorem guardedFrom_cons {opening : Bool} {p : Piece} {ps : List Piece} :
    GuardedFrom opening (p :: ps) ↔
      p.isGuarded opening = true ∧ GuardedFrom (p.behindOpening opening) ps := by
  constructor
  · intro h
    refine ⟨?_, fun front c back hps hc => h (p :: front) c back (by rw [hps]; rfl) hc⟩
    cases p with
    | sign c =>
        have hopen : isVerbose c = true → opening = true := h [] c ps rfl
        simpa [Piece.isGuarded, imp_iff_not_or] using hopen
    | escape c => rfl
    | ignored c => rfl
  · rintro ⟨hfirst, hrest⟩ front c back hps hc
    cases front with
    | nil =>
        obtain ⟨rfl, -⟩ := List.cons.inj hps
        simpa [Piece.isGuarded, hc] using hfirst
    | cons q front =>
        obtain ⟨rfl, hrest_eq⟩ := List.cons.inj hps
        exact hrest front c back hrest_eq hc

instance decidableGuardedFrom : ∀ opening ps, Decidable (GuardedFrom opening ps)
  | opening, [] => isTrue (guardedFrom_nil opening)
  | opening, p :: ps =>
      have := decidableGuardedFrom (p.behindOpening opening) ps
      decidable_of_iff _ guardedFrom_cons.symm

/-! ## flattening, piece by piece -/

variable {inClass inComment comment : Bool} {place : Place} {c : Char} {cs : List Char}

/-- A comment is dropped up to the end of its line. -/
theorem flatten_comment : flatten inClass true (c :: cs) = flatten inClass (c ≠ '\n') cs := by
  rw [flatten.eq_def]
  rfl

theorem flatten_escape {e : Char} : flatten inClass false ('\\' :: e :: cs) =
    (Piece.escape e).kept ++ flatten inClass false cs := by
  simp only [flatten, Piece.kept, Bool.false_eq_true, if_false, if_true, Bool.or_eq_true,
    decide_eq_true_eq]
  split <;> rfl

/-- A sign is kept, unless it would be left out outside of classes and no class seems open. -/
theorem flatten_sign (hc : c ≠ '\\') (hopen : isVerbose c = true → inClass = true) :
    flatten inClass false (c :: cs) =
      c :: flatten ((Piece.sign c).behindOpening inClass) false cs := by
  have hverbose : inClass = false → c ≠ '#' ∧ Text.isBlank c = false := by
    intro hclass
    have hplain : isVerbose c = false := by simpa [hclass] using hopen
    rw [isVerbose, Bool.or_eq_false_iff, decide_eq_false_iff_not] at hplain
    exact hplain.symm
  rw [flatten.eq_def, Piece.behindOpening]
  cases inClass with
  | true => by_cases hbracket : c = '[' <;> by_cases hclose : c = ']' <;> simp_all
  | false => by_cases hbracket : c = '[' <;> by_cases hclose : c = ']' <;> simp_all

theorem flatten_verbose (hc : isVerbose c = true) :
    flatten false false (c :: cs) = flatten false (c = '#') cs := by
  have hplain : c ≠ '\\' ∧ c ≠ '[' := by
    constructor <;> rintro rfl <;> exact absurd hc (by decide)
  rw [isVerbose, Bool.or_eq_true, decide_eq_true_eq] at hc
  rw [flatten.eq_def]
  by_cases hhash : c = '#'
  · simp [hhash]
  · simp [hplain, hhash, hc.resolve_right hhash]

theorem eq_false_of_outside (hclass : inClass = true → 0 < place.depth)
    (hdepth : place.depth = 0) : inClass = false := by
  by_contra h
  have hpos := hclass (by simpa using h)
  omega

/-- Behind an opening bracket one is in a class. -/
theorem depth_pos_of_behindOpening (hclass : inClass = true → 0 < place.depth)
    (h : (Piece.sign c).behindOpening inClass = true) : 0 < (place.next c).depth := by
  rw [Piece.behindOpening] at h
  split at h
  · next hc =>
      rw [Place.next, if_pos hc]
      exact Nat.succ_pos _
  · split at h
    · cases h
    · next hc => exact Place.depth_next_pos (hclass h) hc

/-- **Flattening keeps no more than remains by the rules.** It may take a place for one outside of
all classes that is in a class, and text for a comment that is none, but not the other way round. -/
theorem flatten_sublist (hclass : inClass = true → 0 < place.depth)
    (hcomment : comment = true → inComment = true) (hfree : inComment = true → inClass = false) :
    (flatten inClass inComment cs).Sublist ((pieces place comment cs).flatMap Piece.kept) := by
  fun_induction pieces place comment cs generalizing inClass inComment with
  | case1 => exact List.Sublist.refl _
  | case2 place c cs ih =>
      rw [hcomment rfl, flatten_comment]
      exact ih hclass id fun _ => hfree (hcomment rfl)
  | case3 place =>
      cases inComment with
      | true => exact List.nil_sublist _
      | false => exact List.Sublist.refl _
  | case4 place _ _ e rest ih =>
      rw [List.flatMap_cons]
      cases inComment with
      | true =>
          -- a comment runs over the backslash and may end with the character behind it
          have hflatten : flatten inClass true ('\\' :: e :: rest) =
              flatten inClass (e ≠ '\n') rest := flatten_comment.trans flatten_comment
          rw [hflatten]
          exact (ih hclass (by simp) fun _ => hfree rfl).trans (List.sublist_append_right _ _)
      | false =>
          rw [flatten_escape]
          exact (ih hclass (by simp) hfree).append_left _
  | case5 place _ c cs _ _ hhash ih =>
      obtain ⟨hdepth, rfl⟩ := hhash
      have hflatten : flatten inClass inComment ('#' :: cs) = flatten false true cs := by
        rw [eq_false_of_outside hclass hdepth]
        cases inComment with
        | true => exact flatten_comment
        | false => exact flatten_verbose (by decide)
      rw [hflatten]
      exact ih (by simp) (by simp) (by simp)
  | case6 place _ c cs _ _ hhash hblank ih =>
      rw [eq_false_of_outside hclass hblank.1]
      cases inComment with
      | true =>
          rw [flatten_comment]
          exact ih (by simp) (by simp) (by simp)
      | false =>
          rw [flatten_verbose (by rw [isVerbose, hblank.2, Bool.true_or])]
          exact ih (by simp) (by simp) (by simp)
  | case7 place _ c cs _ hescape _ _ ih =>
      rw [List.flatMap_cons]
      cases inComment with
      | true =>
          rw [flatten_comment]
          exact (ih (by simp [hfree]) (by simp) fun _ => hfree rfl).trans
            (List.sublist_append_right _ _)
      | false =>
          by_cases hopen : isVerbose c = true → inClass = true
          · rw [flatten_sign hescape hopen]
            exact (ih (depth_pos_of_behindOpening hclass) (by simp) (by simp)).append_left [c]
          · simp only [Classical.not_imp, Bool.not_eq_true] at hopen
            rw [hopen.2, flatten_verbose hopen.1]
            exact (ih (by simp) (by simp) (by simp)).trans (List.sublist_append_right _ _)

/-- **Flattening leaves what remains by the rules exactly if each white space and each hash sign in
a class is guarded.** -/
theorem flatten_eq_iff (hclass : inClass = true → 0 < place.depth)
    (hfree : inComment = true → inClass = false) :
    flatten inClass inComment cs = (pieces place inComment cs).flatMap Piece.kept ↔
      GuardedFrom inClass (pieces place inComment cs) := by
  fun_induction pieces place inComment cs generalizing inClass with
  | case1 => exact iff_of_true rfl (guardedFrom_nil _)
  | case2 place c cs ih =>
      rw [flatten_comment, guardedFrom_cons, Piece.isGuarded, and_iff_right rfl]
      exact ih hclass fun _ => hfree rfl
  | case3 place inComment hcomment =>
      obtain rfl := Bool.eq_false_iff.mpr hcomment
      exact iff_of_true rfl (guardedFrom_cons.mpr ⟨rfl, guardedFrom_nil _⟩)
  | case4 place inComment hcomment e rest ih =>
      obtain rfl := Bool.eq_false_iff.mpr hcomment
      rw [flatten_escape, List.flatMap_cons, List.append_cancel_left_eq, guardedFrom_cons,
        Piece.isGuarded, and_iff_right rfl]
      exact ih hclass hfree
  | case5 place inComment c cs hcomment _ hhash ih =>
      obtain rfl := Bool.eq_false_iff.mpr hcomment
      obtain ⟨hdepth, rfl⟩ := hhash
      obtain rfl := eq_false_of_outside hclass hdepth
      rw [flatten_verbose (by decide), guardedFrom_cons, Piece.isGuarded, and_iff_right rfl]
      exact ih hclass (by simp)
  | case6 place inComment c cs hcomment _ hhash hblank ih =>
      obtain rfl := Bool.eq_false_iff.mpr hcomment
      obtain rfl := eq_false_of_outside hclass hblank.1
      have hc : c ≠ '#' := fun h => hhash ⟨hblank.1, h⟩
      rw [flatten_verbose (by rw [isVerbose, hblank.2, Bool.true_or]), decide_eq_false hc,
        guardedFrom_cons, Piece.isGuarded, and_iff_right rfl]
      exact ih hclass (by simp)
  | case7 place inComment c cs hcomment hescape _ _ ih =>
      obtain rfl := Bool.eq_false_iff.mpr hcomment
      rw [List.flatMap_cons, guardedFrom_cons]
      have hguarded : (Piece.sign c).isGuarded inClass = true ↔
          (isVerbose c = true → inClass = true) := by simp [Piece.isGuarded, imp_iff_not_or]
      by_cases hopen : isVerbose c = true → inClass = true
      · rw [flatten_sign hescape hopen, and_iff_right (hguarded.mpr hopen),
          ← ih (depth_pos_of_behindOpening hclass) (by simp)]
        exact List.cons_inj_right c
      · refine iff_of_false (fun h => ?_) fun h => hopen (hguarded.mp h.1)
        -- the sign is gone, and nothing behind it makes up for that
        simp only [Classical.not_imp, Bool.not_eq_true] at hopen
        obtain ⟨hverbose, rfl⟩ := hopen
        have hsublist : (flatten false (c = '#') cs).Sublist
            ((pieces (place.next c) false cs).flatMap Piece.kept) :=
          flatten_sublist (by simp) (by simp) (by simp)
        have hshorter := hsublist.length_le
        rw [← flatten_verbose hverbose, h, List.length_append] at hshorter
        exact absurd hshorter (Nat.not_le.mpr (Nat.lt_add_of_pos_left (Nat.succ_pos 0)))

/-- However little is left out of the pieces, no less remains than what is always kept. -/
theorem Sheds.length_le {ps : List Piece} {text : List Char} (h : Sheds ps text) :
    (ps.flatMap Piece.kept).length ≤ text.length := by
  obtain ⟨parts, hparts, rfl⟩ := h
  induction hparts with
  | nil => exact Nat.le_refl _
  | @cons p part ps parts hpart _ ih =>
      have hlength : p.kept.length ≤ part.length := by
        obtain rfl | rfl := hpart
        · exact p.length_kept_le
        · exact Nat.le_refl _
      rw [List.flatMap_cons, List.flatten_cons, List.length_append, List.length_append]
      omega

/-- Leaving out whatever may be left out is one way to shed. -/
theorem sheds_flatMap_kept (ps : List Piece) : Sheds ps (ps.flatMap Piece.kept) := by
  refine ⟨ps.map Piece.kept, ?_, List.flatMap_def⟩
  rw [List.forall₂_map_right_iff]
  exact List.forall₂_same.mpr fun p _ => .inr rfl

/-! ## stored patterns -/

/-- What is left in front of a pattern of the group of its flags. -/
def remainingGroup (flags : List Char) : List Char :=
  let kept := flags.filter (!isLifted ·)
  if kept.isEmpty then [] else '(' :: '?' :: (kept ++ [')'])

/-- A verbose pattern is stored flattened behind its other flags. -/
theorem toList_normalise {source : String} {flags rest : List Char}
    (hflags : leadingFlags? source.toList = some (flags, rest)) (hverbose : 'x' ∈ flags)
    (ignoreCase dotAll : Bool) : (normalise source ignoreCase dotAll).source.toList =
      remainingGroup flags ++ flatten false false rest := by
  have hcontains : flags.contains 'x' = true := List.contains_iff_mem.mpr hverbose
  simp only [normalise, hflags, hcontains, if_true, String.toList_ofList, remainingGroup]
  split <;> simp

/-- **What is left out of a verbose pattern.** Behind what is left of its flags a verbose pattern is
stored with no more left out than white space and comments outside of all classes, and the backslash
of a space or a hash sign, exactly if the nearest bracket before each white space and each hash sign
in a class is an opening one. And then all of that is left out. -/
theorem normalise_verbose {source : String} {flags rest : List Char}
    (hflags : leadingFlags? source.toList = some (flags, rest)) (hverbose : 'x' ∈ flags)
    (ignoreCase dotAll : Bool) :
    ∃ body, (normalise source ignoreCase dotAll).source.toList = remainingGroup flags ++ body ∧
      (pieces .outside false rest).flatMap Piece.text = rest ∧
      (Sheds (pieces .outside false rest) body ↔ GuardedFrom false (pieces .outside false rest)) ∧
      (GuardedFrom false (pieces .outside false rest) →
        body = (pieces .outside false rest).flatMap Piece.kept) := by
  have hiff := @flatten_eq_iff false false .outside rest (by simp) (by simp)
  refine ⟨flatten false false rest, toList_normalise hflags hverbose ignoreCase dotAll,
    flatMap_text_pieces _ _ _, ⟨fun h => ?_, fun h => ?_⟩, hiff.mpr⟩
  · have hsublist := @flatten_sublist false false false .outside rest (by simp) (by simp) (by simp)
    exact hiff.mp (hsublist.eq_of_length_le h.length_le)
  · rw [hiff.mpr h]
    exact sheds_flatMap_kept _

/-- White space and a hash sign in a class inside a class are members, and outside of them they are
not. -/
theorem normalise_verbose_nested :
    leadingFlags? "(?mx) [a b[# c]] \\ d # e\n".toList =
      some (['m', 'x'], " [a b[# c]] \\ d # e\n".toList) ∧
    'x' ∈ ['m', 'x'] ∧ GuardedFrom false (pieces .outside false " [a b[# c]] \\ d # e\n".toList) ∧
    ∃ body, (normalise "(?mx) [a b[# c]] \\ d # e\n" false false).source.toList =
        remainingGroup ['m', 'x'] ++ body ∧
      Sheds (pieces .outside false " [a b[# c]] \\ d # e\n".toList) body ∧
      body = "[a b[# c]] d".toList := by
  have hflags : leadingFlags? "(?mx) [a b[# c]] \\ d # e\n".toList =
      some (['m', 'x'], " [a b[# c]] \\ d # e\n".toList) := by decide +kernel
  have hguarded : GuardedFrom false (pieces .outside false " [a b[# c]] \\ d # e\n".toList) := by
    decide +kernel
  obtain ⟨body, hbody, -, hsheds, hkept⟩ := normalise_verbose hflags (by decide) false false
  exact ⟨hflags, by decide, hguarded, body, hbody, hsheds.mpr hguarded,
    (hkept hguarded).trans (by decide +kernel)⟩

/-- A closing bracket at the start of a class is a member of it, but what follows is taken for a
comment. And a class inside a class ends both of them. -/
theorem normalise_drops_members :
    pieces .outside false "[]#]a".toList = "[]#]a".toList.map .sign ∧
    (normalise "(?x)[]#]a" false false).source = "[]" ∧
    ¬ Sheds (pieces .outside false "[]#]a".toList) "[]".toList ∧
    pieces .outside false "[a[b] c]".toList = "[a[b] c]".toList.map .sign ∧
    (normalise "(?x)[a[b] c]" false false).source = "[a[b]c]" ∧
    ¬ Sheds (pieces .outside false "[a[b] c]".toList) "[a[b]c]".toList := by
  refine ⟨by decide +kernel, by decide +kernel, fun h => ?_, by decide +kernel, by decide +kernel,
    fun h => ?_⟩
  · exact absurd h.length_le (by decide +kernel)
  · exact absurd h.length_le (by decide +kernel)

end Extractor.Pattern
