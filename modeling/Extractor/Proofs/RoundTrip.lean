import Extractor.Proofs.Steps
import Extractor.Query.Check

/-!
# Extractor.Proofs.RoundTrip

Selectors in canonical text come back, character for character, from the query
that they are converted to (`Query.xpathToCss_cssToXPath`). The query is cut
where it was put together: at the bars between paths and the slashes between
steps.
-/

namespace Extractor.XPath

variable {sep : Char} {compound : Css.Compound} {combinator : Css.Combinator}

/-! ## pieces -/

/-- The texts between the slashes of a step. -/
def pieces : Css.Combinator → Css.Compound → List (List Char)
  | .descendant, compound =>
      ["descendant-or-self::*".toList, nodeTest compound ++ predicates compound.conditions]
  | .child, compound => [nodeTest compound ++ predicates compound.conditions]
  | .sibling, compound =>
      ["following-sibling::".toList ++ nodeTest compound ++ predicates compound.conditions]
  | .adjacent, compound =>
      ["following-sibling::*".toList ++ brackets ([adjacentTest compound] ++ testsOf compound)]

/-- A step is written as its pieces with a slash before each. -/
theorem step_eq (combinator : Css.Combinator) (compound : Css.Compound) :
    step combinator compound = (pieces combinator compound).flatMap ('/' :: ·) := by
  cases combinator with
  | descendant =>
      have hsplit : "/descendant-or-self::*/".toList =
          '/' :: ("descendant-or-self::*".toList ++ ['/']) := by decide
      dsimp only [step, pieces]
      rw [hsplit]
      simp
  | child =>
      dsimp only [step, pieces]
      simp
  | sibling =>
      have hsplit : "/following-sibling::".toList = '/' :: "following-sibling::".toList := by decide
      dsimp only [step, pieces]
      rw [hsplit]
      simp
  | adjacent =>
      dsimp only [step, pieces, adjacentTest, brackets]
      rw [predicates_eq, brackets]
      split
      · have hsplit : "/following-sibling::*[position() = 1]".toList =
            '/' :: ("following-sibling::*".toList ++
              '[' :: ("position() = 1".toList ++ [']'])) := by
          decide
        rw [hsplit]
        simp
      · have hfront : "/following-sibling::*[(name() = ".toList =
            '/' :: ("following-sibling::*".toList ++ '[' :: "(name() = ".toList) := by decide
        have hback : ") and (position() = 1)]".toList =
            ") and (position() = 1)".toList ++ [']'] := by decide
        rw [hfront, hback]
        simp

/-- What is put between brackets stays in one piece. -/
theorem whole_brackets {tests : List (List Char)}
    (h : ∀ test ∈ tests, Nesting.start.pass? test = some .start) : Whole sep (brackets tests) := by
  induction tests with
  | nil => exact .plain nofun
  | cons test tests ih =>
      obtain ⟨htest, htests⟩ := List.forall_mem_cons.mp h
      exact (Whole.brackets htest).append (ih htests)

/-- No separator stands in a node test. -/
theorem whole_nodeTest (h : compound.IsPlain) (hsep : sep ∈ "/|".toList) :
    Whole sep (nodeTest compound) := by
  have hall : ∀ c ∈ "/|".toList, c ∈ "[]()'\"/|: ".toList := Text.forall_mem_of_all (by decide)
  refine .plain fun c hc => ⟨?_, ?_⟩
  · obtain hplain | rfl := nodeTest_chars h c hc
    · exact isDelimiter_of_isIdentPart hplain
    · rfl
  · rintro rfl
    exact not_mem_nodeTest h (hall c hsep) hc

/-- The axes have neither delimiters nor separators in them. -/
theorem whole_axis (hsep : sep ∈ "/|".toList) {axis : List Char}
    (haxis : axis.all (fun c => !isDelimiter c && c ∉ "/|".toList) = true) : Whole sep axis := by
  refine .plain fun c hc => ?_
  have hc := List.all_eq_true.mp haxis c hc
  rw [Bool.and_eq_true, Bool.not_eq_true', decide_eq_true_eq] at hc
  exact ⟨hc.1, fun heq => hc.2 (heq ▸ hsep)⟩

/-- A compound is cut at no separator, since those in its tests are in brackets. -/
theorem whole_compound (h : compound.IsPlain) (hsep : sep ∈ "/|".toList) :
    Whole sep (nodeTest compound ++ predicates compound.conditions) := by
  rw [predicates_eq]
  exact (whole_nodeTest h hsep).append
    (whole_brackets fun test htest => (enclosable_testsOf h test htest).pass)

/-- No piece of a step is cut at a separator. -/
theorem whole_pieces (h : compound.IsPlain) (hsep : sep ∈ "/|".toList)
    (combinator : Css.Combinator) : ∀ piece ∈ pieces combinator compound, Whole sep piece := by
  have hcompound := whole_compound h hsep
  cases combinator with
  | descendant =>
      refine List.forall_mem_cons.mpr ⟨whole_axis hsep (by decide), ?_⟩
      exact List.forall_mem_singleton.mpr hcompound
  | child => exact List.forall_mem_singleton.mpr hcompound
  | sibling =>
      refine List.forall_mem_singleton.mpr ?_
      rw [List.append_assoc]
      exact (whole_axis hsep (by decide)).append hcompound
  | adjacent =>
      refine List.forall_mem_singleton.mpr ((whole_axis hsep (by decide)).append ?_)
      exact whole_brackets (List.forall_mem_cons.mpr ⟨(pass?_adjacentTest h).1,
        fun test htest => (enclosable_testsOf h test htest).pass⟩)

/-- Pieces with a slash in front of each are cut apart again. -/
theorem splitTopLevel_pieces {first : List Char} {rest : List (List Char)}
    (hfirst : Whole '/' first) (hrest : ∀ piece ∈ rest, Whole '/' piece) :
    splitTopLevel '/' (first ++ rest.flatMap ('/' :: ·)) = first :: rest := by
  induction rest generalizing first with
  | nil => rw [List.flatMap_nil, List.append_nil, hfirst.splitTopLevel_eq]
  | cons piece rest ih =>
      obtain ⟨hpiece, hrest⟩ := List.forall_mem_cons.mp hrest
      rw [List.flatMap_cons, List.cons_append, hfirst.splitTopLevel_append rfl, ih hpiece hrest]

theorem ended_brackets {head : List Char} (hhead : Text.Ended head) (tests : List (List Char)) :
    Text.Ended (head ++ brackets tests) :=
  hhead.flatMap fun _ _ => .cons _ (.append _ ⟨[], ']', rfl, by decide⟩)

theorem ended_compound (h : compound.IsPlain) :
    Text.Ended (nodeTest compound ++ predicates compound.conditions) := by
  rw [predicates_eq]
  exact ended_brackets (isType_nodeTest h).ended _

/-- Every piece of a step ends in no white space. -/
theorem ended_pieces (h : compound.IsPlain) (combinator : Css.Combinator) :
    ∀ piece ∈ pieces combinator compound, Text.Ended piece := by
  have hstar : Text.Ended ['*'] := ⟨[], '*', rfl, by decide⟩
  have hcompound := ended_compound h
  cases combinator with
  | descendant =>
      refine List.forall_mem_cons.mpr ⟨hstar.append "descendant-or-self::".toList, ?_⟩
      exact List.forall_mem_singleton.mpr hcompound
  | child => exact List.forall_mem_singleton.mpr hcompound
  | sibling =>
      refine List.forall_mem_singleton.mpr ?_
      rw [List.append_assoc]
      exact hcompound.append _
  | adjacent =>
      refine List.forall_mem_singleton.mpr (ended_brackets ?_ _)
      exact hstar.append "following-sibling::".toList

/-! ## paths -/

/-- One step adds its combinator and what comes back of its compound selector. -/
theorem pathFrom_cons {css piece : List Char} {pending : Css.Combinator} {rest : List (List Char)}
    {text : Except (Failure Obstacle) (List Char)} (hpiece : Text.Unpadded piece)
    (hdeepening : (isDeepening piece && !rest.isEmpty) = false)
    (hstep : stepSelector piece pending = text.map (combinator, ·)) :
    pathFrom css pending (piece :: rest) = text >>= fun text =>
      pathFrom (css ++ (if css.isEmpty then [] else combinatorText combinator) ++ text)
        .child rest := by
  rw [pathFrom, Text.trim_eq_self hpiece]
  simp only [hdeepening, hstep]
  cases text <;> rfl

/-- A text without brackets has no tests. -/
theorem eq_of_brackets {head fixed : List Char} {tests : List (List Char)}
    (hfixed : '[' ∉ fixed) (h : head ++ brackets tests = fixed) : tests = [] ∧ head = fixed := by
  cases tests with
  | nil => exact ⟨rfl, (List.append_nil head).symm.trans h⟩
  | cons test tests =>
      refine absurd ?_ hfixed
      rw [← h]
      exact List.mem_append_right head List.mem_cons_self

/-- A compound is not taken for the step that goes down to any depth. -/
theorem isDeepening_compound (h : compound.IsPlain) :
    isDeepening (nodeTest compound ++ predicates compound.conditions) = false := by
  have hfixed : ∀ fixed : List Char, ':' ∈ fixed → '[' ∉ fixed →
      nodeTest compound ++ brackets (testsOf compound) ≠ fixed := by
    intro fixed hcolon hbracket heq
    rw [← (eq_of_brackets hbracket heq).2] at hcolon
    exact not_mem_nodeTest h (by decide) hcolon
  rw [predicates_eq, isDeepening, decide_eq_false (hfixed _ (by decide) (by decide)),
    decide_eq_false (hfixed _ (by decide) (by decide))]
  simp [nodeTest_ne_nil h]

/-- The first step of a path is a step of its own unless it is the star alone. -/
theorem isDeepening_lead (h : compound.IsPlain) (hstar : compound ≠ .star) :
    isDeepening ("descendant-or-self::".toList ++
      (nodeTest compound ++ predicates compound.conditions)) = false := by
  have hany : nodeTest compound ++ predicates compound.conditions ≠ ['*'] := by
    intro heq
    rw [predicates_eq] at heq
    obtain ⟨htests, hnode⟩ := eq_of_brackets (by decide) heq
    rw [testsOf, List.map_eq_nil_iff] at htests
    obtain ⟨element, conditions⟩ := compound
    obtain rfl : conditions = [] := htests
    cases element with
    | none => exact h.nonempty rfl rfl
    | some name =>
        obtain rfl : name = ['*'] := hnode
        exact hstar rfl
  have hnode : nodeTest compound ++ predicates compound.conditions ≠ "node()".toList := by
    intro heq
    rw [predicates_eq] at heq
    have hparen := not_mem_nodeTest h (show '(' ∈ "[]()'\"/|: ".toList by decide)
    rw [(eq_of_brackets (by decide) heq).2] at hparen
    exact hparen (by decide)
  have hsplitAny : "descendant-or-self::*".toList = "descendant-or-self::".toList ++ ['*'] := by
    decide
  have hsplitNode : "descendant-or-self::node()".toList =
      "descendant-or-self::".toList ++ "node()".toList := by decide
  rw [isDeepening, hsplitAny, hsplitNode,
    decide_eq_false fun heq => hany (List.append_cancel_left heq),
    decide_eq_false fun heq => hnode (List.append_cancel_left heq)]
  rfl

theorem combinatorText_eq (combinator : Css.Combinator) :
    combinatorText combinator = combinator.text := by
  cases combinator <;> rfl

/-- A step behind others is written behind their text. -/
theorem pathFrom_step {css piece : List Char} {pending : Css.Combinator} {rest : List (List Char)}
    {text : Except (Failure Obstacle) (List Char)} (hcss : css ≠ []) (hpiece : Text.Unpadded piece)
    (hdeepening : isDeepening piece = false)
    (hstep : stepSelector piece pending = text.map (combinator, ·)) :
    pathFrom css pending (piece :: rest) = text >>= fun text =>
      pathFrom (css ++ (combinator.text ++ text)) .child rest := by
  rw [pathFrom_cons hpiece (by rw [hdeepening]; rfl) hstep, if_neg (by simpa using hcss),
    combinatorText_eq]
  simp only [List.append_assoc]

/-- The pieces of a step come back as its combinator and its compound. -/
theorem pathFrom_pieces (h : compound.IsPlain) (combinator : Css.Combinator)
    {css : List Char} (hcss : css ≠ []) (rest : List (List Char)) :
    pathFrom css .child (pieces combinator compound ++ rest) =
      restored combinator compound >>= fun text =>
        pathFrom (css ++ (combinator.text ++ text)) .child rest := by
  have hended := ended_pieces h combinator
  have hdeepening := isDeepening_compound h
  have hblank : Text.Unblank (nodeTest compound ++ predicates compound.conditions) := by
    cases hnode : nodeTest compound with
    | nil => exact absurd hnode (nodeTest_ne_nil h)
    | cons c cs => exact Text.unblank_cons ((unpadded_nodeTest h).1 c (by simp [hnode]))
  cases combinator with
  | descendant =>
      have hdeep : pathFrom css .child (pieces .descendant compound ++ rest) =
          pathFrom css .descendant
            ((nodeTest compound ++ predicates compound.conditions) :: rest) :=
        rfl
      rw [hdeep]
      exact pathFrom_step hcss ((hended _ (by simp [pieces])).unpadded hblank) hdeepening
        (stepSelector_child h)
  | child =>
      exact pathFrom_step hcss ((hended _ (by simp [pieces])).unpadded hblank) hdeepening
        (stepSelector_child h)
  | sibling =>
      refine pathFrom_step hcss ((hended _ (by simp [pieces])).unpadded ?_) rfl
        (stepSelector_sibling h)
      exact Text.unblank_cons (by decide)
  | adjacent =>
      refine pathFrom_step hcss ((hended _ (by simp [pieces])).unpadded ?_) rfl
        (stepSelector_adjacent h)
      exact Text.unblank_cons (by decide)

/-- The text that comes back of the tail of a complex selector. -/
def restoredTail : List (Css.Combinator × Css.Compound) → Except (Failure Obstacle) (List Char)
  | [] => .ok []
  | (combinator, compound) :: tail => do
      let text ← restored combinator compound
      let others ← restoredTail tail
      return combinator.text ++ text ++ others

/-- The pieces of all steps come back one by one. -/
theorem pathFrom_tail {tail : List (Css.Combinator × Css.Compound)}
    (h : ∀ compound ∈ tail.map Prod.snd, compound.IsPlain) {css : List Char} (hcss : css ≠ []) :
    pathFrom css .child (tail.flatMap fun (combinator, compound) => pieces combinator compound) =
      (restoredTail tail).map (css ++ ·) := by
  induction tail generalizing css with
  | nil => exact congrArg Except.ok (List.append_nil css).symm
  | cons step tail ih =>
      obtain ⟨combinator, compound⟩ := step
      obtain ⟨hcompound, htail⟩ := List.forall_mem_cons.mp h
      rw [List.flatMap_cons, pathFrom_pieces hcompound combinator hcss, restoredTail]
      cases restored combinator compound with
      | error e => rfl
      | ok text =>
          rw [Outcome.ok_bind, Outcome.ok_bind, ih htail (by simp [hcss])]
          cases restoredTail tail with
          | error e => rfl
          | ok others => simp [Except.map, bind, Except.bind, pure, Except.pure]

/-- The first step of a path. -/
def leadingPiece (selector : Css.Complex) : List Char :=
  "descendant-or-self::".toList ++
    (nodeTest selector.head ++ predicates selector.head.conditions)

/-- The texts between the slashes of a path, behind the first. -/
def furtherPieces (selector : Css.Complex) : List (List Char) :=
  selector.tail.flatMap fun (combinator, compound) => pieces combinator compound

/-- A path is written as its first piece and the further ones. -/
theorem pathOf_eq (selector : Css.Complex) : pathOf defaultPrefix.toList selector =
    leadingPiece selector ++ (furtherPieces selector).flatMap ('/' :: ·) := by
  have htail : (furtherPieces selector).flatMap ('/' :: ·) =
      selector.tail.flatMap fun (combinator, compound) => step combinator compound := by
    simp only [furtherPieces, List.flatMap_assoc, step_eq]
  rw [htail]
  exact congrArg (· ++ _) (List.append_assoc defaultPrefix.toList _ _)

/-- The text that comes back of a complex selector. -/
def restoredComplex (selector : Css.Complex) : Except (Failure Obstacle) (List Char) := do
  let head ← restored .descendant selector.head
  let tail ← restoredTail selector.tail
  return head ++ tail

section Path

variable {selector : Css.Complex} (h : selector.IsPlain)
include h

/-- The first piece is cut at no separator. -/
theorem whole_leadingPiece (hsep : sep ∈ "/|".toList) : Whole sep (leadingPiece selector) :=
  (whole_axis hsep (by decide)).append (whole_compound h.head hsep)

/-- What holds of the pieces of all compounds holds of the further pieces. -/
theorem forall_furtherPieces {P : List Char → Prop}
    (hP : ∀ combinator compound, compound.IsPlain → ∀ piece ∈ pieces combinator compound, P piece) :
    ∀ piece ∈ furtherPieces selector, P piece := by
  intro piece hpiece
  obtain ⟨⟨combinator, compound⟩, hmem, hpiece⟩ := List.mem_flatMap.mp hpiece
  exact hP combinator compound (h.tail compound (List.mem_map_of_mem hmem)) piece hpiece

/-- The first piece has no white space around it. -/
theorem unpadded_leadingPiece : Text.Unpadded (leadingPiece selector) := by
  exact ((ended_compound h.head).append _).unpadded (Text.unblank_cons (by decide))

/-- A path has no white space around it. -/
theorem ended_pathOf : Text.Ended (pathOf defaultPrefix.toList selector) := by
  rw [pathOf_eq]
  refine ((ended_compound h.head).append _).flatMap fun piece hpiece => ?_
  exact .cons '/' (forall_furtherPieces h
    (fun combinator _ hcompound => ended_pieces hcompound combinator) piece hpiece)

omit h in
theorem unblank_pathOf : Text.Unblank (pathOf defaultPrefix.toList selector) :=
  Text.unblank_cons (by decide)

/-- A path is not cut where a union of paths is. -/
theorem whole_pathOf : Whole '|' (pathOf defaultPrefix.toList selector) := by
  have hpieces : ∀ piece ∈ furtherPieces selector, Whole '|' piece :=
    forall_furtherPieces h fun combinator _ hcompound =>
      whole_pieces hcompound (by decide) combinator
  have hslash : Whole '|' ['/'] := .plain (Text.forall_mem_of_all (by decide))
  rw [pathOf_eq]
  refine (whole_leadingPiece h (by decide)).append ?_
  generalize furtherPieces selector = rest at hpieces
  induction rest with
  | nil => exact .plain nofun
  | cons piece rest ih =>
      obtain ⟨hpiece, hrest⟩ := List.forall_mem_cons.mp hpieces
      exact (hslash.append hpiece).append (ih hrest)

/-- What comes back of the first compound selector is not empty. -/
theorem restored_ne_nil {text : List Char} (htext : restored combinator selector.head = .ok text) :
    text ≠ [] := by
  obtain ⟨-, rfl⟩ := (restored_eq_ok_iff h.head).mp htext
  obtain ⟨c, cs, hcs, -⟩ := Css.Compound.text_head (isReadable_shortestCompound h.head)
  rw [hcs]
  exact List.cons_ne_nil c cs

/-- A path, blanks around it or not, leads back to what comes back of its selector. -/
theorem pathSelector_pathOf {front back : List Char} (hfront : ∀ c ∈ front, Text.isBlank c = true)
    (hback : ∀ c ∈ back, Text.isBlank c = true) :
    pathSelector (front ++ (pathOf defaultPrefix.toList selector ++ back)) =
      restoredComplex selector := by
  have htrim := Text.trim_append hfront hback ((ended_pathOf h).unpadded unblank_pathOf)
  have hstart : pathStart (pathOf defaultPrefix.toList selector) =
      (.child, pathOf defaultPrefix.toList selector) := by
    rw [pathOf_eq]
    rfl
  have hsplit : splitTopLevel '/' (pathOf defaultPrefix.toList selector) =
      leadingPiece selector :: furtherPieces selector := by
    rw [pathOf_eq]
    exact splitTopLevel_pieces (whole_leadingPiece h (by decide)) (forall_furtherPieces h
      fun combinator _ hcompound => whole_pieces hcompound (by decide) combinator)
  have hdeepening :
      (isDeepening (leadingPiece selector) && !(furtherPieces selector).isEmpty) = false := by
    by_cases hstar : selector.head = .star
    · rw [furtherPieces, h.star hstar]
      simp
    · exact congrArg (· && _) (isDeepening_lead h.head hstar)
  have hstep : stepSelector (leadingPiece selector) .child =
      (restored .descendant selector.head).map (.descendant, ·) := by
    have hassoc := List.append_assoc "descendant-or-self::".toList (nodeTest selector.head)
      (predicates selector.head.conditions)
    exact (congrArg (stepSelector · .child) hassoc).symm.trans (stepSelector_descendant h.head)
  have hpath : pathFrom [] .child (leadingPiece selector :: furtherPieces selector) =
      restoredComplex selector := by
    rw [pathFrom_cons (unpadded_leadingPiece h) hdeepening hstep, restoredComplex]
    cases hhead : restored .descendant selector.head with
    | error e => rfl
    | ok text =>
        refine (pathFrom_tail h.tail (restored_ne_nil h hhead)).trans ?_
        cases restoredTail selector.tail <;> rfl
  rw [pathSelector, htrim, hstart]
  dsimp only
  rw [hsplit, hpath]
  cases hcss : restoredComplex selector with
  | error e => rfl
  | ok css =>
      have hne : css ≠ [] := by
        rw [restoredComplex, Outcome.bind_eq_ok] at hcss
        obtain ⟨text, htext, hcss⟩ := hcss
        rw [Outcome.bind_eq_ok] at hcss
        obtain ⟨others, -, hcss⟩ := hcss
        rw [← Outcome.pure_eq_ok.mp hcss]
        exact List.append_ne_nil_of_left_ne_nil (restored_ne_nil h htext) others
      rw [Outcome.ok_bind, if_neg (by simpa using hne)]
      rfl

end Path

/-! ## unions -/

/-- The paths of a union are told apart, each with the blanks beside its bars. -/
theorem mapM_splitTopLevel {selectors : List Css.Complex} (hne : selectors ≠ [])
    (h : ∀ selector ∈ selectors, selector.IsPlain) {front : List Char}
    (hfront : ∀ c ∈ front, Text.isBlank c = true) (hwhole : Whole '|' front) :
    (splitTopLevel '|' (front ++ ofSelectors defaultPrefix.toList selectors)).mapM pathSelector =
      selectors.mapM restoredComplex := by
  have hspace : Whole '|' [' '] := .plain (Text.forall_mem_of_all (by decide))
  induction selectors generalizing front with
  | nil => contradiction
  | cons selector selectors ih =>
      obtain ⟨hselector, hselectors⟩ := List.forall_mem_cons.mp h
      have hpath := whole_pathOf hselector
      cases selectors with
      | nil =>
          have hback := pathSelector_pathOf hselector hfront (List.forall_mem_nil _)
          have hpaths : ofSelectors defaultPrefix.toList [selector] =
              pathOf defaultPrefix.toList selector := by
            simp [ofSelectors]
          rw [List.append_nil] at hback
          rw [hpaths, (hwhole.append hpath).splitTopLevel_eq, List.mapM_cons, List.mapM_cons, hback]
          rfl
      | cons next selectors =>
          have hback := pathSelector_pathOf hselector hfront Text.isBlank_space
          have hpaths : front ++ ofSelectors defaultPrefix.toList (selector :: next :: selectors) =
              front ++ (pathOf defaultPrefix.toList selector ++ [' ']) ++
                '|' :: ([' '] ++ ofSelectors defaultPrefix.toList (next :: selectors)) := by
            simp [ofSelectors, List.intercalate]
          rw [hpaths, (hwhole.append (hpath.append hspace)).splitTopLevel_append rfl,
            List.mapM_cons, hback, ih nofun hselectors Text.isBlank_space hspace]
          exact (List.mapM_cons).symm

/-- **What comes back of a query is what comes back of its selectors.** -/
theorem selectorsOf_eq {selectors : List Css.Complex} (hne : selectors ≠ [])
    (h : ∀ selector ∈ selectors, selector.IsPlain) :
    selectorsOf (ofSelectors defaultPrefix.toList selectors) =
      (selectors.mapM restoredComplex).map (", ".toList.intercalate ·) := by
  have hmap := mapM_splitTopLevel hne h (List.forall_mem_nil _) (.plain (List.forall_mem_nil _))
  have hunpadded : Text.Unpadded (ofSelectors defaultPrefix.toList selectors) := by
    cases selectors with
    | nil => contradiction
    | cons selector selectors =>
        exact Text.unpadded_intercalate unblank_pathOf
          (List.forall_mem_map.mpr fun selector hmem => ended_pathOf (h selector hmem))
  rw [List.nil_append] at hmap
  rw [selectorsOf, Text.trim_eq_self hunpadded, hmap]
  cases selectors.mapM restoredComplex <;> rfl

/-! ## shortest selectors -/

/-- The shortest complex selector with the same path. -/
def shortestComplex (selector : Css.Complex) : Css.Complex :=
  ⟨shortestCompound selector.head, selector.tail.map (Prod.map id shortestCompound)⟩

/-- The steps behind the first come back exactly if each of them does. -/
theorem restoredTail_eq_ok_iff {tail : List (Css.Combinator × Css.Compound)} {text : List Char}
    (h : ∀ compound ∈ tail.map Prod.snd, compound.IsPlain) :
    restoredTail tail = .ok text ↔ (∀ step ∈ tail, IsRestorable step.1 step.2) ∧
      text = Css.tailText (tail.map (Prod.map id shortestCompound)) := by
  induction tail generalizing text with
  | nil => simp [restoredTail, Css.tailText, eq_comm]
  | cons step tail ih =>
      obtain ⟨combinator, compound⟩ := step
      obtain ⟨hcompound, htail⟩ := List.forall_mem_cons.mp h
      have htext : Css.tailText (((combinator, compound) :: tail).map
          (Prod.map id shortestCompound)) = combinator.text ++ (shortestCompound compound).text ++
            Css.tailText (tail.map (Prod.map id shortestCompound)) := by simp [Css.tailText]
      rw [restoredTail, Outcome.bind_eq_ok, htext, List.forall_mem_cons]
      simp only [Outcome.bind_eq_ok, Outcome.pure_eq_ok, restored_eq_ok_iff hcompound, ih htail]
      constructor
      · rintro ⟨_, ⟨hhead, rfl⟩, _, ⟨hrest, rfl⟩, rfl⟩
        exact ⟨⟨hhead, hrest⟩, rfl⟩
      · rintro ⟨⟨hhead, hrest⟩, rfl⟩
        exact ⟨_, ⟨hhead, rfl⟩, _, ⟨hrest, rfl⟩, rfl⟩

/-- **If anything comes back of a complex selector, it is the shortest text of it.** -/
theorem restoredComplex_eq_ok_iff {selector : Css.Complex} {text : List Char}
    (h : selector.IsPlain) : restoredComplex selector = .ok text ↔
      (IsRestorable .descendant selector.head ∧
        ∀ step ∈ selector.tail, IsRestorable step.1 step.2) ∧
      text = (shortestComplex selector).text := by
  rw [restoredComplex, Outcome.bind_eq_ok]
  simp only [Outcome.bind_eq_ok, Outcome.pure_eq_ok, restored_eq_ok_iff h.head,
    restoredTail_eq_ok_iff h.tail]
  constructor
  · rintro ⟨_, ⟨hhead, rfl⟩, _, ⟨htail, rfl⟩, rfl⟩
    exact ⟨⟨hhead, htail⟩, rfl⟩
  · rintro ⟨⟨hhead, htail⟩, rfl⟩
    exact ⟨_, ⟨hhead, rfl⟩, _, ⟨htail, rfl⟩, rfl⟩

/-- A group comes back exactly if each selector does. -/
theorem mapM_restoredComplex {selectors : List Css.Complex} {texts : List (List Char)}
    (h : ∀ selector ∈ selectors, selector.IsPlain) :
    selectors.mapM restoredComplex = .ok texts ↔
      (∀ selector ∈ selectors, IsRestorable .descendant selector.head ∧
        ∀ step ∈ selector.tail, IsRestorable step.1 step.2) ∧
      texts = selectors.map (Css.Complex.text ∘ shortestComplex) :=
  Outcome.mapM_eq_ok_iff fun selector hmem _ => restoredComplex_eq_ok_iff (h selector hmem)

/-- The shortest form of a selector has the same path. -/
theorem pathOf_shortestComplex (lead : List Char) (selector : Css.Complex) :
    pathOf lead (shortestComplex selector) = pathOf lead selector := by
  rw [pathOf, pathOf, shortestComplex, nodeTest_shortestCompound, predicates_shortestCompound,
    List.flatMap_map]
  simp only [Prod.map, id, step_shortestCompound]

theorem ofSelectors_shortestComplex (lead : List Char) (selectors : List Css.Complex) :
    ofSelectors lead (selectors.map shortestComplex) = ofSelectors lead selectors := by
  rw [ofSelectors, ofSelectors, List.map_map]
  simp only [Function.comp_def, pathOf_shortestComplex]

/-- The shortest form of a plain selector can be read. -/
theorem isReadable_shortestComplex {selector : Css.Complex} (h : selector.IsPlain) :
    (shortestComplex selector).IsReadable := by
  refine ⟨isReadable_shortestCompound h.head, ?_⟩
  intro compound hmem
  rw [shortestComplex, List.map_map, List.mem_map] at hmem
  obtain ⟨step, hstep, rfl⟩ := hmem
  exact isReadable_shortestCompound (h.tail step.2 (List.mem_map_of_mem hstep))

/-! ## canonical selectors -/

/-- An identifier of CSS is one of a query. -/
theorem isIdent_of_isIdentifier {name : List Char} (h : Css.isIdentifier name = true) :
    isIdent name = true := by
  have hstart : ∀ c, Css.isPlainStart c = true → isIdentStart c = true := by
    intro c hc
    obtain ⟨n, hn, rfl⟩ := Css.exists_ofNat_of_isPlainChar (Css.isPlainChar_of_isPlainStart hc)
    revert n
    decide
  have hname : ∀ cs, Css.isName cs = true → ∃ c rest, cs = c :: rest ∧
      (isIdentStart c && rest.all Recogniser.isNamePart) = true := by
    intro cs hcs
    cases cs with
    | nil => cases hcs
    | cons c rest =>
        rw [Css.isName, Bool.and_eq_true, List.all_eq_true] at hcs
        refine ⟨c, rest, rfl, ?_⟩
        rw [Bool.and_eq_true, List.all_eq_true]
        exact ⟨hstart c hcs.1, fun d hd => (Css.of_isPlainChar (hcs.2 d hd)).2.1⟩
  unfold Css.isIdentifier at h
  split at h
  · next rest =>
      obtain ⟨c, rest, rfl, hident⟩ := hname rest h
      exact hident
  · next hdash =>
      obtain ⟨c, rest, rfl, hident⟩ := hname name h
      unfold isIdent
      split
      · next heq => exact absurd heq (hdash _)
      · exact hident

/-- A canonical condition is its own shortest form, and so are compounds and selectors. -/
theorem shortest_of_isCanonical {condition : Css.Condition} (h : condition.IsCanonical isIdent) :
    shortest condition = condition := by
  cases condition with
  | hasClass name => simp [shortest, shortestAttribute, isIdent_of_isIdentifier h]
  | hasId name => simp [shortest, shortestAttribute, isIdent_of_isIdentifier h]
  | attributeIs name operator value =>
      obtain ⟨-, -, -, hid, hclass⟩ := h
      rw [shortest, shortestAttribute,
        if_neg (by simpa only [Bool.and_eq_true, decide_eq_true_eq, and_assoc] using hclass),
        if_neg (by simpa only [Bool.and_eq_true, decide_eq_true_eq, and_assoc] using hid)]
  | hasAttribute | firstChild | lastChild | onlyChild | empty => rfl
  | nthChild n =>
      obtain ⟨k, rfl⟩ : ∃ k, n = k + 2 := ⟨n - 2, by have := h.1; omega⟩
      rfl

theorem shortestCompound_of_isCanonical (h : compound.IsCanonical isIdent) :
    shortestCompound compound = compound := by
  obtain ⟨element, conditions⟩ := compound
  obtain hstar | ⟨hname, -, hconditions⟩ := h
  · rw [hstar]
    rfl
  · have helement : tested ⟨element, conditions⟩ = element := by
      cases element with
      | none => rfl
      | some name =>
          have hne : name ≠ ['*'] := by
            rintro rfl
            exact absurd (hname _ rfl) (by decide)
          simp [tested_eq, nodeTest, hne]
    rw [shortestCompound, helement, ite_self, Css.Compound.mk.injEq]
    refine ⟨rfl, ?_⟩
    rw [List.map_congr_left fun condition hmem => shortest_of_isCanonical (hconditions _ hmem),
      List.map_id']

theorem shortestComplex_of_isCanonical {selector : Css.Complex}
    (h : selector.IsCanonical isIdent) : shortestComplex selector = selector := by
  have htail : selector.tail.map (Prod.map id shortestCompound) = selector.tail.map id := by
    refine List.map_congr_left fun step hstep => ?_
    rw [Prod.map, shortestCompound_of_isCanonical (h.tail step.2 (List.mem_map_of_mem hstep))]
    rfl
  rw [shortestComplex, shortestCompound_of_isCanonical h.head, htail, List.map_id]

/-- Canonical compounds come back behind every combinator. -/
theorem isRestorable_of_isCanonical (combinator : Css.Combinator)
    (h : compound.IsCanonical isIdent) :
    IsRestorable combinator compound := by
  have hnamed : ∀ name, Css.isName name = true → Recogniser.IsNamed name := fun name hname =>
    ⟨(Css.isWritten_of_isName hname).ne_nil, fun c hc =>
      (Css.of_isPlainChar (Css.isPlainChar_of_isName hname c hc)).2.1⟩
  obtain rfl | ⟨helement, -, hconditions⟩ := h
  · exact ⟨fun _ => .inl rfl, nofun⟩
  · refine ⟨fun _ => ?_, fun condition hmem name hname => ?_⟩
    · obtain ⟨element, conditions⟩ := compound
      cases element with
      | none => exact .inl rfl
      | some name =>
          exact .inr (isIdent_of_isIdentifier (Css.isIdentifier_of_isName (helement name rfl)))
    · have hcanonical := hconditions condition hmem
      cases condition with
      | hasAttribute other =>
          obtain rfl := Option.some.inj hname
          exact hnamed other hcanonical
      | attributeIs other operator value =>
          obtain rfl := Option.some.inj hname
          exact hnamed other hcanonical.1
      | hasClass | hasId | firstChild | lastChild | onlyChild | empty | nthChild => cases hname

/-- **Canonical selectors come back from their paths.** -/
theorem selectorsOf_ofSelectors {selectors : List Css.Complex} (hne : selectors ≠ [])
    (h : ∀ selector ∈ selectors, selector.IsCanonical isIdent) :
    selectorsOf (ofSelectors defaultPrefix.toList selectors) = .ok (Css.groupText selectors) := by
  have hplain : ∀ selector ∈ selectors, selector.IsPlain := fun selector hmem =>
    (h selector hmem).isPlain
  have htexts : selectors.map Css.Complex.text =
      selectors.map (Css.Complex.text ∘ shortestComplex) :=
    List.map_congr_left fun selector hmem =>
      congrArg Css.Complex.text (shortestComplex_of_isCanonical (h selector hmem)).symm
  have hrestored : selectors.mapM restoredComplex = .ok (selectors.map Css.Complex.text) := by
    refine (mapM_restoredComplex hplain).mpr
      ⟨fun selector hmem => ⟨?_, fun step hstep => ?_⟩, htexts⟩
    · exact isRestorable_of_isCanonical .descendant (h selector hmem).head
    · exact isRestorable_of_isCanonical step.1
        ((h selector hmem).tail step.2 (List.mem_map_of_mem hstep))
  rw [selectorsOf_eq hne hplain, hrestored]
  rfl

end Extractor.XPath

namespace Extractor.Query

/-- **The way to XPath and back.** Selectors in canonical text come back character for character
from the query that they are converted to. -/
theorem xpathToCss_cssToXPath (selectors : List Css.Complex) (hne : selectors ≠ [])
    (h : ∀ selector ∈ selectors, selector.IsCanonical XPath.isIdent) :
    ∃ query, cssToXPath (String.ofList (Css.groupText selectors)) XPath.defaultPrefix = .ok query ∧
      xpathToCss query = .ok (String.ofList (Css.groupText selectors)) := by
  refine ⟨String.ofList (XPath.ofSelectors XPath.defaultPrefix.toList selectors), ?_, ?_⟩
  · rw [cssToXPath, String.toList_ofList, Text.trim_eq_self (Css.unpadded_groupText h),
      Css.readSelectors_text h hne]
  · rw [xpathToCss, String.toList_ofList, XPath.selectorsOf_ofSelectors hne h]

/-- Selectors with every combinator, and with separators and quotes inside their values. -/
def entangled : List Css.Complex :=
  [⟨⟨some "ul".toList, [.hasClass "-x_1".toList, .nthChild 18446744073709551615]⟩,
      [(.child, ⟨none, [.hasId "a".toList, .empty]⟩),
        (.adjacent, ⟨some "li".toList, [.attributeIs "class".toList .word "1] | //b[\"".toList]⟩),
        (.sibling, .star)]⟩,
    ⟨⟨none, [.attributeIs "id".toList .equals "it's, (2)".toList]⟩,
      [(.descendant, ⟨some "a".toList, [.attributeIs "href".toList .ends [],
        .attributeIs "id".toList .dash "x".toList, .onlyChild]⟩)]⟩,
    ⟨.star, []⟩]

/-- A group with quotes, brackets and separators in its values, and the largest place. -/
theorem xpathToCss_cssToXPath_entangled :
    (∀ selector ∈ entangled, selector.IsCanonical XPath.isIdent) ∧
      String.ofList (Css.groupText entangled) =
        "ul.-x_1:nth-child(18446744073709551615) > #a:empty + li[class~='1] | //b[\"'] ~ *, " ++
          "[id=\"it's, (2)\"] a[href$=\"\"][id|=\"x\"]:only-child, *" ∧
      ∃ query,
        cssToXPath (String.ofList (Css.groupText entangled)) XPath.defaultPrefix = .ok query ∧
          xpathToCss query = .ok (String.ofList (Css.groupText entangled)) := by
  have hcanonical : ∀ selector ∈ entangled, selector.IsCanonical XPath.isIdent := by decide
  exact ⟨hcanonical, by decide +kernel, xpathToCss_cssToXPath entangled nofun hcanonical⟩

/-- A value that is an identifier but for a letter outside ASCII. -/
def accented : List Css.Complex :=
  [⟨⟨none, [.attributeIs "id".toList .equals "aé".toList]⟩, []⟩]

/-- On the way back letters outside ASCII are taken into identifiers. With `Css.isIdentifier` in
place of `XPath.isIdent` a test of an attribute could come back as an identifier. -/
theorem xpathToCss_cssToXPath_accented :
    (∀ selector ∈ accented, selector.IsCanonical Css.isIdentifier) ∧
      String.ofList (Css.groupText accented) = "[id=\"aé\"]" ∧
      ∃ query, cssToXPath "[id=\"aé\"]" XPath.defaultPrefix = .ok query ∧
        xpathToCss query = .ok "#aé" := by
  refine ⟨by decide, by decide, "descendant-or-self::*[@id = 'aé']", ?_, ?_⟩
  · decide
  · decide

end Extractor.Query
