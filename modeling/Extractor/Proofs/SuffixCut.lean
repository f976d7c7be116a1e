import Extractor.Libraries.Standard
import Extractor.Proofs.LastStep
import Extractor.Proofs.Suffix
import Extractor.Proofs.TokenStops

/-!
# Extractor.Proofs.SuffixCut

What is left of an XPath query when its extraction suffix is cut off. The suffix is cut
off with one slash, whatever stands in front of it. If the slash goes on with a path,
the path without its last step is left, and that is a query. If the slash starts the
path, nothing is left of the path, and if it is the second of two that go on with a
path, the first of them is left with no step behind it: neither is a query. Only of two
slashes that start a path the first may be left, as the path of the root.

So what is left is a query exactly if the separator is a single slash that goes on with
a path or two slashes that start one (`SuffixedQuery.accepts_ofXPath`).
-/

namespace Extractor

namespace XPath

/-- Whether an operand is due at the end of the text, so that a path may start there. -/
def awaitsOperand (cs : List Char) : Bool :=
  match scan cs with
  | .ok ts => Due.operand.run? (ts.map Lexeme.token).dropLast = some .operand
  | .error _ => false

/-- An operand is awaited exactly if one is due behind the tokens. -/
theorem Scans.awaitsOperand_iff {cs : List Char} {us : List Token} (h : Scans cs us) :
    awaitsOperand cs = true ↔ Due.operand.run? us = some .operand := by
  obtain ⟨ts, hscan, htokens⟩ := h.scanFrom_eq cs.length (Nat.lt_succ_self _)
  simp only [awaitsOperand, scan, hscan, htokens, List.dropLast_concat, decide_eq_true_eq]

/-! ## the tokens of suffixes -/

/-- The text of a suffix behind its slash. -/
inductive IsSuffix : List Char → Prop
  | call {n : String} (h : n ∈ ["text", "raw"]) : IsSuffix (n.toList ++ ['(', ')'])
  | attr {name : List Char} (hne : name ≠ [])
      (hname : ∀ c ∈ name, SuffixedQuery.isAttributePart c = true) : IsSuffix ('@' :: name)

variable {name back : List Char} {us vs : List Token}

theorem stops_of_blank (hback : ∀ c ∈ back, Text.isBlank c = true) : Stops back where
  head c hc := by simp [isStop, hback c (List.mem_of_mem_head? hc)]
  quote c hc := by
    constructor <;> rintro rfl <;> exact absurd (hback _ hc) (by decide)

/-- The call of a suffix is cut into its name and parentheses. -/
theorem scans_call {n : String} (hn : Css.isName n.toList = true)
    (hback : ∀ c ∈ back, Text.isBlank c = true) :
    Scans (n.toList ++ ['(', ')'] ++ back) [.name n, .leftParen, .rightParen] := by
  have hscans : Scans back [] := by simpa using (Scans.blanks_iff hback).mpr Scans.nil
  have hparentheses : Lexes Anything ['(', ')'] [.leftParen, .rightParen] :=
    (Lexes.mark rfl (by decide)).append (Lexes.mark rfl (by decide)) fun _ _ => trivial
  have hcall := (Lexes.name hn).append hparentheses fun rest _ =>
    .inl (breaks_cons (by decide))
  simpa using hcall back [] trivial hscans

/-- Where the name of an attribute breaks off, a colon stands. -/
theorem head?_dropWhile_isNamePart (hname : ∀ c ∈ name, SuffixedQuery.isAttributePart c = true) :
    ∀ c ∈ (name.dropWhile isNamePart).head?, c = ':' := by
  intro c hc
  have hnot := List.head?_dropWhile_not isNamePart name
  rw [hc] at hnot
  have hmem := (List.dropWhile_suffix _).subset (List.mem_of_mem_head? hc)
  have hpart := hname c hmem
  simp only [SuffixedQuery.isAttributePart, isNamePart] at hpart hnot
  grind

theorem head?_readName (hname : ∀ c ∈ name, SuffixedQuery.isAttributePart c = true) :
    ∀ c ∈ (readName name).2.head?, c = ':' := by
  have hdrop := head?_dropWhile_isNamePart hname
  have hsubset := (List.dropWhile_suffix isNamePart (l := name)).subset
  rw [readName, List.span_eq_takeWhile_dropWhile]
  dsimp only
  split
  · next heq =>
      rw [heq] at hsubset
      exact absurd (hname '*' (hsubset (by simp))) (by decide)
  · next heq =>
      rw [heq] at hsubset
      split
      · rw [List.span_eq_takeWhile_dropWhile]
        exact head?_dropWhile_isNamePart fun c hc => hname c (hsubset (List.mem_cons_of_mem _ hc))
      · exact hdrop
  · exact hdrop

theorem isBlank_of_isAttributePart {c : Char} (h : SuffixedQuery.isAttributePart c = true) :
    Text.isBlank c = false := by
  by_contra hblank
  have hblank : Text.isBlank c = true := by simpa using hblank
  have hstop := isNamePart_of_isStop (c := c) (by simp [isStop, hblank])
  obtain rfl : c = ':' := by
    simp only [SuffixedQuery.isAttributePart, isNamePart] at h hstop
    grind
  exact absurd hblank (by decide)

/-- A colon starts the colons behind an axis, or no token. -/
theorem head?_of_colon {cs : List Char} (h : Scans (':' :: cs) us) :
    us.head? = some .doubleColon := by
  rcases Scans.cons_iff.mp h with ⟨hblank, -⟩ | ⟨-, t, rest, vs, hread, rfl, -⟩
  · exact absurd hblank (by decide)
  · cases readToken_shape hread with
    | @pair d _ hpair =>
        unfold double? at hpair
        split at hpair <;> simp_all
    | mark hmark _ => cases hmark
    | number hnumber => exact absurd hnumber (by decide)
    | literal hquote => exact absurd hquote (by decide)
    | name hstart _ => exact absurd hstart (by decide)

/-- The name of an attribute is one token, or its first token is no name or has colons behind it. -/
theorem scans_attribute (hne : name ≠ [])
    (hname : ∀ c ∈ name, SuffixedQuery.isAttributePart c = true)
    (hback : ∀ c ∈ back, Text.isBlank c = true) (h : Scans (name ++ back) us) :
    ∃ t ws, us = t :: ws ∧ t ≠ .star ∧
      ∀ n, t = .name n → ws = [] ∨ ws.head? = some .doubleColon := by
  obtain ⟨c, cs, rfl⟩ := List.exists_cons_of_ne_nil hne
  have hc := hname c List.mem_cons_self
  rw [List.cons_append] at h
  rcases Scans.cons_iff.mp h with ⟨hblank, -⟩ | ⟨-, t, rest, ws, hread, rfl, hws⟩
  · rw [isBlank_of_isAttributePart hc] at hblank
    contradiction
  · have hshape := readToken_shape hread
    refine ⟨t, ws, rfl, ?_, ?_⟩
    · rintro rfl
      cases hshape with
      | pair hpair => exact double?_ne_star hpair
      | mark hmark _ =>
          obtain rfl := eq_of_single?_star hmark
          exact absurd hc (by decide)
    · rintro n rfl
      cases hshape with
      | pair hpair => exact absurd hpair double?_ne_name
      | mark hmark _ => exact absurd hmark single?_ne_name
      | name _ hrest =>
          have hleft := (stops_of_blank hback).readName_append (c :: cs)
          rw [List.cons_append] at hleft
          rw [hrest, hleft] at hws
          have hcolon := head?_readName hname
          cases hmore : (readName (c :: cs)).2 with
          | nil =>
              rw [hmore] at hws
              exact .inl (hws.eq_nil_of_blank hback)
          | cons d ds =>
              rw [hmore] at hws hcolon
              obtain rfl := hcolon d rfl
              exact .inr (head?_of_colon hws)

/-- A sign in front is a token of its own. -/
theorem scans_atSign {cs : List Char} (h : Scans ('@' :: cs) us) :
    ∃ ws, us = .atSign :: ws ∧ Scans cs ws := by
  rcases Scans.cons_iff.mp h with ⟨hblank, -⟩ | ⟨-, t, rest, ws, hread, rfl, hws⟩
  · exact absurd hblank (by decide)
  · cases readToken_shape hread with
    | pair hpair =>
        rw [double?_eq_none (by decide)] at hpair
        cases hpair
    | mark hmark hrest =>
        cases hmark
        exact ⟨ws, rfl, hrest ▸ hws⟩
    | number hnumber => exact absurd hnumber (by decide)
    | literal hquote => exact absurd hquote (by decide)
    | name hstart _ => exact absurd hstart (by decide)

theorem scans_slash {cs : List Char} (hcs : cs.head? ≠ some '/') (h : Scans ('/' :: cs) us) :
    ∃ ws, us = .slash :: ws ∧ Scans cs ws := by
  have hpair : cs.head?.bind (double? '/') = none := by
    rcases cs with _ | ⟨d, cs⟩
    · rfl
    · have hd : d ≠ '/' := by simpa using hcs
      simp only [List.head?_cons, Option.bind_some]
      unfold double?
      split <;> simp_all
  rcases Scans.cons_iff.mp h with ⟨hblank, -⟩ | ⟨-, t, rest, ws, hread, rfl, hws⟩
  · exact absurd hblank (by decide)
  · rw [readToken, hpair] at hread
    cases hread
    exact ⟨ws, rfl, hws⟩

/-- What stands behind the last separator of an expression, if it ends with a suffix. -/
theorem IsSuffix.isEnd {last : List Char} {sep : Token} (hlast : IsSuffix last)
    (hback : ∀ c ∈ back, Text.isBlank c = true) (hscans : Scans (last ++ back) us)
    (h : Derives .expression (vs ++ sep :: us) []) : IsEnd us := by
  cases hlast with
  | @call n hn =>
      have hname : Css.isName n.toList = true := by
        simp only [List.mem_cons, List.not_mem_nil, or_false] at hn
        rcases hn with rfl | rfl <;> decide
      rw [hscans.unique (scans_call hname hback)]
      exact .call hn
  | @attr name hne hname =>
      obtain ⟨ws, rfl, hws⟩ := scans_atSign hscans
      obtain ⟨t, zs, rfl, hstar, hcolons⟩ := scans_attribute hne hname hback hws
      rw [List.append_cons] at h
      obtain ⟨t, zs, heq, htest, hnot⟩ := h.behind_atSign
      cases heq
      obtain ⟨n, rfl⟩ := htest.resolve_left hstar
      obtain rfl := (hcolons n rfl).resolve_right hnot
      exact .attr n

/-! ## queries without their suffix -/

/-- No suffix has a quote in it. -/
theorem IsSuffix.quote {last : List Char} (h : IsSuffix last) : ∀ c ∈ last, c ≠ '"' ∧ c ≠ '\'' := by
  cases h with
  | @call n hn =>
      simp only [List.mem_cons, List.not_mem_nil, or_false] at hn
      rcases hn with rfl | rfl <;> exact Text.forall_mem_of_all (by decide)
  | attr _ hname =>
      refine List.forall_mem_cons.mpr ⟨by decide, fun c hc => ?_⟩
      constructor <;> rintro rfl <;> exact absurd (hname _ hc) (by decide)

theorem IsSuffix.head?_ne {last : List Char} (h : IsSuffix last) (back : List Char) :
    (last ++ back).head? ≠ some '/' := by
  cases h with
  | @call n hn =>
      simp only [List.mem_cons, List.not_mem_nil, or_false] at hn
      rcases hn with rfl | rfl <;> simp
  | attr => simp

theorem IsSuffix.stops {gap last : List Char} (h : IsSuffix last)
    (hgap : ∀ c ∈ gap, Text.isBlank c = true) (hback : ∀ c ∈ back, Text.isBlank c = true) :
    Stops (gap ++ '/' :: (last ++ back)) where
  head c hc := by
    rcases gap with _ | ⟨d, gap⟩
    · cases hc
      rfl
    · cases hc
      simp [isStop, hgap]
  quote := by
    refine List.forall_mem_append.mpr ⟨(stops_of_blank hgap).quote, ?_⟩
    refine List.forall_mem_cons.mpr ⟨by decide, ?_⟩
    exact List.forall_mem_append.mpr ⟨h.quote, (stops_of_blank hback).quote⟩

/-- In front of a separator of an expression no slash stands. -/
theorem getLast?_ne_slash {cs : List Char} {sep : Token} (hcs : Scans cs vs)
    (h : Derives .expression (vs ++ sep :: us) []) (hsep : sep ∈ separators) :
    cs.getLast? ≠ some '/' := by
  intro hslash
  obtain ⟨front, rfl⟩ := List.getLast?_eq_some_iff.mp hslash
  obtain ⟨ws, sep', rfl, hsep'⟩ := hcs.exists_separator
  rw [List.append_assoc] at h
  exact h.not_adjacent hsep' hsep

/-- The slash before a suffix is a separator among the tokens. -/
theorem exists_separator {cut gap last back : List Char}
    (hgap : ∀ c ∈ gap, Text.isBlank c = true) (hback : ∀ c ∈ back, Text.isBlank c = true)
    (hlast : IsSuffix last) (hscans : Scans (cut ++ (gap ++ '/' :: (last ++ back))) us)
    (h : Derives .expression us []) :
    ∃ head sep vs xs, us = vs ++ sep :: xs ∧ IsEnd xs ∧ sep ∈ separators ∧ Scans head vs ∧
      Scans (head ++ ['/']) (vs ++ [.slash]) ∧
      (cut = head ∧ cut.getLast? ≠ some '/' ∨ cut = head ++ ['/']) := by
  have hslash : Scans ['/'] [.slash] := @Scans.token '/' [] [] .slash [] (by decide) rfl .nil
  rcases hscans.cut (hlast.stops hgap hback) with
    ⟨vs, ws, rfl, hvs, hws⟩ | ⟨front, rest, vs, xs, rfl, hrest, rfl, hvs, hxs⟩
  · obtain ⟨xs, rfl, hxs⟩ := scans_slash (hlast.head?_ne back) ((Scans.blanks_iff hgap).mp hws)
    have hend := getLast?_ne_slash hvs h (by decide)
    exact ⟨cut, .slash, vs, xs, rfl, hlast.isEnd hback hxs h, by decide, hvs,
      hvs.lexes hend _ _ stops_slash hslash, .inl ⟨rfl, hend⟩⟩
  · obtain ⟨rfl, rfl⟩ : gap = [] ∧ rest = last ++ back := by
      rcases gap with _ | ⟨d, gap⟩
      · exact ⟨rfl, (List.cons.inj hrest).2.symm⟩
      · obtain ⟨rfl, -⟩ := List.cons.inj hrest
        exact absurd (hgap _ List.mem_cons_self) (by decide)
    have hend := getLast?_ne_slash hvs h (by decide)
    exact ⟨front, .doubleSlash, vs, xs, rfl, hlast.isEnd hback hxs h, by decide, hvs,
      hvs.lexes hend _ _ stops_slash hslash, .inr rfl⟩

end XPath

namespace SuffixedQuery

open XPath

variable {query cut : String} {extraction : Extraction}

/-- An attribute step that is found is a suffix behind a slash. -/
theorem eq_append_of_attributeStep? {cs rest name : List Char}
    (h : attributeStep? cs = some (rest, name)) :
    cs = rest ++ '/' :: '@' :: name ∧ IsSuffix ('@' :: name) := by
  unfold attributeStep? at h
  split at h
  · next hsplit =>
      split at h
      · next hname =>
          cases h
          simp only [Bool.and_eq_true, Bool.not_eq_true', List.isEmpty_eq_false_iff,
            List.all_eq_true] at hname
          exact ⟨Text.eq_append_of_splitLast? hsplit, .attr hname.1 hname.2⟩
      · cases h
  · cases h

/-- What is cut off: a slash and a suffix, and the white space in front of them. -/
theorem exists_suffix (h : ofXPath query = ⟨cut, some extraction⟩) :
    ∃ rest last, Text.trim query.toList = rest ++ '/' :: last ∧ IsSuffix last ∧
      cut = String.ofList (Text.trimEnd rest) := by
  unfold ofXPath at h
  dsimp only at h
  split at h <;> cases h
  case h_1 rest htext =>
      have hlast : IsSuffix "text()".toList := @IsSuffix.call "text" (by decide)
      exact ⟨rest, _, Text.stripSuffix?_eq_some_iff.mp htext, hlast, rfl⟩
  case h_2 rest hraw _ =>
      have hlast : IsSuffix "raw()".toList := @IsSuffix.call "raw" (by decide)
      exact ⟨rest, _, Text.stripSuffix?_eq_some_iff.mp hraw, hlast, rfl⟩
  case h_3 rest name hstep _ _ =>
      obtain ⟨hcs, hlast⟩ := eq_append_of_attributeStep? hstep
      exact ⟨rest, _, hcs, hlast, rfl⟩

/-- Whether a slash stands at the end of the query. -/
def endsInSlash (query : String) : Bool := query.toList.getLast? = some '/'

/-- The query without a slash at its end. -/
def withoutSlash (query : String) : String :=
  if endsInSlash query then String.ofList query.toList.dropLast else query

/-- The query without the slash at its end if it has one, and with one if not. -/
def mended (query : String) : String :=
  if endsInSlash query then withoutSlash query else query ++ "/"

theorem withoutSlash_append (head : List Char) :
    withoutSlash (String.ofList (head ++ ['/'])) = String.ofList head := by
  simp [withoutSlash, endsInSlash]

theorem eq_withoutSlash_append (h : endsInSlash cut = true) : cut = withoutSlash cut ++ "/" := by
  obtain ⟨head, hcut⟩ := List.getLast?_eq_some_iff.mp (of_decide_eq_true h)
  obtain rfl : cut = String.ofList (head ++ ['/']) := by rw [← hcut, String.ofList_toList]
  rw [withoutSlash_append, String.ofList_append]

/-- Of the query without a slash at its end and the one with it, one is accepted: the second where
an operand is due, the first elsewhere. -/
theorem accepts_withoutSlash (hquery : accepts query = true)
    (hcut : ofXPath query = ⟨cut, some extraction⟩) :
    (accepts (withoutSlash cut) = true ↔ awaitsOperand (withoutSlash cut).toList = false) ∧
    (accepts (withoutSlash cut ++ "/") = true ↔
      awaitsOperand (withoutSlash cut).toList = true) := by
  obtain ⟨rest, last, htrim, hlast, rfl⟩ := exists_suffix hcut
  obtain ⟨front, back, hfront, hback, hwhole⟩ := Text.exists_padding query.toList
  obtain ⟨gap, hgap, hrest⟩ := Text.exists_trimEnd rest
  obtain ⟨us, hus⟩ := exists_scans hquery
  have hderives := hus.derives (by rwa [String.ofList_toList])
  have hparts : query.toList =
      front ++ (Text.trimEnd rest ++ (gap ++ '/' :: (last ++ back))) := by
    rw [hwhole, htrim]
    nth_rewrite 1 [hrest]
    simp
  rw [hparts, Scans.blanks_iff hfront] at hus
  obtain ⟨head, sep, vs, xs, rfl, hend, hsep, hhead, hslash, hhead'⟩ :=
    exists_separator hgap hback hlast hus hderives
  have hwithout : withoutSlash (String.ofList (Text.trimEnd rest)) = String.ofList head := by
    rcases hhead' with ⟨rfl, hlast'⟩ | hcut'
    · simp [withoutSlash, endsInSlash, hlast']
    · rw [hcut', withoutSlash_append]
  have hadded : String.ofList head ++ "/" = String.ofList (head ++ ['/']) := by
    rw [String.ofList_append]
  have hdue := hhead.awaitsOperand_iff
  obtain ⟨hleft, hslashed⟩ := hderives.cut hend hsep
  rw [hwithout, hadded, String.toList_ofList, hhead.accepts_iff, hslash.accepts_iff]
  refine ⟨?_, hslashed.trans hdue.symm⟩
  rw [hleft, ne_eq, ← hdue, Bool.not_eq_true]

end SuffixedQuery

/-! ## selections -/

namespace Draft

/-- Neither an extraction nor a suffix is refused as a selector. -/
theorem pushExtraction_ne_selector {d : Draft} {method : String} {one many : Operation}
    {type : ValueType} {dialect : Dialect} {query : String} {fault : SelectorFault}
    {hint : Option Dialect} :
    d.pushExtraction method one many type ≠ .error (.selector dialect query fault hint) := by
  intro h
  rw [pushExtraction, expect] at h
  split at h
  · rw [Outcome.ok_bind] at h
    split at h <;> cases h
  · cases h

theorem pushSuffix_ne_selector {d : Draft} {extraction : Option Extraction} {dialect : Dialect}
    {query : String} {fault : SelectorFault} {hint : Option Dialect} :
    d.pushSuffix extraction ≠ .error (.selector dialect query fault hint) := by
  rcases extraction with _ | _ | _ | names
  · simp [pushSuffix]
  · exact pushExtraction_ne_selector
  · exact pushExtraction_ne_selector
  · rw [pushSuffix, pushAttributes]
    split
    · simp
    · exact pushExtraction_ne_selector

/-- A selection is refused as no path exactly if what is left of its query is none. -/
theorem pushSelection_notXPath_iff [Libraries] {query cut : String} {extraction : Option Extraction}
    (hcut : SuffixedQuery.ofXPath query = ⟨cut, extraction⟩) (method : String)
    (operation : Dialect → String → Operation) (returns : ValueType) :
    (∃ e, document.pushSelection method .xpath query operation returns =
      .error (.selector .xpath cut (.notXPath e) none)) ↔ XPath.accepts cut = false := by
  have hexpect : document.expect method [.document] = .ok .document := rfl
  simp only [pushSelection, hexpect, SuffixedQuery.ofDialect, hcut, Outcome.ok_bind, Query.check,
    Query.checkXPath, XPath.accepts]
  cases XPath.checkSyntax cut with
  | error e => exact ⟨fun _ => rfl, fun _ => ⟨e, rfl⟩⟩
  | ok _ =>
      refine ⟨?_, fun h => by cases h⟩
      rintro ⟨e, he⟩
      dsimp only at he
      split at he
      · cases he
      · exact absurd he pushSuffix_ne_selector

/-- A selection on the document is refused as malformed exactly if the query is none without its
suffix. -/
theorem apply_notXPath_iff [Libraries] {query cut : String} {extraction : Option Extraction}
    (hcut : SuffixedQuery.ofXPath query = ⟨cut, extraction⟩) {select : String → Call}
    (hselect : select ∈ selections .xpath) :
    (∃ e, document.apply (select query) = .error (.selector .xpath cut (.notXPath e) none)) ↔
      XPath.accepts cut = false := by
  obtain rfl | rfl : select = .select .xpath ∨ select = .selectAll .xpath := by
    simpa [selections] using hselect
  · exact pushSelection_notXPath_iff hcut _ .select .document
  · exact pushSelection_notXPath_iff hcut _ .selectAll .listDocument

end Draft

namespace SuffixedQuery

open XPath

/-- **A query without its extraction suffix.** It is accepted exactly if it ends with a slash where
an operand is due in front of that, or with none where no operand is due: the separator in front of
the suffix was two slashes that start a path, or one that goes on with a path. Elsewhere it is one
slash away from a query, and selecting with the whole is refused. -/
theorem accepts_ofXPath [Libraries] (query cut : String) (extraction : Extraction)
    (hquery : accepts query = true) (hcut : ofXPath query = ⟨cut, some extraction⟩) :
    (accepts cut = true ↔
      (endsInSlash cut = true ↔ awaitsOperand (withoutSlash cut).toList = true)) ∧
    accepts (mended cut) = !accepts cut ∧
    ∀ select ∈ Draft.selections .xpath,
      (∃ e, Draft.document.apply (select query) =
        .error (.selector .xpath cut (.notXPath e) none)) ↔ accepts cut = false := by
  obtain ⟨hwithout, hwith⟩ := accepts_withoutSlash hquery hcut
  refine and_assoc.mp ⟨?_, fun select hselect => Draft.apply_notXPath_iff hcut hselect⟩
  cases hends : endsInSlash cut with
  | true =>
      rw [← eq_withoutSlash_append hends] at hwith
      have hmended : mended cut = withoutSlash cut := if_pos hends
      rw [hmended]
      grind
  | false =>
      have hplain : withoutSlash cut = cut := if_neg (by simp [hends])
      have hmended : mended cut = cut ++ "/" := if_neg (by simp [hends])
      rw [hplain] at hwithout hwith ⊢
      rw [hmended]
      grind

/-- Two slashes that start a path, behind a literal that looks like a suffix: the path of the root
is left. -/
theorem accepts_ofXPath_root :
    accepts "//a[.='/text()'] | //text()" = true ∧
    ofXPath "//a[.='/text()'] | //text()" = ⟨"//a[.='/text()'] | /", some .text⟩ ∧
    accepts "//a[.='/text()'] | /" = true ∧ accepts "//a[.='/text()'] | " = false := by
  have hquery : accepts "//a[.='/text()'] | //text()" = true := by decide +kernel
  have hcut : ofXPath "//a[.='/text()'] | //text()" = ⟨"//a[.='/text()'] | /", some .text⟩ := by
    decide +kernel
  obtain ⟨haccepts, hmended, -⟩ := accepts_ofXPath _ _ _ hquery hcut
  have hleft : accepts "//a[.='/text()'] | /" = true := haccepts.mpr (by decide +kernel)
  rw [hleft] at hmended
  exact ⟨hquery, hcut, hleft, hmended⟩

/-- Two slashes that go on with a path leave a slash without a step, and one that starts a path
leaves nothing. -/
theorem ofXPath_breaks :
    (accepts "//a//text()" = true ∧ ofXPath "//a//text()" = ⟨"//a/", some .text⟩ ∧
      accepts "//a/" = false) ∧
    (∃ e, Draft.document.apply (.select .xpath "//a//text()") =
      .error (.selector .xpath "//a/" (.notXPath e) none)) ∧
    (accepts "/@id" = true ∧ ofXPath "/@id" = ⟨"", some (.attributes ["id"])⟩ ∧
      accepts "" = false) := by
  have hdescent : accepts "//a//text()" = true ∧ ofXPath "//a//text()" = ⟨"//a/", some .text⟩ ∧
      accepts "//a/" = false := by decide +kernel
  refine ⟨hdescent, ?_, by decide +kernel⟩
  exact (Draft.apply_notXPath_iff hdescent.2.1 (by simp [Draft.selections])).mpr hdescent.2.2

end SuffixedQuery

end Extractor
