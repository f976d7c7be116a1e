import Extractor.Proofs.Characters
import Extractor.Proofs.PathMeaning
import Extractor.Proofs.PathReading

/-!
# Extractor.Proofs.ConditionMeaning

The expression of a condition says of a node what the condition says of it.
Three of the tests take an argument:

* `infix_padded` — a word between blanks stands in the normalised text between
  blanks exactly if it is one of the words;
* `drop_eq_iff_suffix` — the characters from the length of a part on are that
  part exactly if the text ends with it, also where the part is the longer one;
* `eval_conditionExpr` — all conditions together.
-/

namespace Extractor

/-! ## words -/

section Words

variable {separator : Char → Bool} {value word : List Char}

/-- No separator stands in a piece between separators. -/
theorem of_mem_splitOnP (h : word ∈ value.splitOnP separator) :
    ∀ c ∈ word, separator c = false := by
  induction value generalizing word with
  | nil => simp_all
  | cons c value ih =>
      rw [List.splitOnP_cons_eq_if_modifyHead] at h
      split at h
      · obtain rfl | hmem := List.mem_cons.mp h
        · simp
        · exact ih hmem
      · next hc =>
        have hne := List.splitOnP_ne_nil separator value
        obtain ⟨first, later, hsplit⟩ := List.exists_cons_of_ne_nil hne
        rw [hsplit] at h ih
        obtain rfl | hmem := List.mem_cons.mp h
        · have hfirst := ih List.mem_cons_self
          simpa [hc] using hfirst
        · exact ih (List.mem_cons_of_mem first hmem)

theorem of_mem_wordsBy (h : word ∈ wordsBy separator value) : ∀ c ∈ word, separator c = false :=
  of_mem_splitOnP (List.mem_of_mem_filter h)

/-- Separators that agree on a text cut it into the same words. -/
theorem wordsBy_congr {other : Char → Bool} (h : ∀ c ∈ value, separator c = other c) :
    wordsBy separator value = wordsBy other value := by
  have hsplit : value.splitOnP separator = value.splitOnP other := by
    induction value with
    | nil => rfl
    | cons c value ih =>
        rw [List.splitOnP_cons_eq_if_modifyHead, List.splitOnP_cons_eq_if_modifyHead,
          h c List.mem_cons_self, ih fun d hd => h d (List.mem_cons_of_mem c hd)]
  rw [wordsBy, hsplit, wordsBy]

end Words

/-! ## words between blanks -/

section Padded

variable {word rest : List Char} {ws : List (List Char)}

/-- Two words in front of a blank are compared as a whole. -/
theorem prefix_blank_iff {other : List Char} (hword : ' ' ∉ word) (hother : ' ' ∉ other) :
    word ++ [' '] <+: other ++ ' ' :: rest ↔ word = other := by
  induction word generalizing other with
  | nil =>
      cases other with
      | nil => simp
      | cons d other =>
          have hne : ' ' ≠ d := fun heq => hother (heq ▸ List.mem_cons_self)
          simp [List.cons_prefix_cons, hne]
  | cons c word ih =>
      obtain ⟨hc, hlater⟩ := not_or.mp (List.mem_cons.not.mp hword)
      cases other with
      | nil => simp [List.cons_prefix_cons, Ne.symm hc]
      | cons d other =>
          have hrest := ih hlater fun hmem => hother (List.mem_cons_of_mem d hmem)
          simp only [List.cons_append, List.cons_prefix_cons, hrest, List.cons.injEq]

/-- What starts with a blank is not found before the first one. -/
theorem infix_blank_iff {part other : List Char} (hother : ' ' ∉ other) :
    ' ' :: part <:+: other ++ rest ↔ ' ' :: part <:+: rest := by
  induction other with
  | nil => rfl
  | cons d other ih =>
      obtain ⟨hd, hlater⟩ := not_or.mp (List.mem_cons.not.mp hother)
      have hstart : ¬(' ' :: part <+: d :: (other ++ rest)) := fun hprefix =>
        hd (List.cons_prefix_cons.mp hprefix).1
      rw [List.cons_append, List.infix_cons_iff, ih hlater]
      exact or_iff_right hstart

/-- A word with a space on either side stands in a list of words exactly if it is one of them. -/
theorem infix_padded (hword : ' ' ∉ word) (hws : ∀ w ∈ ws, ' ' ∉ w) :
    ' ' :: (word ++ [' ']) <:+: ' ' :: ws.flatMap (· ++ [' ']) ↔ word ∈ ws := by
  induction ws with
  | nil =>
      have hlong : ¬(' ' :: (word ++ [' ']) <:+: [' ']) := fun hinfix => by
        simpa using hinfix.length_le
      simp [hlong]
  | cons w ws ih =>
      have hw := hws w List.mem_cons_self
      have hlater := ih fun other hmem => hws other (List.mem_cons_of_mem w hmem)
      have htext : (w :: ws).flatMap (· ++ [' ']) = w ++ ' ' :: ws.flatMap (· ++ [' ']) := by simp
      rw [htext, List.infix_cons_iff, List.cons_prefix_cons, prefix_blank_iff hword hw,
        infix_blank_iff hw, hlater, List.mem_cons]
      simp

/-- Words parted by spaces and a space behind them are words with a space behind each. -/
theorem intercalate_blank (w : List Char) (ws : List (List Char)) :
    [' '].intercalate (w :: ws) ++ [' '] = (w :: ws).flatMap (· ++ [' ']) := by
  induction ws generalizing w with
  | nil => simp
  | cons w' ws ih =>
      rw [List.intercalate_cons_cons, List.append_assoc, ih]
      simp

/-- The word is one of those that are left when white space is normalised. -/
theorem infix_normalized (value : List Char) (hne : word ≠ [])
    (hword : ∀ c ∈ word, XPath.Fragment.isSpace c = false) :
    ' ' :: (word ++ [' ']) <:+: [' '] ++ XPath.Fragment.normalized value ++ [' '] ↔
      word ∈ wordsBy XPath.Fragment.isSpace value := by
  have hblank : ∀ w : List Char, (∀ c ∈ w, XPath.Fragment.isSpace c = false) → ' ' ∉ w :=
    fun w hw hmem => absurd (hw ' ' hmem) (by decide)
  rw [XPath.Fragment.normalized, List.append_assoc, List.singleton_append]
  cases hws : wordsBy XPath.Fragment.isSpace value with
  | nil =>
      -- Between two blanks alone there is no place for a word.
      have hlong : ¬(' ' :: (word ++ [' ']) <:+: [' ', ' ']) := fun hinfix => by
        have hlength := hinfix.length_le
        simp at hlength
        exact hne hlength
      simpa using hlong
  | cons w ws =>
      rw [intercalate_blank]
      exact infix_padded (hblank word hword) fun other hmem =>
        hblank other (of_mem_wordsBy (hws ▸ hmem))

end Padded

/-! ## ends -/

/-- The start may lie in front of the text, which then is too short to be the part. -/
theorem drop_eq_iff_suffix (value : List Char) {part : List Char} (hne : part ≠ []) :
    value.drop ((value.length : Int) - (part.length - 1 : Nat) - 1).toNat = part ↔
      part <:+ value := by
  have hpositive := List.length_pos_iff.mpr hne
  have hstart : ((value.length : Int) - (part.length - 1 : Nat) - 1).toNat =
      value.length - part.length := by omega
  rw [hstart, List.suffix_iff_eq_drop, eq_comm]

/-! ## attributes -/

/-- Among distinct names the values of a name are what is looked up. -/
theorem filterMap_eq_lookup {entries : List (List Char × List Char)}
    (h : (entries.map Prod.fst).Nodup) (name : List Char) :
    (entries.filterMap fun (key, value) => if key = name then some value else none) =
      (entries.lookup name).toList := by
  induction entries with
  | nil => rfl
  | cons entry entries ih =>
      obtain ⟨key, value⟩ := entry
      rw [List.map_cons, List.nodup_cons] at h
      by_cases hkey : key = name
      · subst hkey
        have hlater : entries.lookup key = none := by
          rw [List.lookup_eq_none_iff]
          intro other hmem
          have hne : key ≠ other.1 := fun heq => h.1 (List.mem_map.mpr ⟨other, hmem, heq.symm⟩)
          simpa using hne
        have hrest := ih h.2
        rw [hlater] at hrest
        simp [hrest]
      · have hne : (name == key) = false := by simpa using Ne.symm hkey
        simp [List.lookup_cons, hkey, hne, ih h.2]

/-- No attribute of the document has a form feed in it, which is white space in one of the two
languages only. -/
def Document.NoFormFeed (d : Document) : Prop :=
  ∀ p ∈ d.descendantsOrSelf [], ∀ tag ∈ d.tag? p, ∀ entry ∈ tag.attributes, '\x0c' ∉ entry.2

instance (d : Document) : Decidable d.NoFormFeed :=
  inferInstanceAs (Decidable (∀ p ∈ d.descendantsOrSelf [], ∀ tag ∈ d.tag? p,
    ∀ entry ∈ tag.attributes, '\x0c' ∉ entry.2))

/-- No value of an attribute has a form feed, if the document has none. -/
theorem Document.NoFormFeed.not_mem {d : Document} (h : d.NoFormFeed) {p : Document.Place}
    {name value : List Char} (hvalue : d.attribute? p name = some value) : '\x0c' ∉ value := by
  rw [Document.attribute?, Option.bind_eq_some_iff] at hvalue
  obtain ⟨tag, htag, hlookup⟩ := hvalue
  have helement : d.isElement p = true := by simp [Document.isElement, htag]
  have hplace : p ∈ d.descendantsOrSelf [] :=
    (Document.mem_descendantsOrSelf (Document.isSome_node? helement)).mpr (List.nil_suffix ..)
  have hentry : (name, value) ∈ tag.attributes := by
    obtain ⟨before, after, hsplit, -⟩ := List.lookup_eq_some_iff.mp hlookup
    rw [hsplit]
    exact List.mem_append_right before List.mem_cons_self
  exact h p hplace tag htag (name, value) hentry

namespace XPath.Fragment

open Css (AttributeOperator Condition)
open Document (Place)

variable {d : Document} {p : Place} {k : Nat} {e : Expr} {name value part : List Char}

/-- The attribute of a name has at most one text. -/
theorem attributeTexts_eq (d : Document) (name : List Char) (p : Place) :
    attributeTexts d name p = (d.attribute? p name).toList := by
  cases htag : d.tag? p with
  | none => simp [attributeTexts, Document.attribute?, htag]
  | some tag =>
      have hentries := filterMap_eq_lookup tag.distinct name
      simp [attributeTexts, Document.attribute?, htag, Tag.attribute?, hentries]

/-- As a text, a missing attribute is empty. -/
theorem head?_attributeTexts (d : Document) (name : List Char) (p : Place) :
    (attributeTexts d name p).head?.getD [] = (d.attribute? p name).getD [] := by
  rw [attributeTexts_eq]
  cases d.attribute? p name <;> rfl

/-- A test behind a test for the attribute itself may take a missing attribute for an empty one. -/
theorem Tells.guarded {P : List Char → Prop}
    (he : Tells d p k e (P ((d.attribute? p name).getD []))) :
    Tells d p k (.and (.attribute name) e) (∃ value ∈ d.attribute? p name, P value) := by
  obtain ⟨b, hb, hP⟩ := he
  cases hvalue : d.attribute? p name with
  | none => exact ⟨false, by simp [eval, hb, attributeTexts_eq, hvalue, Value.isTrue], by simp⟩
  | some value =>
      rw [hvalue, Option.getD_some] at hP
      exact ⟨b, by simp [eval, hb, attributeTexts_eq, hvalue, Value.isTrue], by simpa using hP⟩

/-- What the comparisons of an attribute tell, one lemma for each form of test. -/
theorem tells_equal : Tells d p k (.equal (.attribute name) (.literal value))
    (d.attribute? p name = some value) := by
  refine ⟨(attributeTexts d name p).contains value, by simp [eval, Value.equal?], ?_⟩
  rw [attributeTexts_eq, List.contains_iff_mem, Option.mem_toList]

theorem tells_contains : Tells d p k (.contains (.attribute name) (.literal part))
    (part <:+: (d.attribute? p name).getD []) :=
  ⟨decide (part <:+: (d.attribute? p name).getD []),
    by simp [eval, Value.text?, head?_attributeTexts], decide_eq_true_iff⟩

theorem tells_startsWith : Tells d p k (.startsWith (.attribute name) (.literal part))
    (part <+: (d.attribute? p name).getD []) :=
  ⟨decide (part <+: (d.attribute? p name).getD []),
    by simp [eval, Value.text?, head?_attributeTexts], decide_eq_true_iff⟩

/-- The last characters of a value equal a text exactly if the value ends in it. -/
theorem tells_substring (hne : part ≠ []) : Tells d p k (.equal (.substring (.attribute name)
    (.minus (.lengthOf (.attribute name)) (.number (part.length - 1)))) (.literal part))
    (part <:+ (d.attribute? p name).getD []) := by
  let text := (d.attribute? p name).getD []
  have hsuffix := drop_eq_iff_suffix text hne
  refine ⟨text.drop ((text.length : Int) - (part.length - 1 : Nat) - 1).toNat == part, ?_, ?_⟩
  · simp only [eval, Value.text?, head?_attributeTexts, Value.number?, Value.equal?,
      Option.pure_def, Option.bind_eq_bind, Option.bind_some]
    rfl
  · rw [beq_iff_eq, hsuffix]

/-- White space is the same for queries and for selectors, form feeds aside. -/
theorem isSpace_eq {c : Char} (h : c ≠ '\x0c') : isSpace c = Css.isSpace c := by
  have hne : (c == '\x0c') = false := by simpa using h
  simp [isSpace, Css.isSpace, Css.isSpace.isNewline, hne, Bool.or_assoc]

/-- A word is found between spaces exactly if it is a word of the value. -/
theorem tells_word (hff : d.NoFormFeed) (hne : part ≠ [])
    (hpart : ∀ c ∈ part, Css.isSpace c = false) : Tells d p k (wordExpr name part)
      (∃ value ∈ d.attribute? p name, part ∈ wordsBy Css.isSpace value) := by
  let text := (d.attribute? p name).getD []
  have hwords : wordsBy isSpace text = wordsBy Css.isSpace text := by
    refine wordsBy_congr fun c hc => isSpace_eq ?_
    rintro rfl
    cases hvalue : d.attribute? p name with
    | none => simp [text, hvalue] at hc
    | some value => exact hff.not_mem hvalue (by simpa [text, hvalue] using hc)
  have hspace : ∀ c ∈ part, isSpace c = false := by
    intro c hc
    have hcss := hpart c hc
    rw [isSpace_eq]
    · exact hcss
    · rintro rfl
      contradiction
  have hinfix := infix_normalized text hne hspace
  have hinner : Tells d p k (.contains (.concat (.literal [' ']) (.normalizeSpace (.attribute name))
      (.literal [' '])) (.literal (' ' :: (part ++ [' '])))) (part ∈ wordsBy Css.isSpace text) := by
    refine ⟨decide (' ' :: (part ++ [' ']) <:+: [' '] ++ normalized text ++ [' ']), ?_, ?_⟩
    · simp only [eval, Value.text?, head?_attributeTexts, Option.pure_def, Option.bind_eq_bind,
        Option.bind_some]
      rfl
    · rw [decide_eq_true_iff, hinfix, hwords]
  exact hinner.guarded

/-- **The test of an attribute tells whether its operator accepts the value.** -/
theorem tells_attributeExpr (operator : AttributeOperator) (hff : d.NoFormFeed)
    (hproper : (Condition.attributeIs name operator part).IsProper) :
    Tells d p k (attributeExpr name operator part)
      (∃ value ∈ d.attribute? p name, operator.Accepts value part) := by
  obtain ⟨hne, hword⟩ := hproper
  cases operator with
  | equals => exact tells_equal.congr (by simp [AttributeOperator.Accepts])
  | word => exact tells_word hff hne (hword rfl)
  | dash =>
      -- The empty text of a missing attribute is not the part, which has characters.
      have hequal : d.attribute? p name = some part ↔ (d.attribute? p name).getD [] = part := by
        cases d.attribute? p name with
        | none => simp [Ne.symm hne]
        | some value => simp
      have hinner := (tells_equal.congr hequal).or
        (@tells_startsWith d p k name (part ++ ['-']))
      exact Tells.guarded (P := fun value => value = part ∨ part ++ ['-'] <+: value) hinner
  | starts =>
      have hinner := (@tells_startsWith d p k name part).congr (and_iff_right hne).symm
      exact Tells.guarded (P := fun value => part ≠ [] ∧ part <+: value) hinner
  | ends =>
      have hinner := (@tells_substring d p k name part hne).congr (and_iff_right hne).symm
      exact Tells.guarded (P := fun value => part ≠ [] ∧ part <:+ value) hinner
  | contains =>
      have hinner := (@tells_contains d p k name part).congr (and_iff_right hne).symm
      exact Tells.guarded (P := fun value => part ≠ [] ∧ part <:+: value) hinner

/-! ## places and contents -/

/-- The count of the siblings tells the place of an element. -/
theorem tells_countExpr (axis : Axis) (n : Nat) :
    Tells d p k (countExpr axis n) ((axis.places d p).countP d.isElement = n) := by
  have hlength : (found d axis .any p).length = (axis.places d p).countP d.isElement := by
    unfold found
    split <;> simp [candidates, NodeTest.accepts, List.countP_eq_length_filter]
  refine ⟨((axis.places d p).countP d.isElement : Int) == (n : Int), ?_, ?_⟩
  · simp [countExpr, eval, Value.count?, Value.equal?, hlength]
  · rw [beq_iff_eq, Int.ofNat_inj]

theorem isElement_cons {n : Document.Node} {i : Nat} (h : (d.nodesAt p)[i]? = some n) :
    d.isElement (i :: p) = n.isElement := by
  have hnode : d.node? (i :: p) = some n := h
  simp [Document.isElement, Document.tag?, hnode, Document.Node.isElement]

/-- An element without element children, and one without text, are told by the negated tests. -/
theorem tells_noElement : Tells d p k (.not (.elements .child .any))
    (∀ n ∈ d.nodesAt p, n.isElement = false) := by
  refine ⟨((d.children p).filter d.isElement).isEmpty, ?_, ?_⟩
  · simp [eval, Value.isTrue, found, candidates, Axis.places, NodeTest.accepts, List.isEmpty_map]
  · rw [List.isEmpty_iff, List.filter_eq_nil_iff]
    constructor
    · intro h n hn
      obtain ⟨i, hi⟩ := List.mem_iff_getElem?.mp hn
      have hlt := (List.getElem?_eq_some_iff.mp hi).1
      have hplace : i :: p ∈ d.children p := List.mem_map.mpr ⟨i, List.mem_range.mpr hlt, rfl⟩
      rw [← isElement_cons hi]
      simpa using h _ hplace
    · intro h q hq
      obtain ⟨i, hi, rfl⟩ := List.mem_map.mp hq
      have hget := List.getElem?_eq_getElem (List.mem_range.mp hi)
      rw [isElement_cons hget, h _ (List.getElem_mem _)]
      decide

theorem tells_noText : Tells d p k (.not .length)
    (Document.Node.contents (d.nodesAt p) = []) := by
  refine ⟨(Document.Node.contents (d.nodesAt p)).isEmpty, ?_, List.isEmpty_iff⟩
  cases hcontents : Document.Node.contents (d.nodesAt p) with
  | nil => simp [eval, textOf, hcontents, Value.isTrue]
  | cons c cs =>
      have hlength : ((cs.length : Int) + 1 != 0) = true := by
        rw [bne_iff_ne]
        omega
      simp [eval, textOf, hcontents, Value.isTrue, hlength]

/-- Both tests together tell that an element is empty. -/
theorem tells_empty : Tells d p k (conditionExpr .empty) (Condition.empty.Holds d p) := by
  refine (tells_noElement.and tells_noText).congr ⟨fun ⟨helement, htext⟩ => ?_, fun h => ?_⟩
  · exact (Document.Node.contents_eq_nil_iff helement).mp htext
  · have helement : ∀ n ∈ d.nodesAt p, n.isElement = false := fun n hn => h n hn ▸ rfl
    exact ⟨helement, (Document.Node.contents_eq_nil_iff helement).mpr h⟩

theorem isSpace_of_isPlainChar {c : Char} (h : Css.isPlainChar c = true) :
    Css.isSpace c = false := by
  obtain ⟨n, hn, rfl⟩ := Css.exists_ofNat_of_isPlainChar h
  revert n
  decide

/-- **The expression of a condition says what the condition says.** -/
theorem eval_conditionExpr {condition : Condition} (hff : d.NoFormFeed)
    (hgrammar : condition.InGrammar) (hproper : condition.IsProper) :
    ∃ v, eval d p k (conditionExpr condition) = some v ∧
      (v.keeps k = true ↔ condition.Holds d p) := by
  have htruth : ∀ {e P}, Tells d p k e P → ∃ v, eval d p k e = some v ∧ (v.keeps k = true ↔ P) :=
    fun ⟨b, hb, hP⟩ => ⟨.truth b, hb, hP⟩
  cases condition with
  | hasClass name =>
      exact htruth (tells_word hff (Css.isWritten_of_isIdentifier hgrammar).ne_nil fun c hc =>
        isSpace_of_isPlainChar (Css.isPlainChar_of_isIdentifier hgrammar c hc))
  | hasId name => exact htruth tells_equal
  | hasAttribute name =>
      refine ⟨.nodes (attributeTexts d name p), rfl, ?_⟩
      rw [attributeTexts_eq]
      cases hvalue : d.attribute? p name <;>
        simp [Value.keeps, Value.isTrue, Condition.Holds, hvalue]
  | attributeIs name operator part => exact htruth (tells_attributeExpr operator hff hproper)
  | firstChild => exact htruth (tells_countExpr .precedingSibling 0)
  | lastChild => exact htruth (tells_countExpr .followingSibling 0)
  | onlyChild =>
      exact htruth ((tells_countExpr .precedingSibling 0).and (tells_countExpr .followingSibling 0))
  | empty => exact htruth tells_empty
  | nthChild n =>
      have hpositive : 1 ≤ n := hgrammar.1
      have hplace : (d.preceding p).countP d.isElement = n - 1 ↔
          (d.preceding p).countP d.isElement + 1 = n := by omega
      exact htruth ((tells_countExpr .precedingSibling (n - 1)).congr hplace)

end XPath.Fragment

end Extractor
