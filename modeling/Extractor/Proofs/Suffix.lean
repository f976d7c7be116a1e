import Extractor.Draft.Basic
import Extractor.Libraries.Standard
import Extractor.Proofs.Cutting
import Extractor.Proofs.Outcome
import Mathlib.Data.List.Forall2

/-!
# Extractor.Proofs.Suffix

Extraction suffixes are shorthands. A selection with a query that ends with a
suffix does what the selection with the query alone does, followed by the call
that the suffix stands for: `a::text` is `a` and then the text, `a::attr(x, y)`
is `a` and then the attributes `x` and `y`, `//a/@x` is `//a` and then the
attribute `x`. The two agree on the draft they give and on the error.

`SuffixedQuery.ofCss_append_text` and its neighbours say what is cut off a text
with a suffix behind it, `Draft.pushSelection_suffixed` that a draft takes the
suffix last, and `Draft.apply_suffixed` puts them together.
-/

namespace Extractor

open Text

namespace SuffixedQuery

variable {query : String}

/-! ## queries without a suffix -/

/-- A query without a suffix is only trimmed. -/
theorem ofCss_eq_plain {split : SuffixedQuery} (h : ofCss query = .ok split)
    (hnone : split.extraction = none) : split = ⟨trimmed query, none⟩ := by
  unfold ofCss at h
  dsimp only at h
  split at h <;> cases h
  case h_5 => rfl
  all_goals cases hnone

theorem ofXPath_eq_plain (h : (ofXPath query).extraction = none) :
    ofXPath query = ⟨trimmed query, none⟩ := by
  unfold ofXPath at h ⊢
  dsimp only at h ⊢
  split at h
  case h_4 => rfl
  all_goals cases h

/-! ## texts and markup -/

/-- A query with a suffix behind it is only trimmed at its start. -/
theorem trim_suffixed (query suffix : String) (hhead : Unblank suffix.toList)
    (hend : Ended suffix.toList) :
    trim (query ++ suffix).toList = trimStart query.toList ++ suffix.toList := by
  rw [String.toList_append, trim_append_ended hhead hend]

/-- The suffixes for texts and for markup are cut off, in either language. -/
theorem ofCss_append_text (query : String) :
    ofCss (query ++ "::text") = .ok ⟨trimmed query, some .text⟩ := by
  have htrim := trim_suffixed query "::text" (unblank_cons (by decide))
    ⟨"::tex".toList, 't', rfl, by decide⟩
  have htext := stripSuffix?_eq_some_iff.mpr (Eq.refl (trimStart query.toList ++ "::text".toList))
  rw [ofCss, htrim, htext]
  rfl

theorem ofCss_append_raw (query : String) :
    ofCss (query ++ "::raw") = .ok ⟨trimmed query, some .raw⟩ := by
  have htrim := trim_suffixed query "::raw" (unblank_cons (by decide))
    ⟨"::ra".toList, 'w', rfl, by decide⟩
  have htext : stripSuffix? "::text".toList (trimStart query.toList ++ "::raw".toList) = none :=
    stripSuffix?_append_eq_none fun _ => rfl
  have hraw := stripSuffix?_eq_some_iff.mpr (Eq.refl (trimStart query.toList ++ "::raw".toList))
  rw [ofCss, htrim, htext, hraw]
  rfl

theorem ofXPath_append_text (query : String) :
    ofXPath (query ++ "/text()") = ⟨trimmed query, some .text⟩ := by
  have htrim := trim_suffixed query "/text()" (unblank_cons (by decide))
    ⟨"/text(".toList, ')', rfl, by decide⟩
  have htext := stripSuffix?_eq_some_iff.mpr (Eq.refl (trimStart query.toList ++ "/text()".toList))
  rw [ofXPath, htrim, htext]
  rfl

theorem ofXPath_append_raw (query : String) :
    ofXPath (query ++ "/raw()") = ⟨trimmed query, some .raw⟩ := by
  have htrim := trim_suffixed query "/raw()" (unblank_cons (by decide))
    ⟨"/raw(".toList, ')', rfl, by decide⟩
  have htext : stripSuffix? "/text()".toList (trimStart query.toList ++ "/raw()".toList) = none :=
    stripSuffix?_append_eq_none fun _ => rfl
  have hraw := stripSuffix?_eq_some_iff.mpr (Eq.refl (trimStart query.toList ++ "/raw()".toList))
  rw [ofXPath, htrim, htext, hraw]
  rfl

/-! ## attributes of CSS -/

/-- The text is the key with white space around it. -/
def Padded (key text : String) : Prop :=
  ∃ front back : String, isBlankString front = true ∧ isBlankString back = true ∧
    text = front ++ key ++ back

/-- The key can be named by a suffix. -/
def Nameable (key : String) : Prop :=
  isBlankString key = false ∧ ',' ∉ key.toList ∧ ¬ "::attr(".toList <:+: key.toList

instance : DecidablePred Nameable := fun _ => inferInstanceAs (Decidable (_ ∧ _ ∧ _))

/-- A padded key is the key between white space. -/
theorem Padded.toList {key text : String} (h : Padded key text) : ∃ front back : List Char,
    (∀ c ∈ front, isBlank c = true) ∧ (∀ c ∈ back, isBlank c = true) ∧
      text.toList = front ++ (key.toList ++ back) := by
  obtain ⟨front, back, hfront, hback, rfl⟩ := h
  exact ⟨front.toList, back.toList, List.all_eq_true.mp hfront, List.all_eq_true.mp hback,
    by simp only [String.toList_append, List.append_assoc]⟩

theorem Padded.trim_eq {key text : String} (h : Padded key text) :
    trim text.toList = trim key.toList := by
  obtain ⟨front, back, hfront, hback, htext⟩ := h.toList
  rw [htext, trim_padded hfront hback]

theorem Padded.not_mem {key text : String} (h : Padded key text) (hkey : Nameable key) :
    ',' ∉ text.toList := by
  obtain ⟨front, back, hfront, hback, htext⟩ := h.toList
  have hcomma : isBlank ',' = false := by decide
  rw [htext, List.mem_append, List.mem_append]
  rintro (hmem | hmem | hmem)
  · exact absurd (hfront _ hmem) (by rw [hcomma]; decide)
  · exact hkey.2.1 hmem
  · exact absurd (hback _ hmem) (by rw [hcomma]; decide)

/-- No suffix stands in a padded name. -/
theorem Padded.not_occurs {key text : String} (h : Padded key text) (hkey : Nameable key) :
    ¬ "::attr(".toList <:+: text.toList := by
  obtain ⟨front, back, hfront, hback, htext⟩ := h.toList
  rw [htext]
  have hblank : ∀ c ∈ "::attr(".toList, isBlank c = false := forall_mem_of_all (by decide)
  exact fun hoccurs => hkey.2.2 (infix_of_padded (by decide) hblank hfront hback hoccurs)

theorem Nameable.trim_ne_nil {key : String} (h : Nameable key) : trim key.toList ≠ [] := by
  obtain ⟨c, hc, hblank⟩ := List.all_eq_false.mp h.1
  exact Text.trim_ne_nil ⟨c, hc, by simpa using hblank⟩

section Keys

variable {keys texts : List String}

theorem exists_padded (h : List.Forall₂ Padded keys texts) :
    ∀ text ∈ texts, ∃ key ∈ keys, Padded key text := by
  induction h with
  | nil => simp
  | cons hpadded _ ih =>
      rintro text hmem
      obtain rfl | hmem := List.mem_cons.mp hmem
      · exact ⟨_, List.mem_cons_self, hpadded⟩
      · obtain ⟨key, hkey, hpadded⟩ := ih text hmem
        exact ⟨key, List.mem_cons_of_mem _ hkey, hpadded⟩

theorem map_trim_of_padded (h : List.Forall₂ Padded keys texts) :
    (texts.map String.toList).map trim = (keys.map String.toList).map trim := by
  induction h with
  | nil => rfl
  | cons hpadded _ ih => rw [List.map_cons, List.map_cons, List.map_cons, List.map_cons, ih,
      hpadded.trim_eq]

/-- The names between the parentheses are the keys, without white space around them. -/
theorem attributeNames_intercalate (hne : keys ≠ []) (hkeys : ∀ key ∈ keys, Nameable key)
    (h : List.Forall₂ Padded keys texts) :
    attributeNames ([','].intercalate (texts.map String.toList)) = keys.map trimmed := by
  have hcommas : ∀ text ∈ texts.map String.toList, ',' ∉ text := by
    rintro _ hmem
    obtain ⟨text, htext, rfl⟩ := List.mem_map.mp hmem
    obtain ⟨key, hkey, hpadded⟩ := exists_padded h text htext
    exact hpadded.not_mem (hkeys key hkey)
  have htexts : texts.map String.toList ≠ [] := by
    rw [ne_eq, List.map_eq_nil_iff, ← List.length_eq_zero_iff, ← h.length_eq,
      List.length_eq_zero_iff]
    exact hne
  have hfilter : ((keys.map String.toList).map trim).filter (!·.isEmpty) =
      (keys.map String.toList).map trim := by
    rw [List.filter_eq_self]
    simp only [List.mem_map, forall_exists_index, and_imp, forall_apply_eq_imp_iff₂,
      Bool.not_eq_true', List.isEmpty_eq_false_iff]
    exact fun key hkey => (hkeys key hkey).trim_ne_nil
  rw [attributeNames, splitOn_eq, List.splitOn_intercalate ',' hcommas htexts,
    map_trim_of_padded h, hfilter, List.map_map, List.map_map]
  rfl

/-- The start of the attribute suffix does not stand behind the place where it starts. -/
theorem not_infix_attribute (hkeys : ∀ key ∈ keys, Nameable key)
    (h : List.Forall₂ Padded keys texts) :
    ¬ "::attr(".toList <:+:
      ("::attr(".toList ++ ([','].intercalate (texts.map String.toList) ++ [')'])).tail := by
  intro htail
  have hbody : "::attr(".toList <:+: [','].intercalate (texts.map String.toList) ++ ')' :: [] := by
    simpa [List.infix_cons_iff] using htail
  obtain hoccurs | hnil := infix_of_not_mem (by decide) hbody
  · obtain ⟨_, hmem, hoccurs⟩ := infix_of_intercalate (by decide) (by decide) hoccurs
    obtain ⟨text, htext, rfl⟩ := List.mem_map.mp hmem
    obtain ⟨key, hkey, hpadded⟩ := exists_padded h text htext
    exact hpadded.not_occurs (hkeys key hkey) hoccurs
  · simp at hnil

/-- A list of attributes behind a selector is cut into its names. -/
theorem ofCss_append_attributes (query : String) (hne : keys ≠ [])
    (hkeys : ∀ key ∈ keys, Nameable key) (h : List.Forall₂ Padded keys texts) :
    ofCss (query ++ ("::attr(" ++ ",".intercalate texts ++ ")")) =
      .ok ⟨trimmed query, some (.attributes (keys.map trimmed))⟩ := by
  have hnames := attributeNames_intercalate hne hkeys h
  have hoccurs := not_infix_attribute hkeys h
  have hending : ("::attr(" ++ ",".intercalate texts ++ ")").toList =
      "::attr(".toList ++ ([','].intercalate (texts.map String.toList) ++ [')']) := by
    rw [String.toList_append, String.toList_append, String.toList_intercalate, List.append_assoc]
    rfl
  generalize [','].intercalate (texts.map String.toList) = body at hnames hoccurs hending
  have htrim := trim_suffixed query ("::attr(" ++ ",".intercalate texts ++ ")")
    (hending ▸ unblank_cons (by decide))
    ⟨"::attr(".toList ++ body, ')', by rw [hending, List.append_assoc], by decide⟩
  have hlast : trimStart query.toList ++ ("::attr(".toList ++ (body ++ [')'])) =
      (trimStart query.toList ++ ("::attr(".toList ++ body)) ++ [')'] := by
    simp only [List.append_assoc]
  have htext : ∀ piece ∈ ["::text".toList, "::raw".toList],
      stripSuffix? piece (trimStart query.toList ++ ("::attr(".toList ++ (body ++ [')']))) =
        none := by
    rw [hlast]
    simp only [List.forall_mem_cons, List.not_mem_nil, false_implies, implies_true, and_true]
    exact ⟨stripSuffix?_append_eq_none fun _ => rfl, stripSuffix?_append_eq_none fun _ => rfl⟩
  have hattr : attributeSuffix? (trimStart query.toList ++ ("::attr(".toList ++ (body ++ [')']))) =
      some (trimStart query.toList, keys.map trimmed) := by
    rw [attributeSuffix?, if_pos (by rw [hlast, List.getLast?_concat]),
      splitLast?_append (by decide) hoccurs, Option.map_some]
    dsimp only
    rw [List.dropLast_concat, hnames]
  obtain ⟨key, rest, rfl⟩ := List.exists_cons_of_ne_nil hne
  rw [ofCss, htrim, hending, htext _ (by simp), htext _ (by simp), hattr]
  rfl

end Keys

/-! ## attributes of XPath -/

/-- The name can stand in an attribute step at the end of a path. -/
def StepName (name : String) : Prop :=
  name ≠ "" ∧ ∀ c ∈ name.toList, isAlphanumeric c = true ∨ c = '_' ∨ c = ':' ∨ c = '-'

section StepName

variable {name : String}

/-- The name of a step consists of what may stand in an attribute, and of no white space. -/
theorem StepName.isAttributePart (h : StepName name) :
    ∀ c ∈ name.toList, isAttributePart c = true := fun c hc => by
  simpa [SuffixedQuery.isAttributePart, or_assoc] using h.2 c hc

theorem StepName.toList_ne_nil (h : StepName name) : name.toList ≠ [] :=
  fun hnil => h.1 (String.toList_inj.mp hnil)

theorem StepName.isBlank (h : StepName name) : ∀ c ∈ name.toList, isBlank c = false := by
  intro c hc
  obtain halphanumeric | rfl | rfl | rfl := h.2 c hc
  · rw [Bool.eq_false_iff]
    intro hblank
    rw [isAlphanumeric_of_isBlank hblank] at halphanumeric
    contradiction
  all_goals decide

/-- A name does not end with a parenthesis, as the other suffixes do. -/
theorem StepName.stripSuffix?_eq_none (h : StepName name) (front : List Char) {piece : List Char}
    (hpiece : piece.getLast? = some ')') : stripSuffix? piece (front ++ name.toList) = none := by
  have hne : piece ≠ [] := fun hnil => by simp [hnil] at hpiece
  rw [Option.eq_none_iff_forall_ne_some]
  intro rest hrest
  have hlast := congrArg List.getLast? (stripSuffix?_eq_some_iff.mp hrest)
  rw [List.getLast?_append_of_ne_nil _ h.toList_ne_nil, List.getLast?_append_of_ne_nil _ hne,
    hpiece] at hlast
  exact absurd (h.isAttributePart ')' (List.mem_of_getLast? hlast)) (by decide)

theorem StepName.attributeStep?_append (h : StepName name) (front : List Char) :
    attributeStep? (front ++ (['/', '@'] ++ name.toList)) = some (front, name.toList) := by
  have hslash : ¬ ['/', '@'] <:+: (['/', '@'] ++ name.toList).tail := fun hoccurs => by
    have hmem : '/' ∈ '@' :: name.toList := hoccurs.subset List.mem_cons_self
    exact absurd (h.isAttributePart _ (List.mem_of_ne_of_mem (by decide) hmem)) (by decide)
  have hall : (!name.toList.isEmpty && name.toList.all SuffixedQuery.isAttributePart) = true := by
    rw [Bool.and_eq_true, List.all_eq_true]
    exact ⟨by simpa using h.1, h.isAttributePart⟩
  rw [attributeStep?, splitLast?_append (by decide) hslash]
  exact if_pos hall

/-- An attribute behind a path is cut off. -/
theorem ofXPath_append_attribute (query : String) (h : StepName name) :
    ofXPath (query ++ ("/@" ++ name)) = ⟨trimmed query, some (.attributes [name])⟩ := by
  have hending : ("/@" ++ name).toList = ['/', '@'] ++ name.toList := String.toList_append
  have htrim := trim_suffixed query ("/@" ++ name) (hending ▸ unblank_cons (by decide))
    (hending ▸ (ended_of_forall h.toList_ne_nil h.isBlank).append _)
  have hstrip : ∀ piece : List Char, piece.getLast? = some ')' →
      stripSuffix? piece (trimStart query.toList ++ (['/', '@'] ++ name.toList)) = none :=
    fun piece hpiece => by rw [← List.append_assoc, h.stripSuffix?_eq_none _ hpiece]
  rw [ofXPath, htrim, hending, hstrip _ rfl, hstrip _ rfl, h.attributeStep?_append]
  simp only [before, String.ofList_toList]
  rfl

end StepName

end SuffixedQuery

/-! ## drafts -/

namespace Draft

/-- The calls that select with a query of the dialect. -/
def selections (dialect : Dialect) : List (String → Call) := [.select dialect, .selectAll dialect]

/-- A selection with a suffix is the selection followed by the extraction. -/
theorem pushSelection_suffixed [Libraries] {dialect : Dialect} {query suffixed rest : String}
    {extraction : Extraction} (hquery : SuffixedQuery.ofDialect dialect query = .ok ⟨rest, none⟩)
    (hsuffixed : SuffixedQuery.ofDialect dialect suffixed = .ok ⟨rest, some extraction⟩)
    (d : Draft) (method : String) (operation : Dialect → String → Operation)
    (returns : ValueType) :
    d.pushSelection method dialect suffixed operation returns =
      d.pushSelection method dialect query operation returns >>=
        (·.pushSuffix (some extraction)) := by
  unfold pushSelection
  rw [hquery, hsuffixed]
  cases d.expect method [.document] with
  | error e => rfl
  | ok _ =>
      cases hcheck : Query.check dialect rest with
      | error e => simp only [Outcome.ok_bind, hcheck]; rfl
      | ok _ => simp only [Outcome.ok_bind, hcheck]; rfl

theorem apply_selection_suffixed [Libraries] {dialect : Dialect} {query suffixed rest : String}
    {extraction : Extraction} (hquery : SuffixedQuery.ofDialect dialect query = .ok ⟨rest, none⟩)
    (hsuffixed : SuffixedQuery.ofDialect dialect suffixed = .ok ⟨rest, some extraction⟩)
    (d : Draft) : ∀ call ∈ selections dialect,
      d.apply (call suffixed) = d.apply (call query) >>= (·.pushSuffix (some extraction)) := by
  rintro call hcall
  obtain rfl | rfl : call = .select dialect ∨ call = .selectAll dialect := by
    simpa [selections] using hcall
  · exact pushSelection_suffixed hquery hsuffixed d dialect.method .select .document
  · exact pushSelection_suffixed hquery hsuffixed d (dialect.method ++ "_all") .selectAll
      .listDocument

/-- Keys are trimmed when they are added, so that they can be trimmed before. -/
theorem pushAttributes_map_trimmed (d : Draft) (keys : List String) :
    d.pushAttributes (keys.map trimmed) = d.pushAttributes keys := by
  have htrimmed : trimmed ∘ trimmed = trimmed := by
    funext key
    rw [Function.comp_apply, trimmed, trimmed, String.toList_ofList, trim_trim]
  rw [pushAttributes, List.map_map, htrimmed, pushAttributes]

/-- **Suffixes are shorthands**: behind a query without one, a suffix does what the call does that
it stands for. -/
theorem apply_suffixed [Libraries] (d : Draft) (query : String) :
    (∀ split, SuffixedQuery.ofCss query = .ok split → split.extraction = none →
      ∀ select ∈ selections .css,
        d.apply (select (query ++ "::text")) = d.apply (select query) >>= (·.apply .text) ∧
        d.apply (select (query ++ "::raw")) = d.apply (select query) >>= (·.apply .raw) ∧
        ∀ keys texts, keys ≠ [] → (∀ key ∈ keys, SuffixedQuery.Nameable key) →
          List.Forall₂ SuffixedQuery.Padded keys texts →
          d.apply (select (query ++ ("::attr(" ++ ",".intercalate texts ++ ")"))) =
            d.apply (select query) >>= (·.apply (.attr keys))) ∧
    ((SuffixedQuery.ofXPath query).extraction = none →
      ∀ select ∈ selections .xpath,
        d.apply (select (query ++ "/text()")) = d.apply (select query) >>= (·.apply .text) ∧
        d.apply (select (query ++ "/raw()")) = d.apply (select query) >>= (·.apply .raw) ∧
        ∀ name, SuffixedQuery.StepName name →
          d.apply (select (query ++ ("/@" ++ name))) =
            d.apply (select query) >>= (·.apply (.attr [name]))) := by
  constructor
  · intro split hsplit hnone select hselect
    have hquery : SuffixedQuery.ofDialect .css query = .ok ⟨trimmed query, none⟩ := by
      rw [SuffixedQuery.ofDialect, hsplit, SuffixedQuery.ofCss_eq_plain hsplit hnone]
    refine ⟨apply_selection_suffixed hquery (SuffixedQuery.ofCss_append_text query) d
        select hselect,
      apply_selection_suffixed hquery (SuffixedQuery.ofCss_append_raw query) d
        select hselect, ?_⟩
    intro keys texts hne hkeys hpadded
    rw [apply_selection_suffixed hquery
      (SuffixedQuery.ofCss_append_attributes query hne hkeys hpadded) d select hselect]
    simp only [pushSuffix, pushAttributes_map_trimmed, apply]
  · intro hnone select hselect
    have hquery : SuffixedQuery.ofDialect .xpath query = .ok ⟨trimmed query, none⟩ := by
      rw [SuffixedQuery.ofDialect, SuffixedQuery.ofXPath_eq_plain hnone]
    have hsuffixed {suffixed : String} {split : SuffixedQuery}
        (h : SuffixedQuery.ofXPath suffixed = split) :
        SuffixedQuery.ofDialect .xpath suffixed = .ok split := congrArg Except.ok h
    exact ⟨apply_selection_suffixed hquery (hsuffixed (SuffixedQuery.ofXPath_append_text query)) d
        select hselect,
      apply_selection_suffixed hquery (hsuffixed (SuffixedQuery.ofXPath_append_raw query)) d
        select hselect,
      fun name hname => apply_selection_suffixed hquery
        (hsuffixed (SuffixedQuery.ofXPath_append_attribute query hname)) d select hselect⟩

/-- White space around the keys and around the query, and a query that holds the start of a
suffix. -/
theorem apply_suffixed_links :
    SuffixedQuery.ofCss " ul a[rel='::attr('] " = .ok ⟨"ul a[rel='::attr(']", none⟩ ∧
    document.apply (.selectAll .css " ul a[rel='::attr('] ::attr( href ,data-src)") =
      document.apply (.selectAll .css " ul a[rel='::attr('] ") >>=
        (·.apply (.attr ["href", "data-src"])) ∧
    (SuffixedQuery.ofXPath "//a/@x[1]").extraction = none ∧
    document.apply (.select .xpath "//a/@x[1]/@xlink:href") =
      document.apply (.select .xpath "//a/@x[1]") >>= (·.apply (.attr ["xlink:href"])) := by
  have hcss : SuffixedQuery.ofCss " ul a[rel='::attr('] " = .ok ⟨"ul a[rel='::attr(']", none⟩ := by
    decide
  have hxpath : (SuffixedQuery.ofXPath "//a/@x[1]").extraction = none := by decide
  have hattrs :=
    ((apply_suffixed document _).1 _ hcss rfl (.selectAll .css) (by simp [selections])).2.2
  have hstep := ((apply_suffixed document _).2 hxpath (.select .xpath) (by simp [selections])).2.2
  exact ⟨hcss, hattrs ["href", "data-src"] [" href ", "data-src"] (by decide) (by decide)
      (.cons ⟨" ", " ", rfl, rfl, rfl⟩ (.cons ⟨"", "", rfl, rfl, rfl⟩ .nil)),
    hxpath, hstep "xlink:href" ⟨by decide, forall_mem_of_all (by decide)⟩⟩

end Draft
end Extractor
