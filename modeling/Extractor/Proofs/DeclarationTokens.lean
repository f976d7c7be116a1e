import Extractor.Libraries.Standard
import Extractor.Proofs.Inference

/-!
# Extractor.Proofs.DeclarationTokens

Which inferred shapes are read back from their declarations token by token. The
names of the shapes are put together from capitalised words, so that none of
them is a keyword (`JsonShape.Capital`); but a word may hold, or start with,
what no name may. And a key between quotes may be written with an escape that
the lexer does not know, at which cutting the declarations ends
(`JsonShape.fails_declarations`). Nothing else goes wrong, and so the sample and
the entry name tell when the tokens are the intended ones
(`JsonShape.tokenize_declarations`).
-/

namespace Extractor

/-! ## upper case -/

namespace Text

variable {c d : Char}

/-- A character outside the small letters of ASCII is not one of them. -/
theorem isLower_eq_false (h : c.toNat < 97 ∨ 122 < c.toNat) : c.isLower = false := by
  have hrange : c.isLower = (97 ≤ c.val && c.val ≤ 122) := rfl
  have hlower : c.isLower = true ↔ 97 ≤ c.toNat ∧ c.toNat ≤ 122 := by
    simp [hrange, UInt32.le_iff_toNat_le, ← Char.toNat_val]
  rw [Bool.eq_false_iff, ne_eq, hlower]
  omega

theorem isLower_ofNat {n : Nat} (h : n < 97 ∨ 122 < n) : (Char.ofNat n).isLower = false := by
  by_cases hvalid : n.isValidChar
  · have hnat : (Char.ofNat n).toNat = n := by
      rw [Char.ofNat, dif_pos hvalid]
      rfl
    exact isLower_eq_false (by rwa [hnat])
  · rw [Char.ofNat, dif_neg hvalid]
    rfl

/-- Upper case holds no small letter of the English alphabet. -/
theorem isLower_of_mem_uppercase (h : d ∈ uppercase c) : d.isLower = false := by
  have hascii : ∀ n < 128, (Char.ofNat n).toUpper.isLower = false := by decide
  have hexpansions : ∀ pair ∈ caseExpansions, ∀ n ∈ pair.2, n < 97 ∨ 122 < n := by decide +kernel
  have hruns : ∀ r ∈ caseRuns, r.last + r.offset < 97 ∨ 122 < r.first + r.offset := by
    decide +kernel
  rw [uppercase] at h
  split at h
  · next hc =>
      obtain rfl := List.mem_singleton.mp h
      have hupper := hascii c.toNat hc
      rwa [Char.ofNat_toNat] at hupper
  · split at h
    · next pair hpair =>
        obtain ⟨n, hn, rfl⟩ := List.mem_map.mp h
        exact isLower_ofNat (hexpansions _ (List.mem_of_find?_eq_some hpair) n hn)
    · split at h
      · next r hr =>
          obtain rfl := List.mem_singleton.mp h
          have hrun := hruns r (List.mem_of_find?_eq_some hr)
          have hin := List.find?_some hr
          simp only [CaseRun.contains, Bool.and_eq_true, decide_eq_true_eq] at hin
          exact isLower_ofNat (by omega)
      · obtain rfl := List.mem_singleton.mp h
        exact isLower_eq_false (by omega)

theorem uppercase_ne_nil (c : Char) : uppercase c ≠ [] := by
  have hexpansions : ∀ pair ∈ caseExpansions, pair.2 ≠ [] := by decide +kernel
  rw [uppercase]
  split
  · exact List.cons_ne_nil _ _
  · split
    · next pair hpair =>
        rw [ne_eq, List.map_eq_nil_iff]
        exact hexpansions _ (List.mem_of_find?_eq_some hpair)
    · split <;> exact List.cons_ne_nil _ _

end Text

/-! ## keys -/

/-- Inserting a key adds it to the keys. -/
theorem Keyed.mem_keys_insert {α : Type} {key other : String} {value : α}
    {pairs : List (String × α)} :
    other ∈ (insert key value pairs).map Prod.fst ↔ other = key ∨ other ∈ pairs.map Prod.fst := by
  induction pairs with
  | nil => simp [insert]
  | cons pair rest ih =>
      rw [insert]
      split
      · next heq => simp [heq]
      · rw [List.map_cons, List.mem_cons, ih, List.map_cons, List.mem_cons, or_left_comm]

/-- Collecting pairs keeps every key. -/
theorem Keyed.mem_keys_collect {α : Type} {key : String} {pairs : List (String × α)} :
    key ∈ (collect pairs).map Prod.fst ↔ key ∈ pairs.map Prod.fst := by
  have hfold : ∀ acc : List (String × α),
      key ∈ (pairs.foldl (fun acc pair => insert pair.1 pair.2 acc) acc).map Prod.fst ↔
        key ∈ acc.map Prod.fst ∨ key ∈ pairs.map Prod.fst := by
    induction pairs with
    | nil => simp
    | cons pair rest ih =>
        intro acc
        rw [List.foldl_cons, ih, mem_keys_insert, List.map_cons, List.mem_cons, or_assoc,
          or_left_comm]
  exact (hfold []).trans (or_iff_right (by simp))

namespace JsonShape

/-! ## names -/

/-- The name does not start with a small letter of the English alphabet. -/
def Capital (name : String) : Prop := ∀ c ∈ name.toList.head?, c.isLower = false

/-- Names that start with a capital can be put together. -/
theorem Capital.append {a b : String} (ha : Capital a) (hb : Capital b) : Capital (a ++ b) := by
  intro c hc
  rw [String.toList_append, List.head?_append] at hc
  cases hhead : a.toList.head? with
  | none => exact hb c (by simpa [hhead] using hc)
  | some d => exact ha c (by simpa [hhead] using hc)

/-- Every reserved word starts with a small letter. -/
theorem Capital.not_reserved {name : String} (h : Capital name) : name ∉ reservedWords := by
  intro hname
  have hall : reservedWords.all (fun word => word.toList.head?.any Char.isLower) = true := by
    decide
  obtain ⟨c, hc, hlower⟩ := (Option.any_eq_true _ _).mp (List.all_eq_true.mp hall name hname)
  rw [h c hc] at hlower
  cases hlower

/-- Names in camel case start with a capital. -/
theorem capital_upperCamelCase (s : String) : Capital (upperCamelCase s) := by
  intro c hc
  rw [upperCamelCase, String.toList_ofList] at hc
  generalize Text.splitOn '_' s.toList = words at hc
  induction words with
  | nil => simp at hc
  | cons word words ih =>
      rw [List.flatMap_cons, List.head?_append] at hc
      cases word with
      | nil => exact ih (by simpa [capitalise] using hc)
      | cons d word =>
          obtain ⟨first, upper, hupper⟩ := List.exists_cons_of_ne_nil (Text.uppercase_ne_nil d)
          have hfirst : first = c := by simpa [capitalise, hupper] using hc
          exact Text.isLower_of_mem_uppercase (by rw [hupper, hfirst]; exact List.mem_cons_self)

/-- Plain keys can be put together. -/
theorem isPlainKey_append {a b : String} (ha : isPlainKey a.toList = true)
    (hb : isPlainKey b.toList = true) : isPlainKey (a ++ b).toList = true := by
  rw [String.toList_append]
  cases hacs : a.toList with
  | nil => simp [hacs, isPlainKey] at ha
  | cons c cs =>
      cases hbcs : b.toList with
      | nil => simp [hbcs, isPlainKey] at hb
      | cons d ds =>
          rw [hacs, isPlainKey, Bool.and_eq_true] at ha
          rw [hbcs, isPlainKey, Bool.and_eq_true] at hb
          have hd : (Text.isAlphanumeric d || decide (d = '_')) = true :=
            Lexer.isNamePart_of_isNameStart hb.1
          rw [List.cons_append, isPlainKey, List.all_append, List.all_cons, ha.1, ha.2, hb.2, hd]
          rfl

end JsonShape

/-- Every identifier among the tokens of a text is a word. -/
theorem Lexer.isPlainKey_of_readToken [Libraries] {p : Position} {c : Char} {cs : List Char}
    {word : String} {after : Cursor} (h : readToken p c cs = .ok (.identifier word, after)) :
    JsonShape.isPlainKey word.toList = true := by
  rcases readToken_cases h with hpunctuation | ⟨s, hs⟩ | ⟨name, hc, hname, hword⟩ | ⟨_, _, hnumber⟩
  · unfold punctuation? at hpunctuation
    split at hpunctuation <;> cases hpunctuation
  · cases hs
  · unfold Token.ofWord at hword
    split at hword <;> cases hword
    rw [String.toList_ofList, JsonShape.isPlainKey, Bool.and_eq_true, List.all_eq_true]
    exact ⟨hc, hname⟩
  · unfold numberToken at hnumber
    split at hnumber
    · split at hnumber <;> cases hnumber
    · split at hnumber <;> cases hnumber

/-- A text that is cut without an error is cut into its tokens. -/
theorem Lexed.of_tokenize [Libraries] {source : String} {ls : List Lexeme}
    (h : tokenize source = .ok ls) :
    (ofString source).lexemes = ls ∧ (ofString source).failure = none := by
  rw [tokenize, toExcept] at h
  split at h
  · cases h
  · next hfailure => exact ⟨Except.ok.inj h, hfailure⟩

/-- The words among the tokens of a text are plain keys. -/
theorem Lexed.isPlainKey_of_mem [Libraries] {source word : String}
    (h : Token.identifier word ∈ (ofString source).lexemes.map Lexeme.token) :
    JsonShape.isPlainKey word.toList = true := by
  obtain ⟨l, hl, htoken⟩ := List.mem_map.mp h
  have hall := forall_token
    (P := fun token => ∀ word, token = .identifier word → JsonShape.isPlainKey word.toList = true)
    (fun p c cs token after hread word htoken => Lexer.isPlainKey_of_readToken (htoken ▸ hread))
    (fun word htoken => by cases htoken) source
  exact hall l hl word htoken

namespace JsonShape

variable {s : JsonShape} {shapes : List JsonShape} {key : String} {type : JsonFieldType}
  {rest : List Char} {fields : List (String × JsonFieldType)}

/-! ## keys that cannot be read -/

/-- A field whose key is none ends the cutting with an error. -/
theorem fails_field [Libraries] (hkey : ¬ IsKey key) :
    Fails ((fieldDeclaration key type).toList ++ rest) := by
  obtain ⟨hplain, hreadable⟩ := not_or.mp hkey
  have hbody : ∃ c ∈ key.toList, Lexer.isReadable c = false := by simpa using hreadable
  have hquoted : Fails (Text.quotedChars key.toList ++ (": " ++ type.declaration ++ "\n").toList
      ++ rest) := by
    rw [List.append_assoc]
    exact .unreadable hbody
  have hfield := Leads.indent.fails hquoted
  simpa [fieldDeclaration, hplain, Text.quoted, String.toList_append] using hfield

/-- The fields are cut up to the first key that cannot be read. -/
theorem fails_fields [Libraries]
    (htypes : ∀ type ∈ fields.map Prod.snd, ∀ name ∈ type.reference?, IsName name)
    (hkeys : ¬ ∀ key ∈ fields.map Prod.fst, IsKey key) :
    Fails (fields.flatMap (fun (key, type) => (fieldDeclaration key type).toList) ++ rest) := by
  induction fields with
  | nil => simp at hkeys
  | cons field fields ih =>
      obtain ⟨htype, htypes⟩ := List.forall_mem_cons.mp htypes
      rw [List.map_cons, List.forall_mem_cons, not_and_or] at hkeys
      rw [List.flatMap_cons, List.append_assoc]
      by_cases hkey : IsKey field.1
      · exact (leads_field hkey htype).fails (ih htypes (hkeys.resolve_left (not_not.mpr hkey)))
      · exact fails_field hkey

/-- And so are the shapes. -/
theorem fails_declarations [Libraries] (hnames : ∀ s ∈ shapes, IsName s.name)
    (hreferences : ∀ s ∈ shapes, ∀ name ∈ s.references, IsName name)
    (hkeys : ¬ ∀ s ∈ shapes, ∀ key ∈ s.fields.map Prod.fst, IsKey key) :
    Fails (declarations shapes).toList := by
  induction shapes with
  | nil => simp at hkeys
  | cons s shapes ih =>
      obtain ⟨hname, hnames⟩ := List.forall_mem_cons.mp hnames
      obtain ⟨hreference, hreferences⟩ := List.forall_mem_cons.mp hreferences
      rw [List.forall_mem_cons, not_and_or] at hkeys
      rw [toList_declarations]
      by_cases hkey : ∀ key ∈ s.fields.map Prod.fst, IsKey key
      · have hrest := ih hnames hreferences (hkeys.resolve_left (not_not.mpr hkey))
        refine (leads_declaration ⟨hname, hkey, hreference⟩).fails ?_
        cases shapes with
        | nil => exact hrest
        | cons next shapes => exact (Leads.newline.trans .newline).fails hrest
      · rw [toList_declaration, List.append_assoc, List.append_assoc]
        exact (leads_head hname).fails (fails_fields (forall_reference hreference) hkey)

/-- **When declarations are cut into the intended tokens.** Names that are no keywords have to be
words, and keys that are no words have to be readable. -/
theorem tokenize_declarations_iff [Libraries] (hreserved : ∀ s ∈ shapes, s.name ∉ reservedWords)
    (hreferences : ∀ s ∈ shapes, ∀ name ∈ s.references, name ∈ shapes.map JsonShape.name) :
    (∃ ls, tokenize (declarations shapes) = .ok ls ∧
        ls.map Lexeme.token = shapes.flatMap tokens ++ [Token.endOfInput]) ↔
      (∀ s ∈ shapes, isPlainKey s.name.toList = true) ∧
        ∀ s ∈ shapes, ∀ key ∈ s.fields.map Prod.fst, IsKey key := by
  have hspelled : (∀ s ∈ shapes, isPlainKey s.name.toList = true) →
      ∀ s ∈ shapes, ∀ name ∈ s.references, IsName name := by
    intro hnames s hs name hname
    obtain ⟨other, hother, rfl⟩ := List.mem_map.mp (hreferences s hs name hname)
    exact ⟨hnames other hother, hreserved other hother⟩
  constructor
  · rintro ⟨ls, hls, htokens⟩
    obtain ⟨hlexemes, hfailure⟩ := Lexed.of_tokenize hls
    have hnames : ∀ s ∈ shapes, isPlainKey s.name.toList = true := by
      intro s hs
      have hmem : Token.identifier s.name ∈ shapes.flatMap tokens ++ [Token.endOfInput] := by
        refine List.mem_append_left _ (List.mem_flatMap.mpr ⟨s, hs, ?_⟩)
        simp [tokens]
      rw [← htokens, ← hlexemes] at hmem
      exact Lexed.isPlainKey_of_mem hmem
    refine ⟨hnames, ?_⟩
    by_contra hkeys
    have hfails := fails_declarations (fun s hs => ⟨hnames s hs, hreserved s hs⟩)
      (hspelled hnames) hkeys
    exact hfails _ .start (Nat.lt_succ_self _) hfailure
  · rintro ⟨hnames, hkeys⟩
    have hscans := scans_spelled fun s hs =>
      ⟨⟨hnames s hs, hreserved s hs⟩, hkeys s hs, hspelled hnames s hs⟩
    obtain ⟨lexemes, hlexemes, htokens⟩ := hscans _ .start (Nat.lt_succ_self _)
    refine ⟨lexemes, ?_, htokens⟩
    rw [tokenize, Lexed.ofString, Lexed.ofChars, hlexemes]
    rfl

/-! ## keys in the sample -/

mutual

/-- The keys of the objects in a field that are described. -/
def fieldKeys : Json → List String
  | .obj members => members.map Prod.fst ++ memberKeys members
  | .arr items => itemKeys items
  | _ => []

/-- The keys of the objects in an array that are described: only its first item counts. -/
def itemKeys : List Json → List String
  | .obj members :: _ => members.map Prod.fst ++ memberKeys members
  | _ => []

/-- The keys of the objects in the members of an object. -/
def memberKeys : List (String × Json) → List String
  | [] => []
  | (_, value) :: rest => fieldKeys value ++ memberKeys rest

end

/-- The keys of some shapes. -/
def keys (shapes : List JsonShape) : List String := shapes.flatMap fun s => s.fields.map Prod.fst

theorem forall_mem_keys {P : String → Prop} : (∀ key ∈ keys shapes, P key) ↔
    ∀ s ∈ shapes, ∀ key ∈ s.fields.map Prod.fst, P key := by
  simp only [keys, List.forall_mem_flatMap]

/-- What inference under a parent does to the shapes that are done: it adds shapes for the own names
and the keys, all of which turn up. A name is an own one, or it is put together from the name of a
parent and an own one. -/
structure Describes (parent : String) (done done' : List JsonShape) (names found : List String) :
    Prop where
  grows : done ⊆ done'
  capital : ∀ name ∈ names, Capital name
  named : ∀ name ∈ names, name ∈ done'.map JsonShape.name
  built : ∀ {P : String → Prop}, (∀ {a b}, P a → P b → P (a ++ b)) → P parent →
    (∀ name ∈ names, P name) → ∀ s ∈ done', s ∈ done ∨ P s.name
  keys_iff : ∀ key, key ∈ keys done' ↔ key ∈ keys done ∨ key ∈ found

namespace Describes

variable {parent own : String} {names names' found found' : List String}
  {done done' done'' : List JsonShape}

/-- Nothing is described at the start, and what is described one after the other is described
together. -/
theorem refl : Describes parent done done [] [] where
  grows := List.Subset.refl _
  capital := List.forall_mem_nil _
  named := List.forall_mem_nil _
  built _ _ _ _ hs := .inl hs
  keys_iff _ := by simp

theorem trans (h : Describes parent done done' names found)
    (h' : Describes parent done' done'' names' found') :
    Describes parent done done'' (names ++ names') (found ++ found') where
  grows := List.Subset.trans h.grows h'.grows
  capital := List.forall_mem_append.mpr ⟨h.capital, h'.capital⟩
  named name hname := by
    obtain hname | hname := List.mem_append.mp hname
    · exact List.map_subset _ h'.grows (h.named name hname)
    · exact h'.named name hname
  built happend hparent hnames s hs := by
    obtain ⟨hnames, hnames'⟩ := List.forall_mem_append.mp hnames
    obtain hs | hs := h'.built happend hparent hnames' s hs
    · exact h.built happend hparent hnames s hs
    · exact .inr hs
  keys_iff key := by rw [h'.keys_iff, h.keys_iff, List.mem_append, or_assoc]

theorem congr (h : Describes parent done done' names found)
    (hfound : ∀ key, key ∈ found ↔ key ∈ found') : Describes parent done done' names found' where
  grows := h.grows
  capital := h.capital
  named := h.named
  built := h.built
  keys_iff key := by rw [h.keys_iff, hfound]

/-- An object adds its own shape behind those of its members. -/
theorem object (h : Describes s.name done done' names found) (hcapital : Capital own)
    (hname : own ∈ done.map JsonShape.name ∧ s.name = parent ++ own ∨ s.name = own) :
    Describes parent done (done' ++ [s]) (own :: names) (s.fields.map Prod.fst ++ found) where
  grows := List.Subset.trans h.grows (List.subset_append_left _ _)
  capital := List.forall_mem_cons.mpr ⟨hcapital, h.capital⟩
  named := by
    rw [List.map_append, List.forall_mem_cons]
    refine ⟨?_, fun name hmem => List.mem_append_left _ (h.named name hmem)⟩
    obtain ⟨hown, -⟩ | hname := hname
    · exact List.mem_append_left _ (List.map_subset _ h.grows hown)
    · exact List.mem_append_right _ (by simp [hname])
  built {P} happend hparent hnames := by
    obtain ⟨hown, hnames⟩ := List.forall_mem_cons.mp hnames
    have hs : P s.name := by
      obtain ⟨-, hname⟩ | hname := hname
      · exact hname ▸ happend hparent hown
      · exact hname ▸ hown
    intro other hother
    obtain hother | hother := List.mem_append.mp hother
    · exact h.built happend hs hnames other hother
    · exact .inr (List.mem_singleton.mp hother ▸ hs)
  keys_iff key := by
    have hkeys : keys (done' ++ [s]) = keys done' ++ s.fields.map Prod.fst := by simp [keys]
    rw [hkeys, List.mem_append, List.mem_append, h.keys_iff, or_assoc, or_comm (a := key ∈ found)]

end Describes

/-! ## a whole run -/

variable {parent name : String} {done done' : List JsonShape}

/-- The name of a new shape is made of its own key, with the name of its parent before it if
taken. -/
theorem subShapeName_cases (h : subShapeName done parent key = .ok name) :
    ownName key ∈ done.map JsonShape.name ∧ name = parent ++ ownName key ∨ name = ownName key := by
  rw [subShapeName_eq] at h
  split at h
  · cases h
  · split at h
    · next htaken =>
        obtain ⟨s, hs, hname⟩ := List.any_eq_true.mp htaken
        exact .inl ⟨List.mem_map.mpr ⟨s, hs, beq_iff_eq.mp hname⟩, (Except.ok.inj h).symm⟩
    · exact .inr (Except.ok.inj h).symm

/-- The fields of these members have their keys, and the shapes for the inner objects are added. -/
def MembersDescribed (members : List (String × Json)) : Prop :=
  ∀ ⦃parent done fields done'⦄, inferFields parent members done = .ok (fields, done') →
    fields.map Prod.fst = members.map Prod.fst ∧
      Describes parent done done' (memberNames members) (memberKeys members)

/-- An object is described by its name and its fields, whatever it is called. -/
theorem MembersDescribed.concat {members : List (String × Json)} {own : String} {isArray : Bool}
    (hmembers : MembersDescribed members)
    (hfields : inferFields name members done = .ok (fields, done')) (hcapital : Capital own)
    (hname : own ∈ done.map JsonShape.name ∧ name = parent ++ own ∨ name = own) :
    Describes parent done (done' ++ [⟨name, isArray, Keyed.collect fields⟩])
      (own :: memberNames members) (members.map Prod.fst ++ memberKeys members) := by
  obtain ⟨hkeys, hinner⟩ := hmembers hfields
  have hobject := @Describes.object ⟨name, isArray, Keyed.collect fields⟩ parent own _ _ _ _ hinner
    hcapital hname
  refine hobject.congr fun key => ?_
  rw [List.mem_append, List.mem_append, Keyed.mem_keys_collect, hkeys]

/-- An object is described by its name and by what its members are described by. -/
theorem describes_object {members : List (String × Json)} {make : String → JsonFieldType}
    (hmembers : MembersDescribed members)
    (h : (do
      let name ← subShapeName done parent key
      let (fields, done) ← inferFields name members done
      return (make name, done ++ [JsonShape.mk name false (Keyed.collect fields)])) =
        .ok (type, done')) :
    Describes parent done done' (ownName key :: memberNames members)
      (members.map Prod.fst ++ memberKeys members) := by
  obtain ⟨name, hname, h⟩ := Outcome.bind_eq_ok.mp h
  obtain ⟨⟨fields, inner⟩, hfields, h⟩ := Outcome.bind_eq_ok.mp h
  obtain ⟨-, rfl⟩ := Prod.mk.inj (Except.ok.inj h)
  exact hmembers.concat hfields (capital_upperCamelCase _) (subShapeName_cases hname)

mutual

/-- **Every value is described by what is inferred for it**, by recursion over its tree. -/
theorem describes_field : ∀ (value : Json) {parent key done type done'},
    inferField parent key value done = .ok (type, done') →
      Describes parent done done' (fieldNames key value) (fieldKeys value)
  | .null | .bool _ | .float _ | .int _ | .str _ => by
      intro h
      rw [inferField] at h
      obtain ⟨-, rfl⟩ := Prod.mk.inj (Except.ok.inj h)
      simpa [fieldNames, fieldKeys] using Describes.refl
  | .obj members => by
      intro h
      rw [inferField] at h
      rw [fieldNames, fieldKeys]
      exact describes_object (describes_fields members) h
  | .arr items => by
      intro h
      rw [inferField] at h
      rw [fieldNames, fieldKeys]
      exact describes_items items h

theorem describes_items : ∀ (items : List Json) {parent key done type done'},
    inferItems parent key items done = .ok (type, done') →
      Describes parent done done' (itemNames key items) (itemKeys items)
  | .obj members :: others => by
      intro h
      rw [inferItems] at h
      split at h
      · cases h
      · rw [itemNames, itemKeys]
        exact describes_object (describes_fields members) h
  | [] | .arr _ :: _ | .null :: _ | .bool _ :: _ | .float _ :: _ | .int _ :: _ | .str _ :: _ => by
      intro h
      obtain ⟨-, rfl⟩ := inferItems_of_not_object (by simp) h
      simpa [itemNames, itemKeys] using Describes.refl

/-- Members are described one after the other. -/
theorem describes_fields : ∀ (members : List (String × Json)), MembersDescribed members
  | [] => by
      intro parent done fields done' h
      rw [inferFields] at h
      obtain ⟨rfl, rfl⟩ := Prod.mk.inj (Except.ok.inj h)
      rw [memberNames, memberKeys]
      exact ⟨rfl, .refl⟩
  | (key, value) :: rest => by
      intro parent done fields done' h
      rw [inferFields] at h
      obtain ⟨⟨type, between⟩, hfield, h⟩ := Outcome.bind_eq_ok.mp h
      obtain ⟨⟨types, last⟩, hrest, h⟩ := Outcome.bind_eq_ok.mp h
      obtain ⟨rfl, rfl⟩ := Prod.mk.inj (Except.ok.inj h)
      obtain ⟨hkeys, hlast⟩ := describes_fields rest hrest
      rw [memberNames, memberKeys]
      refine ⟨?_, (describes_field value hfield).trans hlast⟩
      rw [List.map_cons, List.map_cons, hkeys]

end

/-- What inferred shapes refer to is among them. -/
theorem mem_names_of_mem_references {members : List (String × Json)} {isArray : Bool}
    (h : inferFields name members [] = .ok (fields, done))
    (hshapes : shapes = done ++ [⟨name, isArray, Keyed.collect fields⟩]) :
    ∀ s ∈ shapes, ∀ reference ∈ s.references, reference ∈ shapes.map JsonShape.name := by
  have hrun : Inferred [] [] (done ++ [⟨name, isArray, Keyed.collect fields⟩]) _
      (name :: memberNames members) _ :=
    .object (inferred_fields members h) references_collect fun _ => rfl
  rw [← hshapes] at hrun
  intro s hs reference hreference
  obtain ⟨before, after, rfl⟩ := List.append_of_mem hs
  rw [List.map_append]
  exact List.mem_append_left _ (hrun.inOrder inOrder_nil before s after rfl reference hreference)

/-- **When inferred shapes are read back from their declarations.** The names of all shapes are read
as names and all keys as what they are, exactly if the entry name and the keys of the inner objects
make words, and every key that is no word itself is readable. No name is ever a keyword. -/
theorem tokenize_declarations [Libraries] {sample entry path : String} {shapes : List JsonShape}
    (h : infer sample entry path = .ok shapes) :
    ∃ members isArray, sampled sample path = .ok (members, isArray) ∧
      ((∃ ls, tokenize (declarations shapes) = .ok ls ∧
          ls.map Lexeme.token = shapes.flatMap tokens ++ [Token.endOfInput]) ↔
        (∀ name ∈ upperCamelCase entry :: memberNames members, isPlainKey name.toList = true) ∧
          ∀ key ∈ members.map Prod.fst ++ memberKeys members, IsKey key) := by
  obtain ⟨members, isArray, fields, done, hsampled, hfields, hshapes⟩ := eq_of_infer h
  have hrun : Describes (upperCamelCase entry) [] shapes
      (upperCamelCase entry :: memberNames members) (members.map Prod.fst ++ memberKeys members) :=
    hshapes ▸ (describes_fields members).concat hfields (capital_upperCamelCase entry) (.inr rfl)
  have hnamed : ∀ {P : String → Prop}, (∀ {a b}, P a → P b → P (a ++ b)) →
      (∀ name ∈ upperCamelCase entry :: memberNames members, P name) → ∀ s ∈ shapes, P s.name :=
    fun happend hnames s hs =>
      (hrun.built happend (hnames _ List.mem_cons_self) hnames s hs).resolve_left (by simp)
  have hreserved : ∀ s ∈ shapes, s.name ∉ reservedWords := fun s hs =>
    (hnamed (P := Capital) Capital.append hrun.capital s hs).not_reserved
  refine ⟨members, isArray, hsampled, ?_⟩
  rw [tokenize_declarations_iff hreserved (mem_names_of_mem_references hfields hshapes)]
  refine and_congr ⟨fun hnames name hname => ?_, fun hnames => ?_⟩ ?_
  · obtain ⟨s, hs, rfl⟩ := List.mem_map.mp (hrun.named name hname)
    exact hnames s hs
  · exact hnamed (P := fun name => isPlainKey name.toList = true) isPlainKey_append hnames
  · have hkeys : ∀ key, key ∈ keys shapes ↔ key ∈ members.map Prod.fst ++ memberKeys members :=
      fun key => (hrun.keys_iff key).trans (or_iff_right (by simp [keys]))
    rw [← forall_mem_keys]
    simp only [hkeys]

/-- A sample with keywords, a line break and a dash in its keys. -/
def labels : String :=
  "\x7b\"json\": 1, \"a-b\\n\": \x7b\"null\": [\"x\"], \"é\": null\x7d\x7d"

/-- The shapes of the sample. -/
def labelShapes : List JsonShape :=
  [⟨"AB", false, [("null", .list .string), ("é", .null)]⟩,
    ⟨"MainPage", false, [("json", .scalar .integer), ("a-b\n", .object "AB")]⟩]

/-- The sample is declared and cut into tokens, though its keys are close to the language. -/
theorem tokenize_declarations_labels : infer labels "main_page" "" = .ok labelShapes ∧
    (∃ ls, tokenize (declarations labelShapes) = .ok ls ∧ ls.map Lexeme.token =
      [.keyword .json, .identifier "AB", .leftBrace, .null, .colon, .identifier "list",
        .leftBracket, .identifier "str", .rightBracket, .identifier "é", .colon, .null, .rightBrace,
        .keyword .json, .identifier "MainPage", .leftBrace, .keyword .json, .colon,
        .identifier "int", .string "a-b\n", .colon, .identifier "AB", .rightBrace, .endOfInput]) ∧
    ∃ members isArray, sampled labels "" = .ok (members, isArray) ∧
      (∀ name ∈ "MainPage" :: memberNames members, isPlainKey name.toList = true) ∧
      ∀ key ∈ members.map Prod.fst ++ memberKeys members, IsKey key := by
  have hinfer : infer labels "main_page" "" = .ok labelShapes := by decide +kernel
  have htokens : ∃ ls, tokenize (declarations labelShapes) = .ok ls ∧
      ls.map Lexeme.token = labelShapes.flatMap tokens ++ [Token.endOfInput] :=
    Outcome.map_eq_ok.mp (by decide +kernel)
  obtain ⟨members, isArray, hsampled, hiff⟩ := tokenize_declarations hinfer
  exact ⟨hinfer, htokens, members, isArray, hsampled, hiff.mp htokens⟩

/-- A space in the entry name, a digit that starts no name, and a key that is written with an escape
for its code point. -/
theorem declarations_misread :
    infer "\x7b\x7d" "a b" "" = .ok [⟨"A b", false, []⟩] ∧
    (tokenize (declarations [⟨"A b", false, []⟩])).map (List.map Lexeme.token) =
      .ok [.keyword .json, .identifier "A", .identifier "b", .leftBrace, .rightBrace,
        .endOfInput] ∧
    infer "\x7b\"²\": \x7b\x7d\x7d" "Main" "" =
      .ok [⟨"²", false, []⟩, ⟨"Main", false, [("²", .object "²")]⟩] ∧
    tokenize (declarations [⟨"²", false, []⟩, ⟨"Main", false, [("²", .object "²")]⟩]) =
      .error (.unexpectedChar '²' ⟨1, 6⟩) ∧
    infer "\x7b\"\\u0000\": 1\x7d" "Main" "" =
      .ok [⟨"Main", false, [("\x00", .scalar .integer)]⟩] ∧
    tokenize (declarations [⟨"Main", false, [("\x00", .scalar .integer)]⟩]) =
      .error (.invalidEscape '0' ⟨2, 6⟩) := by
  decide +kernel

end JsonShape

end Extractor
