import Extractor.Declaration.Module
import Extractor.Libraries.Standard
import Extractor.Proofs.Lexing
import Extractor.Proofs.Reading
import Mathlib.Data.List.Nodup

/-!
# Extractor.Proofs.ShapeText

Shapes of JSON objects can be written as declarations and read back. The tokens
of a declaration stand between: the text is cut into them
(`JsonShape.scans_declarations`), and the readers take exactly them
(`JsonShape.takes_readDeclarations`).
-/

namespace Extractor

open Declaration

/-! ## names and keys -/

/-- The words that are no names. -/
def reservedWords : List String := ["schema", "json", "extends", "true", "false", "null"]

/-- Whether a declaration may use the name. -/
def IsName (name : String) : Prop :=
  JsonShape.isPlainKey name.toList = true ∧ name ∉ reservedWords

instance (name : String) : Decidable (IsName name) := inferInstanceAs (Decidable (_ ∧ _))

/-- A word that is not reserved is a name. -/
theorem Token.ofWord_of_not_reserved {word : String} (h : word ∉ reservedWords) :
    ofWord word = .identifier word := by
  simp only [reservedWords, List.mem_cons, List.not_mem_nil, or_false, not_or] at h
  obtain ⟨hschema, hjson, hextends, htrue, hfalse, hnull⟩ := h
  unfold ofWord
  split <;> first | contradiction | rfl

/-- A keyword stands for itself where it is a key. -/
theorem keyOf?_ofWord (word : String) : keyOf? (.ofWord word) = some word := by
  unfold Token.ofWord
  split <;> rfl

namespace Scans

/-- Nothing that goes on with a word. -/
def Stops (rest : List Char) : Prop :=
  ∀ d, rest.head? = some d → Lexer.isNamePart d = false ∧ Lexer.isQuote d = false

/-- What stands behind words in declarations ends them. -/
theorem stops {c : Char} {rest : List Char} (hc : c ∈ ['\n', ' ', '[', ']', ':']) :
    Stops (c :: rest) := by
  have hall : ∀ c ∈ ['\n', ' ', '[', ']', ':'],
      Lexer.isNamePart c = false ∧ Lexer.isQuote c = false := Text.forall_mem_of_all (by decide)
  intro d hd
  obtain rfl := Option.some.inj hd
  exact hall c hc

end Scans

namespace Leads

variable [Libraries]

variable {rest : List Char} {word : String}

/-- A plain key in front is read as the token of its word. -/
theorem plainKey (hword : JsonShape.isPlainKey word.toList = true) (hrest : Scans.Stops rest) :
    Leads (word.toList ++ rest) [.ofWord word] rest := by
  cases hcs : word.toList with
  | nil => simp [hcs, JsonShape.isPlainKey] at hword
  | cons c cs =>
      rw [hcs, JsonShape.isPlainKey, Bool.and_eq_true, List.all_eq_true] at hword
      have hleads := Leads.word hword.1 hword.2 hrest
      rwa [← hcs, String.ofList_toList, hcs] at hleads

/-- A name in front is read as an identifier. -/
theorem name (hname : IsName word) (hrest : Scans.Stops rest) :
    Leads (word.toList ++ rest) [.identifier word] rest := by
  rw [← Token.ofWord_of_not_reserved hname.2]
  exact plainKey hname.1 hrest

/-- White space in front leads on without a token. -/
theorem space : Leads (' ' :: rest) [] rest := .blank (by decide)

theorem newline : Leads ('\n' :: rest) [] rest := .blank (by decide)

theorem indent : Leads (' ' :: ' ' :: ' ' :: ' ' :: rest) [] rest :=
  space.trans (space.trans (space.trans space))

end Leads

namespace Scans

variable {rest : List Char} {word : String} {tokens : List Token}

theorem plainKey [Libraries] (hword : JsonShape.isPlainKey word.toList = true) (hrest : Stops rest)
    (h : Scans rest tokens) : Scans (word.toList ++ rest) (.ofWord word :: tokens) :=
  (Leads.plainKey hword hrest).scans h

theorem space [Libraries] (h : Scans rest tokens) : Scans (' ' :: rest) tokens :=
  Leads.space.scans h

end Scans

/-! ## types -/

namespace JsonFieldType

/-- The tokens of a type as it is declared. -/
def tokens : JsonFieldType → List Token
  | scalar item => [.identifier item.keyword]
  | null => [.null]
  | optional item => [.identifier item.keyword, .pipe, .null]
  | list item => [.identifier "list", .leftBracket, .identifier item.keyword, .rightBracket]
  | objects name => [.identifier "list", .leftBracket, .identifier name, .rightBracket]
  | object name => [.identifier name]

/-- The words that are types of their own, or start one. -/
def typeWords : List String := ["list", "str", "int", "float", "bool"]

/-- The type can be declared: what it refers to has a name that is no type. -/
def Declarable (type : JsonFieldType) : Prop :=
  ∀ name ∈ type.reference?, IsName name ∧ name ∉ typeWords

instance (type : JsonFieldType) : Decidable type.Declarable :=
  inferInstanceAs (Decidable (∀ name ∈ type.reference?, _))

variable {type : JsonFieldType} {rest : List Char} {others : List Token} {fuel : Nat}
  {name : String} {p : Position} {follow : Token → Prop}

theorem isName_keyword (item : JsonScalar) : IsName item.keyword := by
  cases item <;> decide

theorem leads_word [Libraries] (hname : IsName name) :
    Leads (name.toList ++ '\n' :: rest) [.identifier name] rest :=
  (Leads.name hname (Scans.stops (by simp))).trans .newline

/-- A list of items of a name is cut into four tokens. -/
theorem leads_list [Libraries] (hname : IsName name) :
    Leads (("list[" ++ name ++ "]").toList ++ '\n' :: rest)
      [.identifier "list", .leftBracket, .identifier name, .rightBracket] rest := by
  have hclose : Leads (']' :: '\n' :: rest) [.rightBracket] rest :=
    (Leads.punctuation rfl).trans .newline
  have hitem : Leads (name.toList ++ ']' :: '\n' :: rest) [.identifier name, .rightBracket] rest :=
    (Leads.name hname (Scans.stops (by simp))).trans hclose
  have hopen : Leads ('[' :: (name.toList ++ ']' :: '\n' :: rest)) [.leftBracket] _ :=
    .punctuation rfl
  have hlist : Leads ("list".toList ++ '[' :: (name.toList ++ ']' :: '\n' :: rest))
      [.identifier "list"] _ := .name (by decide) (Scans.stops (by simp))
  simpa [String.toList_append] using hlist.trans (hopen.trans hitem)

/-- The declaration of a type is cut into its tokens, if what it refers to has a name. -/
theorem leads_declaration [Libraries] (htype : ∀ name ∈ type.reference?, IsName name) :
    Leads (type.declaration.toList ++ '\n' :: rest) type.tokens rest := by
  have hnull : Leads ("null".toList ++ '\n' :: rest) [.null] rest :=
    (Leads.plainKey (by decide) (Scans.stops (by simp))).trans .newline
  cases type with
  | scalar item => exact leads_word (isName_keyword item)
  | null => exact hnull
  | optional item =>
      have hpipe : Leads (' ' :: '|' :: ' ' :: ("null".toList ++ '\n' :: rest)) [.pipe, .null]
          rest :=
        Leads.space.trans ((Leads.punctuation rfl).trans (Leads.space.trans hnull))
      have hitem : Leads _ (.identifier item.keyword :: _) rest :=
        (Leads.name (isName_keyword item) (Scans.stops (by simp))).trans hpipe
      simpa [declaration, tokens, String.toList_append] using hitem
  | list item => exact leads_list (isName_keyword item)
  | objects name => exact leads_list (htype name rfl)
  | object name => exact leads_word (htype name rfl)

/-! ## reading types -/

/-- A type without a bar behind it may not be null. -/
theorem takes_readNullable : Takes (readNullable type p) [] type (· ≠ .pipe) :=
  Takes.not_accept.bind_nil .pure

/-- A scalar type with a bar and null behind it may be null. -/
theorem takes_readNullable_null {item : JsonScalar} :
    Takes (readNullable (.scalar item) p) [.pipe, .null] (.optional item) follow :=
  Takes.accept.seq (Takes.expect.bind_nil .pure)

/-- A word that is not `list` is read as the type of the word, with what may follow it. -/
theorem takes_word (hname : name ≠ "list")
    (h : ∀ p, Takes (readNullable (wordType name) p) others type follow) :
    Takes (readType (fuel + 1)) (.identifier name :: others) type follow := by
  refine .position_bind fun p => .current_bind (Takes.advance.seq ?_)
  rw [if_neg hname]
  exact h p

theorem wordType_keyword (item : JsonScalar) : wordType item.keyword = .scalar item := by
  cases item <;> rfl

/-- Any other word is the name of a shape. -/
theorem wordType_of_not_mem (hname : name ∉ typeWords) : wordType name = .object name := by
  have hscalar : JsonScalar.ofKeyword? name = none := by
    rw [JsonScalar.ofKeyword?, List.find?_eq_none]
    intro item hitem hkeyword
    rw [beq_iff_eq] at hkeyword
    subst hkeyword
    revert hname
    cases item <;> decide
  rw [wordType, hscalar]

theorem keyword_ne_list (item : JsonScalar) : item.keyword ≠ "list" := by
  cases item <;> decide

/-- A list of named items is read. -/
theorem takes_list {item : JsonFieldType} (hname : name ≠ "list") (hword : wordType name = item)
    (htype : listOf? item = some type) :
    Takes (readType (fuel + 2)) [.identifier "list", .leftBracket, .identifier name, .rightBracket]
      type (· ≠ .pipe) := by
  have hitem : Takes (readType (fuel + 1)) [.identifier name] item (· ≠ .pipe) :=
    takes_word hname fun p => hword ▸ takes_readNullable
  refine .position_bind fun p => .current_bind (Takes.advance.seq ?_)
  rw [if_pos rfl]
  refine Takes.expect.seq (hitem.bind ?_ fun _ _ => nofun)
  rw [htype]
  exact Takes.expect.seq takes_readNullable

/-- **A type that can be declared is read from its tokens.** -/
theorem takes_readType (htype : type.Declarable) :
    Takes (readType (fuel + 2)) type.tokens type (· ≠ .pipe) := by
  cases type with
  | scalar item =>
      exact takes_word (keyword_ne_list item) fun p => wordType_keyword item ▸ takes_readNullable
  | null => exact .position_bind fun p => .current_bind (Takes.advance.seq takes_readNullable)
  | optional item =>
      refine takes_word (keyword_ne_list item) fun p => ?_
      rw [wordType_keyword]
      exact takes_readNullable_null
  | list item => exact takes_list (keyword_ne_list item) (wordType_keyword item) rfl
  | objects name =>
      obtain ⟨-, hname⟩ := htype name rfl
      exact takes_list (fun h => hname (h ▸ by decide)) (wordType_of_not_mem hname) rfl
  | object name =>
      obtain ⟨-, hname⟩ := htype name rfl
      exact takes_word (fun h => hname (h ▸ by decide)) fun p =>
        wordType_of_not_mem hname ▸ takes_readNullable

end JsonFieldType

/-! ## shapes -/

namespace JsonShape

/-- The token of a key: a word, or a string where the key is none. -/
def keyToken (key : String) : Token :=
  if isPlainKey key.toList then .ofWord key else .string key

/-- The tokens of a field as it is declared. -/
def fieldTokens (field : String × JsonFieldType) : List Token :=
  keyToken field.1 :: .colon :: field.2.tokens

/-- The tokens of a shape as it is declared. -/
def tokens (s : JsonShape) : List Token :=
  [Token.keyword .json, Token.identifier s.name]
    ++ (if s.isArray then [Token.identifier "array"] else [])
    ++ Token.leftBrace :: (s.fields.flatMap fieldTokens ++ [Token.rightBrace])

/-- The shape can be declared. Its keys may be anything that a string can show. -/
structure Declarable (s : JsonShape) : Prop where
  name : IsName s.name
  keys_nodup : (s.fields.map Prod.fst).Nodup
  readable : ∀ key ∈ s.fields.map Prod.fst, ∀ c ∈ key.toList, Lexer.isReadable c = true
  types : ∀ type ∈ s.fields.map Prod.snd, type.Declarable

instance (s : JsonShape) : Decidable s.Declarable :=
  decidable_of_iff (_ ∧ _ ∧ (∀ key ∈ _, key.toList.all Lexer.isReadable = true) ∧ _)
    ⟨fun ⟨hname, hnodup, hreadable, htypes⟩ =>
      ⟨hname, hnodup, fun key hkey => List.all_eq_true.mp (hreadable key hkey), htypes⟩,
    fun h => ⟨h.name, h.keys_nodup, fun key hkey => List.all_eq_true.mpr (h.readable key hkey),
      h.types⟩⟩

variable {s : JsonShape} {key : String} {type : JsonFieldType} {rest : List Char}
  {others : List Token} {fuel : Nat} {fields : List (String × JsonFieldType)}
  {follow : Token → Prop}

/-! ### scanning -/

/-- The key is read from its declaration: it is a word, or a string can show it. -/
def IsKey (key : String) : Prop :=
  isPlainKey key.toList = true ∨ ∀ c ∈ key.toList, Lexer.isReadable c = true

/-- The shape is read token by token from its declaration, whatever these tokens mean. -/
structure Spelled (s : JsonShape) : Prop where
  name : IsName s.name
  keys : ∀ key ∈ s.fields.map Prod.fst, IsKey key
  references : ∀ name ∈ s.references, IsName name

/-- What can be declared can be spelled. -/
theorem Declarable.spelled (h : s.Declarable) : s.Spelled where
  name := h.name
  keys key hkey := .inr (h.readable key hkey)
  references name hname := by
    obtain ⟨field, hfield, hreference⟩ := List.mem_filterMap.mp hname
    exact (h.types field.2 (List.mem_map_of_mem hfield) name hreference).1

/-- A key is written plainly or in quotes, and is read as its token in either case. -/
theorem leads_key [Libraries] (hkey : IsKey key) :
    Leads ((if isPlainKey key.toList then key else Text.quoted key).toList ++ ':' :: rest)
      [keyToken key] (':' :: rest) := by
  rw [keyToken]
  split
  · next hplain => exact .plainKey hplain (Scans.stops (by simp))
  · next hplain =>
      have hquoted := @Leads.quoted _ (':' :: rest) key.toList (hkey.resolve_left hplain)
      rw [String.ofList_toList] at hquoted
      rw [Text.quoted, String.toList_ofList]
      exact hquoted

/-- A field is cut into its key and its type. -/
theorem leads_field [Libraries] (hkey : IsKey key) (htype : ∀ name ∈ type.reference?, IsName name) :
    Leads ((fieldDeclaration key type).toList ++ rest) (fieldTokens (key, type)) rest := by
  have htail : Leads (':' :: ' ' :: (type.declaration.toList ++ '\n' :: rest))
      (.colon :: type.tokens) rest :=
    (Leads.punctuation rfl).trans (Leads.space.trans (type.leads_declaration htype))
  have hfield := Leads.indent.trans ((leads_key hkey).trans htail)
  simpa [fieldDeclaration, fieldTokens, String.toList_append] using hfield

/-- The fields of a shape are cut one by one. -/
theorem leads_fields [Libraries] (hkeys : ∀ key ∈ fields.map Prod.fst, IsKey key)
    (htypes : ∀ type ∈ fields.map Prod.snd, ∀ name ∈ type.reference?, IsName name) :
    Leads (fields.flatMap (fun (key, type) => (fieldDeclaration key type).toList) ++ rest)
      (fields.flatMap fieldTokens) rest := by
  induction fields with
  | nil => exact .refl
  | cons field fields ih =>
      obtain ⟨hkey, hkeys⟩ := List.forall_mem_cons.mp hkeys
      obtain ⟨htype, htypes⟩ := List.forall_mem_cons.mp htypes
      rw [List.flatMap_cons, List.flatMap_cons, List.append_assoc]
      exact (leads_field hkey htype).trans (ih hkeys htypes)

/-- What stands before the fields: the name, and whether there is an array. -/
theorem leads_head [Libraries] (hname : IsName s.name) :
    Leads (("json " ++ s.name ++ (if s.isArray then " array" else "") ++ " \x7b\n").toList ++ rest)
      ([Token.keyword .json, Token.identifier s.name]
        ++ (if s.isArray then [Token.identifier "array"] else []) ++ [Token.leftBrace]) rest := by
  have hopen : Leads (' ' :: '{' :: '\n' :: rest) [.leftBrace] rest :=
    Leads.space.trans ((Leads.punctuation rfl).trans .newline)
  have harray : Leads ((if s.isArray then " array" else "").toList ++ ' ' :: '{' :: '\n' :: rest)
      ((if s.isArray then [Token.identifier "array"] else []) ++ [Token.leftBrace]) rest := by
    cases s.isArray with
    | false => exact hopen
    | true =>
        have hword : Leads ("array".toList ++ ' ' :: '{' :: '\n' :: rest) [.identifier "array"] _ :=
          .name (by decide) (Scans.stops (by simp))
        exact Leads.space.trans (hword.trans hopen)
  have hstops : Scans.Stops
      ((if s.isArray then " array" else "").toList ++ ' ' :: '{' :: '\n' :: rest) := by
    cases s.isArray with
    | false => exact Scans.stops (List.mem_cons_of_mem _ List.mem_cons_self)
    | true =>
        have hspace : Scans.Stops (' ' :: ("array".toList ++ ' ' :: '{' :: '\n' :: rest)) :=
          Scans.stops (by simp)
        exact hspace
  have htail := Leads.space.trans ((Leads.name hname hstops).trans harray)
  have hjson : Leads ("json".toList ++ ' ' :: (s.name.toList ++ _)) (.keyword .json :: _) rest :=
    (Leads.plainKey (by decide) (Scans.stops (by simp))).trans htail
  simpa [String.toList_append] using hjson

theorem toList_declaration : s.declaration.toList =
    ("json " ++ s.name ++ (if s.isArray then " array" else "") ++ " \x7b\n").toList ++
      (s.fields.flatMap (fun (key, type) => (fieldDeclaration key type).toList) ++ ['}']) := by
  simp [declaration, String.toList_append, String.toList_join, List.flatMap_map]

/-- What holds of the references of a shape holds of the types of its fields. -/
theorem forall_reference {P : String → Prop} (h : ∀ name ∈ s.references, P name) :
    ∀ type ∈ s.fields.map Prod.snd, ∀ name ∈ type.reference?, P name := by
  intro type htype name hname
  obtain ⟨field, hfield, rfl⟩ := List.mem_map.mp htype
  exact h name (List.mem_filterMap.mpr ⟨field, hfield, hname⟩)

/-- The text of a shape is cut into its tokens. -/
theorem leads_declaration [Libraries] (hs : s.Spelled) :
    Leads (s.declaration.toList ++ rest) s.tokens rest := by
  have hclose : Leads ('}' :: rest) [.rightBrace] rest := .punctuation rfl
  have hfields := (leads_fields hs.keys (forall_reference hs.references)).trans hclose
  have hshape := (leads_head hs.name).trans hfields
  rw [toList_declaration, List.append_assoc, List.append_assoc]
  simpa [tokens] using hshape

theorem toList_declarations (s : JsonShape) (shapes : List JsonShape) :
    (declarations (s :: shapes)).toList = s.declaration.toList ++
      if shapes.isEmpty then [] else '\n' :: '\n' :: (declarations shapes).toList := by
  cases shapes <;> simp [declarations, String.toList_intercalate, List.intercalate]

/-- The declarations of shapes are cut into their tokens if each shape is. -/
theorem scans_spelled [Libraries] {shapes : List JsonShape} (h : ∀ s ∈ shapes, s.Spelled) :
    Scans (declarations shapes).toList (shapes.flatMap tokens ++ [Token.endOfInput]) := by
  induction shapes with
  | nil => exact .nil
  | cons s shapes ih =>
      obtain ⟨hs, hshapes⟩ := List.forall_mem_cons.mp h
      rw [toList_declarations, List.flatMap_cons, List.append_assoc]
      refine (leads_declaration hs).scans ?_
      cases shapes with
      | nil => exact .nil
      | cons next shapes => exact (Leads.newline.trans .newline).scans (ih hshapes)

/-- **The declarations of shapes are cut into their tokens.** -/
theorem scans_declarations [Libraries] {shapes : List JsonShape} (h : ∀ s ∈ shapes, s.Declarable) :
    Scans (declarations shapes).toList (shapes.flatMap tokens ++ [Token.endOfInput]) :=
  scans_spelled fun s hs => (h s hs).spelled

/-! ### reading -/

theorem takes_readKey {token : Token} (hkey : keyOf? token = some key) :
    Takes readKey [token] key follow := by
  refine .current_bind ?_
  rw [hkey]
  exact Takes.advance.bind_nil .pure

theorem keyOf?_keyToken (key : String) : keyOf? (keyToken key) = some key := by
  rw [keyToken]
  split
  · exact keyOf?_ofWord key
  · rfl

/-- A key is none of the tokens that have no name. -/
theorem keyToken_ne {token : Token} (htoken : keyOf? token = none) : keyToken key ≠ token := by
  rintro rfl
  rw [keyOf?_keyToken] at htoken
  contradiction

/-- What starts behind a field: the next key, or the end of the shape. -/
theorem headD_fields {t u : Token} (hkey : keyOf? u = none) (hbrace : Token.rightBrace ≠ u) :
    (fields.flatMap fieldTokens ++ [Token.rightBrace]).headD t ≠ u := by
  cases fields with
  | nil => exact hbrace
  | cons field fields => exact keyToken_ne hkey

/-- The fields are read one by one, each under its own key. -/
theorem takes_readFields (htypes : ∀ type ∈ fields.map Prod.snd, type.Declarable)
    (hnodup : ((s.fields ++ fields).map Prod.fst).Nodup) (hfuel : fields.length + 2 < fuel) :
    Takes (readFields fuel s) (fields.flatMap fieldTokens ++ [Token.rightBrace])
      { s with fields := s.fields ++ fields } Anything := by
  induction fields generalizing s fuel with
  | nil =>
      cases fuel with
      | zero => contradiction
      | succ fuel =>
          rw [List.append_nil]
          exact Takes.accept.bind_nil .pure
  | cons field fields ih =>
      obtain ⟨key, type⟩ := field
      obtain ⟨htype, htypes⟩ := List.forall_mem_cons.mp htypes
      rw [List.length_cons] at hfuel
      obtain ⟨fuel, rfl⟩ : ∃ k, fuel = k + 3 := ⟨fuel - 3, by omega⟩
      have hnew : (s.fields.lookup key).isSome = false := by
        rw [Option.isSome_eq_false_iff, Option.isNone_iff_eq_none, List.lookup_eq_none_iff]
        intro field hfield
        rw [List.map_append, List.map_cons] at hnodup
        have hne := (List.nodup_append.mp hnodup).2.2 field.1 (List.mem_map_of_mem hfield) key
          List.mem_cons_self
        simpa using hne.symm
      have hrest :
          Takes (readFields (fuel + 2) { s with fields := s.fields ++ [(key, type)] }) _ _ _ :=
        ih htypes (by simpa using hnodup) (by omega)
      rw [List.append_assoc, List.singleton_append] at hrest
      have htokens : ((key, type) :: fields).flatMap fieldTokens ++ [Token.rightBrace] =
          keyToken key :: .colon ::
            (type.tokens ++ (fields.flatMap fieldTokens ++ [Token.rightBrace])) := by
        simp [fieldTokens]
      rw [htokens, readFields]
      refine Takes.not_accept.bind (.position_bind fun p =>
        (takes_readKey (keyOf?_keyToken key)).seq ?_) fun _ _ => keyToken_ne rfl
      rw [hnew]
      refine Takes.expect.seq ((JsonFieldType.takes_readType htype).bind
        (Takes.not_accept.bind hrest fun _ _ => ?_) fun _ _ => ?_)
      · exact headD_fields rfl nofun
      · exact headD_fields rfl nofun

/-- **A shape is read from its tokens.** -/
theorem takes_readShape (hs : s.Declarable) (hfuel : s.fields.length + 2 < fuel) :
    Takes (readShape fuel) s.tokens s Anything := by
  have hfields : Takes (readFields fuel ⟨s.name, s.isArray, []⟩) _ s Anything :=
    takes_readFields hs.types hs.keys_nodup hfuel
  rw [tokens, List.append_assoc]
  refine Takes.expect.seq (Takes.identifier.seq ?_)
  cases harray : s.isArray with
  | true =>
      rw [harray] at hfields
      exact Takes.accept.seq (Takes.expect.seq hfields)
  | false =>
      rw [harray] at hfields
      exact Takes.not_accept.bind (Takes.expect.seq hfields) fun _ _ => nofun

/-- A shape has more tokens than fields, by enough for what its reader looks at. -/
theorem length_fields_lt (s : JsonShape) : s.fields.length + 3 < s.tokens.length := by
  have hfields : ∀ fields : List (String × JsonFieldType),
      fields.length ≤ (fields.flatMap fieldTokens).length := by
    intro fields
    induction fields with
    | nil => exact Nat.le_refl 0
    | cons field fields ih =>
        rw [List.flatMap_cons, List.length_append, List.length_cons, fieldTokens, List.length_cons]
        omega
  have h := hfields s.fields
  simp only [tokens, List.length_append, List.length_cons, List.length_nil]
  omega

/-- A shape with a new name is put behind the others. -/
theorem addShape_of_not_mem {m : Module} (h : s.name ∉ m.shapes.map JsonShape.name) :
    m.addShape s = .ok { m with shapes := m.shapes ++ [s] } := by
  have hnone : m.shapes.get? s.name = none := by
    rw [Shapes.get?, List.find?_eq_none]
    intro other hother hname
    exact h (List.mem_map.mpr ⟨other, hother, by simpa using hname⟩)
  rw [Module.addShape, hnone]
  rfl

/-- **Declarations of new shapes are read to the end and added in order.** -/
theorem takes_readDeclarations [Libraries] {m : Module} {shapes : List JsonShape}
    (hshapes : ∀ s ∈ shapes, s.Declarable)
    (hnodup : ((m.shapes ++ shapes).map JsonShape.name).Nodup)
    (hfuel : (shapes.flatMap tokens).length < fuel) :
    Takes (readDeclarations fuel m) (shapes.flatMap tokens) { m with shapes := m.shapes ++ shapes }
      (· = .endOfInput) := by
  induction shapes generalizing m fuel with
  | nil =>
      obtain ⟨fuel, rfl⟩ : ∃ k, fuel = k + 1 := ⟨fuel - 1, by omega⟩
      refine .position_bind fun p => .current_bind_nil fun t ht => ?_
      subst ht
      rw [List.append_nil]
      exact .pure
  | cons s shapes ih =>
      obtain ⟨hs, hshapes⟩ := List.forall_mem_cons.mp hshapes
      have hlength := length_fields_lt s
      rw [List.flatMap_cons, List.length_append] at hfuel
      obtain ⟨fuel, rfl⟩ : ∃ k, fuel = k + 1 := ⟨fuel - 1, by omega⟩
      have hnew : s.name ∉ m.shapes.map JsonShape.name := by
        rw [List.map_append, List.map_cons] at hnodup
        intro hmem
        exact (List.nodup_append.mp hnodup).2.2 s.name hmem s.name List.mem_cons_self rfl
      have hrest : Takes (readDeclarations fuel { m with shapes := m.shapes ++ [s] }) _ _ _ :=
        ih hshapes (by simpa using hnodup) (by omega)
      rw [List.append_assoc, List.singleton_append] at hrest
      refine .position_bind fun p => .current_bind ?_
      refine (takes_readShape hs (by omega)).seq ?_
      rw [addShape_of_not_mem hnew]
      exact Takes.pure.seq hrest

/-- A module of shapes is read from the tokens of all of them. -/
theorem takes_readModule [Libraries] {shapes : List JsonShape}
    (hshapes : ∀ s ∈ shapes, s.Declarable) (hnodup : (shapes.map JsonShape.name).Nodup)
    (hfuel : (shapes.flatMap tokens).length < fuel) :
    Takes (readModule fuel) (shapes.flatMap tokens) { Module.empty with shapes := shapes }
      (· = .endOfInput) := by
  have hrest : Takes (readDeclarations fuel { Module.empty with docstring := none }) _ _ _ :=
    takes_readDeclarations hshapes hnodup hfuel
  have hdocstring : Takes readDocstring [] none (· ∈ [.keyword .json, .endOfInput]) := by
    refine .current_bind_nil fun t ht => ?_
    obtain rfl | rfl := by simpa using ht
    · exact .pure
    · exact .pure
  refine hdocstring.bind hrest fun t ht => ?_
  cases shapes with
  | nil => exact List.mem_cons_of_mem _ (List.mem_singleton.mpr ht)
  | cons s shapes => exact List.mem_cons_self

end JsonShape

/-! ## modules -/

/-- A text that is cut into tokens which make a module parses to it. -/
theorem Module.parse_of_scans [Libraries] {source : String} {tokens : List Token} {m : Module}
    (hscans : Scans source.toList (tokens ++ [.endOfInput]))
    (htakes : ∀ fuel, tokens.length < fuel → Takes (readModule fuel) tokens m (· = .endOfInput)) :
    Module.parse source = .ok m := by
  obtain ⟨lexemes, hlexemes, htokens⟩ := hscans _ .start (Nat.lt_succ_self _)
  obtain ⟨front, last, rfl, hfront, hlast⟩ := List.map_eq_append_iff.mp htokens
  obtain ⟨next, rfl, hnext⟩ := List.map_eq_singleton_iff.mp hlast
  have hlength : tokens.length < 3 * (front ++ [next]).length + 3 := by
    rw [← hfront, List.length_map, List.length_append]
    omega
  have hread := htakes _ hlength front [] next none hfront hnext
  have hlexed : Lexed.ofString source = ⟨front ++ [next], none⟩ := hlexemes
  unfold Module.parse
  rw [hlexed]
  simp only [hread]
  split
  · contradiction
  · rfl

/-- **Declarations of shapes read back as the shapes**, in their order, with nothing else. -/
theorem JsonShape.parse_declarations [Libraries] (shapes : List JsonShape)
    (hnames : (shapes.map JsonShape.name).Nodup) (hshapes : ∀ s ∈ shapes, s.Declarable) :
    Module.parse (declarations shapes) = .ok ⟨none, .empty, shapes⟩ :=
  Module.parse_of_scans (scans_declarations hshapes) fun _ hfuel =>
    takes_readModule hshapes hnames hfuel

/-- Shapes with keys that are words of the language, no words at all or the start of a raw string,
and with every kind of type in front of a key. -/
def JsonShape.awkward : List JsonShape :=
  [⟨"array", true, [("json", .scalar .string), ("r", .list .integer), ("", .null),
      ("a \"b\"\\\n", .optional .float), ("list", .objects "r"), ("null", .object "_é")]⟩,
    ⟨"_é", false, []⟩]

/-- Shapes whose names and keys are close to the words of the language. -/
theorem JsonShape.parse_declarations_awkward :
    (awkward.map JsonShape.name).Nodup ∧ (∀ s ∈ awkward, s.Declarable) ∧
      Module.parse (declarations awkward) = .ok ⟨none, .empty, awkward⟩ :=
  have hnames : (awkward.map JsonShape.name).Nodup := by decide
  have hshapes : ∀ s ∈ awkward, s.Declarable := by decide
  ⟨hnames, hshapes, JsonShape.parse_declarations awkward hnames hshapes⟩

end Extractor
