import Extractor.Libraries.Standard
import Extractor.Proofs.Numerals
import Extractor.Proofs.ShapeText

/-!
# Extractor.Proofs.LiteralText

Literals survive being written. The text of a literal is cut into its tokens
(`Literal.scans_text`), where a sign is a token of its own, and the reader of
literals takes exactly them and gives the literal (`Literal.takes_readLiteral`).
Put together (`Literal.readLiteral_text`), what has been written is read to its
end and comes back as it was, decimals with their scale and maps in their order.
-/

namespace Extractor

open Declaration

/-- A new key is put behind the others. -/
theorem Keyed.insert_append {α : Type} {key : String} {value : α} {pairs : List (String × α)}
    (h : key ∉ pairs.map Prod.fst) : insert key value pairs = pairs ++ [(key, value)] := by
  induction pairs with
  | nil => rfl
  | cons pair rest ih =>
      rw [List.map_cons, List.mem_cons, not_or] at h
      rw [insert, if_neg (Ne.symm h.1), ih h.2, List.cons_append]

/-- Pairs with distinct keys are collected as they are. -/
theorem Keyed.collect_of_nodup {α : Type} {pairs : List (String × α)}
    (h : (pairs.map Prod.fst).Nodup) : collect pairs = pairs := by
  have hfold : ∀ front back : List (String × α), ((front ++ back).map Prod.fst).Nodup →
      back.foldl (fun acc pair => insert pair.1 pair.2 acc) front = front ++ back := by
    intro front back
    induction back generalizing front with
    | nil => simp
    | cons pair back ih =>
        intro hnodup
        have hnew : pair.1 ∉ front.map Prod.fst := fun hmem =>
          (List.nodup_append.mp (List.map_append ▸ hnodup)).2.2 _ hmem _ List.mem_cons_self rfl
        rw [List.foldl_cons, insert_append hnew, ih _ (by simpa using hnodup)]
        simp
  exact hfold [] pairs h

/-! ## decimals of a text -/

/-- The decimal is a token of some text. -/
def Decimal.IsToken [Libraries] (d : Decimal) : Prop :=
  ∃ source, Token.float d ∈ (Lexed.ofString source).lexemes.map Lexeme.token

/-- Decimals among the tokens are within the bounds. -/
theorem Lexer.fits_of_numberToken [Libraries] [Libraries.LawfulDecimals] {p : Position}
    {digits : List Char} {fraction : Bool} {d : Decimal}
    (h : numberToken p digits fraction = .ok (.float d)) : d.Fits := by
  unfold numberToken at h
  split at h
  · split at h
    · next hread =>
        cases h
        exact Libraries.LawfulDecimals.fits_of_read hread
    · cases h
  · split at h <;> cases h

theorem Lexer.fits_of_readToken [Libraries] [Libraries.LawfulDecimals] {p : Position} {c : Char}
    {cs : List Char} {d : Decimal} {after : Cursor}
    (h : readToken p c cs = .ok (.float d, after)) : d.Fits := by
  rcases readToken_cases h with hpunctuation | ⟨s, hs⟩ | ⟨name, -, -, hword⟩ | ⟨_, _, hnumber⟩
  · unfold punctuation? at hpunctuation
    split at hpunctuation <;> cases hpunctuation
  · cases hs
  · unfold Token.ofWord at hword
    split at hword <;> cases hword
  · exact fits_of_numberToken hnumber

/-- Every decimal of a text is within the bounds. -/
theorem Decimal.IsToken.fits [Libraries] [Libraries.LawfulDecimals] {d : Decimal}
    (h : d.IsToken) : d.Fits := by
  obtain ⟨source, hmem⟩ := h
  obtain ⟨l, hl, htoken⟩ := List.mem_map.mp hmem
  have hall := Lexed.forall_token (P := fun token => ∀ d, token = .float d → d.Fits)
    (fun p c cs token after hread d htoken => Lexer.fits_of_readToken (htoken ▸ hread))
    (fun d htoken => by cases htoken) source
  exact hall l hl d htoken

/-- And a decimal with a fraction that is within the bounds is a token of its own text. -/
theorem Decimal.IsToken.of_fits [Libraries] [Libraries.LawfulDecimals] {d : Decimal}
    (hnegative : d.negative = false) (hscale : 1 ≤ d.scale) (hfits : d.Fits) : d.IsToken := by
  have hend : Text.EndsNumber [] := by simp [Text.EndsNumber]
  have hscans := Scans.fraction hnegative hscale hfits hend .nil
  rw [List.append_nil] at hscans
  obtain ⟨lexemes, hlexemes, htokens⟩ := hscans _ .start (Nat.lt_succ_self _)
  refine ⟨d.text, ?_⟩
  rw [Lexed.ofString, Decimal.text, String.toList_ofList, Lexed.ofChars, hlexemes, htokens]
  exact List.mem_cons_self

namespace Literal

/-! ## literals that can be written -/

mutual

/-- The literal can be written: its integers are above the lowest one, its decimals have a fraction
and are tokens or the negatives of tokens, a string can show its texts, and the keys of a map are
distinct. -/
def Writable [Libraries] : Literal → Prop
  | .null => True
  | .bool _ => True
  | .int n => n.natAbs < Nat.pow 2 63
  | .float d => 1 ≤ d.scale ∧ (d.IsToken ∨ d.neg.IsToken)
  | .str s => ∀ c ∈ s.toList, Lexer.isReadable c = true
  | .list items => ItemsWritable items
  | .map entries => (entries.map Prod.fst).Nodup ∧ EntriesWritable entries

/-- All items can be written. -/
def ItemsWritable [Libraries] : List Literal → Prop
  | [] => True
  | item :: items => item.Writable ∧ ItemsWritable items

/-- All entries can be written. -/
def EntriesWritable [Libraries] : List (String × Literal) → Prop
  | [] => True
  | (key, value) :: entries =>
      (∀ c ∈ key.toList, Lexer.isReadable c = true) ∧ value.Writable ∧ EntriesWritable entries

end

mutual

/-- The tokens of a literal. -/
def tokens : Literal → List Token
  | .null => [.null]
  | .bool b => [.boolean b]
  | .int n => if n < 0 then [.minus, .integer n.natAbs] else [.integer n.natAbs]
  | .float d => if d.negative then [.minus, .float d.neg] else [.float d]
  | .str s => [.string s]
  | .list [] => [.leftBracket, .rightBracket]
  | .list (item :: items) => .leftBracket :: (item.tokens ++ itemTokens items)
  | .map [] => [.leftBrace, .rightBrace]
  | .map ((key, value) :: entries) =>
      .leftBrace :: .string key :: .colon :: (value.tokens ++ entryTokens entries)

/-- The tokens behind the first item of a list, the closing bracket included. -/
def itemTokens : List Literal → List Token
  | [] => [.rightBracket]
  | item :: items => .comma :: (item.tokens ++ itemTokens items)

/-- The tokens behind the first entry of a map, the closing brace included. -/
def entryTokens : List (String × Literal) → List Token
  | [] => [.rightBrace]
  | (key, value) :: entries =>
      .comma :: .string key :: .colon :: (value.tokens ++ entryTokens entries)

end

/-! ## cutting -/

variable {rest : List Char} {others : List Token}

/-- What may stand behind a literal. -/
def Closes (rest : List Char) : Prop := ∀ c ∈ rest.head?, c ∈ [',', ']', '}']

/-- A comma and closing brackets end a literal. -/
theorem closes_cons {c : Char} (hc : c ∈ [',', ']', '}']) : Closes (c :: rest) :=
  fun _ hd => Option.some.inj hd ▸ hc

/-- What closes a literal ends a word and a number. -/
theorem Closes.stops (h : Closes rest) : Scans.Stops rest := by
  have hall : ∀ c ∈ [',', ']', '}'], Lexer.isNamePart c = false ∧ Lexer.isQuote c = false :=
    Text.forall_mem_of_all (by decide)
  exact fun c hc => hall c (h c hc)

theorem Closes.endsNumber (h : Closes rest) : Text.EndsNumber rest := by
  have hall : ∀ c ∈ [',', ']', '}'], Text.isAsciiDigit c = false ∧ c ≠ '_' ∧ c ≠ '.' :=
    Text.forall_mem_of_all (by decide)
  exact fun c hc => hall c (h c hc)

/-- A string in quotes is cut into one token. -/
theorem scans_quoted [Libraries] {s : String} (hs : ∀ c ∈ s.toList, Lexer.isReadable c = true)
    (h : Scans rest others) :
    Scans ((Text.quoted s).toList ++ rest) (.string s :: others) := by
  have hquoted := Scans.quoted hs h
  rw [String.ofList_toList] at hquoted
  rwa [Text.quoted, String.toList_ofList]

/-- Numbers are cut into one token, or two if they are negative. -/
theorem scans_int [Libraries] {n : Int} (hn : (Literal.int n).Writable) (hrest : Closes rest)
    (h : Scans rest others) :
    Scans ((Literal.int n).text.toList ++ rest) ((Literal.int n).tokens ++ others) := by
  rw [Writable] at hn
  rw [text, tokens]
  cases n with
  | ofNat n =>
      have hdigits : (toString (Int.ofNat n)).toList = Nat.toDigits 10 n := by
        change (Nat.repr n).toList = _
        rw [Nat.repr_eq_ofList_toDigits, String.toList_ofList]
      rw [hdigits, if_neg (by simp)]
      exact .integer hn hrest.endsNumber h
  | negSucc n =>
      have hdigits : (toString (Int.negSucc n)).toList = '-' :: Nat.toDigits 10 (n + 1) := by
        change ("-" ++ Nat.repr (n + 1)).toList = _
        rw [String.toList_append, Nat.repr_eq_ofList_toDigits, String.toList_ofList]
        simp
      rw [hdigits, if_pos (Int.negSucc_lt_zero n)]
      exact (Scans.integer hn hrest.endsNumber h).punctuation rfl

theorem scans_float [Libraries] [Libraries.LawfulDecimals] {d : Decimal}
    (hd : (Literal.float d).Writable) (hrest : Closes rest) (h : Scans rest others) :
    Scans ((Literal.float d).text.toList ++ rest) ((Literal.float d).tokens ++ others) := by
  rw [Writable] at hd
  obtain ⟨hscale, htoken⟩ := hd
  -- the sign has no part in the bounds
  have hfits : d.Fits := htoken.elim Decimal.IsToken.fits Decimal.IsToken.fits
  rw [text, tokens, Decimal.text, String.toList_ofList]
  cases hnegative : d.negative with
  | false => exact .fraction hnegative hscale hfits hrest.endsNumber h
  | true =>
      have hneg : d.neg.negative = false := by rw [Decimal.neg, hnegative, Bool.not_true]
      rw [Libraries.LawfulDecimals.chars_of_negative hnegative]
      exact (Scans.fraction hneg hscale hfits hrest.endsNumber h).punctuation rfl

/-- Behind an item there is a comma or a bracket. -/
theorem closes_textItems [Libraries] (items : List Literal) (rest : List Char) :
    Closes ((textItems items).toList ++ ']' :: rest) := by
  cases items with
  | nil => exact closes_cons (by simp)
  | cons item items => simpa [textItems, String.toList_append] using closes_cons (by simp)

theorem closes_textEntries [Libraries] (entries : List (String × Literal)) (rest : List Char) :
    Closes ((textEntries entries).toList ++ '}' :: rest) := by
  cases entries with
  | nil => exact closes_cons (by simp)
  | cons entry entries => simpa [textEntries, String.toList_append] using closes_cons (by simp)

mutual

/-- **The text of a literal is cut into its tokens.** -/
theorem scans_text [Libraries] [Libraries.LawfulDecimals] : ∀ (l : Literal) {rest : List Char}
    {others : List Token}, l.Writable → Closes rest → Scans rest others →
      Scans (l.text.toList ++ rest) (l.tokens ++ others)
  | .null, _, _, _, hrest, h => by
      have hplain : JsonShape.isPlainKey "null".toList = true := rfl
      exact .plainKey hplain hrest.stops h
  | .bool true, _, _, _, hrest, h => by
      have hplain : JsonShape.isPlainKey "true".toList = true := rfl
      exact .plainKey hplain hrest.stops h
  | .bool false, _, _, _, hrest, h => by
      have hplain : JsonShape.isPlainKey "false".toList = true := rfl
      exact .plainKey hplain hrest.stops h
  | .int _, _, _, hn, hrest, h => scans_int hn hrest h
  | .float _, _, _, hd, hrest, h => scans_float hd hrest h
  | .str s, _, _, hs, _, h => by
      rw [Writable] at hs
      rw [text, tokens]
      exact scans_quoted hs h
  | .list [], _, _, _, _, h => by
      rw [text, tokens]
      exact (h.punctuation rfl).punctuation rfl
  | .list (item :: items), rest, others, hl, _, h => by
      rw [Writable, ItemsWritable] at hl
      have hitem := scans_text item hl.1 (closes_textItems items rest)
        (scans_textItems items hl.2 h)
      have hopen : Scans ('[' :: _) (.leftBracket :: _) := hitem.punctuation rfl
      simpa [text, tokens, String.toList_append] using hopen
  | .map [], _, _, _, _, h => by
      rw [text, tokens]
      exact (h.punctuation rfl).punctuation rfl
  | .map ((key, value) :: entries), rest, others, hl, _, h => by
      rw [Writable, EntriesWritable] at hl
      obtain ⟨-, hkey, hvalue, hentries⟩ := hl
      have hvalue := scans_text value hvalue (closes_textEntries entries rest)
        (scans_textEntries entries hentries h)
      have hcolon : Scans (':' :: ' ' :: _) (.colon :: _) := hvalue.space.punctuation rfl
      have hopen : Scans ('{' :: _) (.leftBrace :: _) := (scans_quoted hkey hcolon).punctuation rfl
      simpa [text, tokens, String.toList_append] using hopen

/-- Items and entries are cut one after the other. -/
theorem scans_textItems [Libraries] [Libraries.LawfulDecimals] :
    ∀ (items : List Literal) {rest : List Char} {others : List Token},
    ItemsWritable items → Scans rest others →
      Scans ((textItems items).toList ++ ']' :: rest) (itemTokens items ++ others)
  | [], _, _, _, h => h.punctuation rfl
  | item :: items, rest, others, hl, h => by
      rw [ItemsWritable] at hl
      have hitem := scans_text item hl.1 (closes_textItems items rest)
        (scans_textItems items hl.2 h)
      have hcomma : Scans (',' :: ' ' :: _) (.comma :: _) := hitem.space.punctuation rfl
      simpa [textItems, itemTokens, String.toList_append] using hcomma

theorem scans_textEntries [Libraries] [Libraries.LawfulDecimals] :
    ∀ (entries : List (String × Literal)) {rest : List Char} {others : List Token},
    EntriesWritable entries → Scans rest others →
      Scans ((textEntries entries).toList ++ '}' :: rest) (entryTokens entries ++ others)
  | [], _, _, _, h => h.punctuation rfl
  | (key, value) :: entries, rest, others, hl, h => by
      rw [EntriesWritable] at hl
      obtain ⟨hkey, hvalue, hentries⟩ := hl
      have hvalue := scans_text value hvalue (closes_textEntries entries rest)
        (scans_textEntries entries hentries h)
      have hcolon : Scans (':' :: ' ' :: _) (.colon :: _) := hvalue.space.punctuation rfl
      have hcomma : Scans (',' :: ' ' :: _) (.comma :: _) :=
        (scans_quoted hkey hcolon).space.punctuation rfl
      simpa [textEntries, entryTokens, String.toList_append] using hcomma

end

/-! ## reading -/

variable {β : Type} {next : Reading β} {b : β} {close : Token} {follow : Token → Prop} {fuel : Nat}

theorem length_tokens_pos (l : Literal) : 0 < l.tokens.length := by
  fun_cases tokens l <;> simp

theorem length_itemTokens_pos (items : List Literal) : 0 < (itemTokens items).length := by
  cases items <;> simp [itemTokens]

theorem length_entryTokens_pos (entries : List (String × Literal)) :
    0 < (entryTokens entries).length := by
  cases entries <;> simp [entryTokens]

/-- No literal starts like the end of a list. -/
theorem headD_tokens_ne (l : Literal) (others : List Token) (t : Token) :
    (l.tokens ++ others).headD t ≠ .rightBracket := by
  fun_cases tokens l <;> simp

/-- Behind the last item no comma is due. -/
theorem takes_last (h : Takes next (close :: others) b follow) :
    Takes (Reading.isAt close >>= fun closes =>
      if closes = true then next else Reading.expect .comma >>= fun _ => next)
      (close :: others) b follow :=
  Takes.isAt.bind h fun _ _ => rfl

/-- A comma and the rest stand behind any other item. -/
theorem takes_comma (hclose : Token.comma ≠ close) (h : Takes next others b follow) :
    Takes (Reading.isAt close >>= fun closes =>
      if closes = true then next else Reading.expect .comma >>= fun _ => next)
      (.comma :: others) b follow :=
  Takes.not_isAt.bind (Takes.expect.seq h) fun _ _ => hclose

/-- The tokens behind the opening bracket of a list. -/
def listTokens : List Literal → List Token
  | [] => [.rightBracket]
  | item :: items => item.tokens ++ itemTokens items

/-- The tokens behind the opening brace of a map. -/
def mapTokens : List (String × Literal) → List Token
  | [] => [.rightBrace]
  | (key, value) :: entries => .string key :: .colon :: (value.tokens ++ entryTokens entries)

/-- A list is its bracket and its items, and a map its brace and its entries. -/
theorem tokens_list (items : List Literal) :
    (Literal.list items).tokens = .leftBracket :: listTokens items := by
  cases items <;> simp [tokens, listTokens]

theorem tokens_map (entries : List (String × Literal)) :
    (Literal.map entries).tokens = .leftBrace :: mapTokens entries := by
  cases entries <;> simp [tokens, mapTokens]

/-- Numbers are read from their tokens. -/
theorem takes_int (n : Int) :
    Takes (readLiteral (fuel + 1)) (Literal.int n).tokens (.int n) follow := by
  rw [tokens, readLiteral]
  split
  · next hn =>
      have hvalue : n = -(n.natAbs : Int) := by omega
      rw [hvalue, Int.natAbs_neg, Int.natAbs_natCast]
      exact .current_bind (Takes.advance.seq (.current_bind (Takes.advance.bind_nil .pure)))
  · next hn =>
      have hvalue : n = (n.natAbs : Int) := by omega
      rw [hvalue, Int.natAbs_natCast]
      exact .current_bind (Takes.advance.bind_nil .pure)

theorem takes_float (d : Decimal) :
    Takes (readLiteral (fuel + 1)) (Literal.float d).tokens (.float d) follow := by
  rw [tokens, readLiteral]
  split
  · have hvalue : d = d.neg.neg := by simp [Decimal.neg]
    rw [congrArg Literal.float hvalue]
    exact .current_bind (Takes.advance.seq (.current_bind (Takes.advance.bind_nil .pure)))
  · exact .current_bind (Takes.advance.bind_nil .pure)

mutual

/-- **A literal is read from its tokens.** -/
theorem takes_readLiteral [Libraries] :
    ∀ (l : Literal) {fuel : Nat}, l.Writable → l.tokens.length < fuel →
    Takes (readLiteral fuel) l.tokens l Anything
  | _, 0, _, hfuel => absurd hfuel (Nat.not_lt_zero _)
  | .null, _ + 1, _, _ | .bool _, _ + 1, _, _ | .str _, _ + 1, _, _ =>
      .current_bind (Takes.advance.bind_nil .pure)
  | .int n, _ + 1, _, _ => takes_int n
  | .float d, _ + 1, _, _ => takes_float d
  | .list items, fuel + 1, hl, hfuel => by
      rw [Writable] at hl
      rw [tokens_list, List.length_cons] at hfuel
      rw [tokens_list]
      have hitems := takes_readItems items hl (Nat.lt_of_succ_lt_succ hfuel)
      exact .current_bind (Takes.advance.seq (hitems.bind_nil .pure))
  | .map entries, fuel + 1, hl, hfuel => by
      rw [Writable] at hl
      rw [tokens_map, List.length_cons] at hfuel
      rw [tokens_map]
      have hentries := takes_readEntries entries hl.2 (Nat.lt_of_succ_lt_succ hfuel)
      refine .current_bind (Takes.advance.seq (hentries.bind_nil ?_))
      rw [Keyed.collect_of_nodup hl.1]
      exact .pure

/-- Items and entries are read one after the other. -/
theorem takes_readItems [Libraries] : ∀ (items : List Literal) {fuel : Nat}, ItemsWritable items →
    (listTokens items).length < fuel → Takes (readItems fuel) (listTokens items) items Anything
  | _, 0, _, hfuel => absurd hfuel (Nat.not_lt_zero _)
  | [], _ + 1, _, _ => Takes.accept.bind_nil .pure
  | item :: items, fuel + 1, hl, hfuel => by
      rw [ItemsWritable] at hl
      rw [listTokens, List.length_append] at hfuel
      have hlength := length_tokens_pos item
      have hpos := length_itemTokens_pos items
      have hitem := takes_readLiteral item hl.1 (by omega : item.tokens.length < fuel)
      have hnext : (listTokens items).length < fuel →
          Takes (readItems fuel >>= fun items => pure (item :: items)) (listTokens items)
            (item :: items) Anything :=
        fun h => (takes_readItems items hl.2 h).bind_nil .pure
      refine Takes.not_accept.bind (hitem.seq ?_) fun t _ => ?_
      · cases items with
        | nil => exact takes_last (hnext (by simp [listTokens]; omega))
        | cons next items =>
            rw [itemTokens, List.length_cons] at hfuel
            exact takes_comma (by decide) (hnext (by rw [listTokens]; omega))
      · exact headD_tokens_ne item (itemTokens items) t

theorem takes_readEntries [Libraries] : ∀ (entries : List (String × Literal)) {fuel : Nat},
    EntriesWritable entries → (mapTokens entries).length < fuel →
      Takes (readEntries fuel) (mapTokens entries) entries Anything
  | _, 0, _, hfuel => absurd hfuel (Nat.not_lt_zero _)
  | [], _ + 1, _, _ => Takes.accept.bind_nil .pure
  | (key, value) :: entries, fuel + 1, hl, hfuel => by
      rw [EntriesWritable] at hl
      rw [mapTokens, List.length_cons, List.length_cons, List.length_append] at hfuel
      have hpos := length_entryTokens_pos entries
      have hvalue := takes_readLiteral value hl.2.1 (by omega : value.tokens.length < fuel)
      have hnext : (mapTokens entries).length < fuel →
          Takes (readEntries fuel >>= fun entries => pure ((key, value) :: entries))
            (mapTokens entries) ((key, value) :: entries) Anything :=
        fun h => (takes_readEntries entries hl.2.2 h).bind_nil .pure
      refine Takes.not_accept.bind (.current_bind (Takes.advance.seq (Takes.expect.seq
        (hvalue.seq ?_)))) fun t _ => by simp
      cases entries with
      | nil => exact takes_last (hnext (by simp [mapTokens]; omega))
      | cons entry entries =>
          rw [entryTokens, List.length_cons] at hfuel
          exact takes_comma (by decide) (hnext (by simp [mapTokens] at hfuel ⊢; omega))

end

/-- **Literals survive being written.** The text of a literal that can be written is cut into
tokens, and the reader of literals gives the literal back and stops at the end of input, whatever
bound above the number of tokens it is given. -/
theorem readLiteral_text [Libraries] [Libraries.LawfulDecimals] (l : Literal) (h : l.Writable) :
    ∃ ls p, tokenize l.text = .ok (ls ++ [⟨.endOfInput, p⟩]) ∧ ∀ fuel, ls.length < fuel →
      readLiteral fuel ⟨ls ++ [⟨.endOfInput, p⟩], none⟩ =
        .ok (l, ⟨[⟨.endOfInput, p⟩], none⟩) := by
  have hend : Closes [] := by simp [Closes]
  have hscans := l.scans_text h hend .nil
  rw [List.append_nil] at hscans
  obtain ⟨lexemes, hlexemes, htokens⟩ := hscans _ .start (Nat.lt_succ_self _)
  obtain ⟨ls, last, rfl, hls, hlast⟩ := List.map_eq_append_iff.mp htokens
  obtain ⟨⟨token, p⟩, rfl, rfl⟩ := List.map_eq_singleton_iff.mp hlast
  refine ⟨ls, p, ?_, fun fuel hfuel => ?_⟩
  · rw [tokenize, Lexed.ofString, Lexed.ofChars, hlexemes]
    rfl
  · have htakes := l.takes_readLiteral h (by rwa [← hls, List.length_map] : _ < fuel)
    exact htakes ls [] ⟨.endOfInput, p⟩ none hls trivial

/-- A map with the lowest integer that can be written, zero with a sign, a scale that the value does
not need, a key with escapes and the empty key. -/
def varied : Literal :=
  .map [("a \"b\"\\\n", .list [.int (-9223372036854775807), .float ⟨true, 0, 1⟩,
    .float ⟨false, 150, 2⟩, .list [.null, .bool true]]), ("", .map []), ("é", .str "\t")]

/-- A literal with all kinds of values in it. -/
theorem readLiteral_text_varied : varied.Writable ∧
    varied.text = "\x7b\"a \\\"b\\\"\\\\\\n\": [-9223372036854775807, -0.0, 1.50, [null, true]]" ++
      ", \"\": \x7b\x7d, \"é\": \"\\t\"\x7d" ∧
    ∃ ls p, tokenize varied.text = .ok (ls ++ [⟨.endOfInput, p⟩]) ∧ ∀ fuel, ls.length < fuel →
      readLiteral fuel ⟨ls ++ [⟨.endOfInput, p⟩], none⟩ =
        .ok (varied, ⟨[⟨.endOfInput, p⟩], none⟩) := by
  have hzero : Decimal.IsToken ⟨false, 0, 1⟩ := .of_fits rfl (by decide) (by decide)
  have hscaled : Decimal.IsToken ⟨false, 150, 2⟩ := .of_fits rfl (by decide) (by decide)
  have hlowest : (-9223372036854775807 : Int).natAbs < Nat.pow 2 63 := by decide
  have hlist : ItemsWritable [.int (-9223372036854775807), .float ⟨true, 0, 1⟩,
      .float ⟨false, 150, 2⟩, .list [.null, .bool true]] :=
    ⟨hlowest, ⟨by decide, .inr hzero⟩, ⟨by decide, .inl hscaled⟩,
      ⟨trivial, trivial, trivial⟩, trivial⟩
  have hwritable : varied.Writable :=
    ⟨by decide, List.all_eq_true.mp (by decide), hlist, List.all_eq_true.mp (by decide),
      ⟨by decide, trivial⟩, List.all_eq_true.mp (by decide), List.all_eq_true.mp (by decide),
      trivial⟩
  exact ⟨hwritable, by decide +kernel, readLiteral_text varied hwritable⟩

end Literal

end Extractor
