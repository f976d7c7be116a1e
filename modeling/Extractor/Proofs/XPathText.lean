import Extractor.Proofs.SelectorText
import Extractor.Proofs.XPathRecogniser
import Extractor.XPath.OfCss

/-!
# Extractor.Proofs.XPathText

Phrases of the XPath grammar as texts. `Scans` is cutting a text into tokens
without a bound on their number, and a text whose tokens derive from the grammar
is accepted (`Scans.checkSyntax`). Where a token ends depends on what follows it,
so `Spells follows symbol text` says that the text is a phrase of the symbol in
front of every text that `follows` allows: behind names and numbers that is one
that does not run into them (`Breaks`), behind closing brackets and quotes it is
any text. There is one theorem for each production that texts are put together
with.
-/

namespace Extractor.XPath

open Outcome

/-! ## cutting texts into tokens -/

/-- The text is cut into the tokens. White space may stand anywhere between them. -/
inductive Scans : List Char → List Token → Prop
  | nil : Scans [] []
  | blank {c cs us} (hc : Text.isBlank c = true) (h : Scans cs us) : Scans (c :: cs) us
  | token {c piece rest t us} (hc : Text.isBlank c = false)
      (ht : readToken c (piece ++ rest) = .ok (t, rest)) (h : Scans rest us) :
      Scans (c :: (piece ++ rest)) (t :: us)

/-- No text is read as the end of the query. -/
theorem readToken_ne_end {c : Char} {cs rest : List Char} {t : Token}
    (h : readToken c cs = .ok (t, rest)) : t ≠ .endOfQuery := by
  have hsingle : ∀ c, single? c ≠ some .endOfQuery := fun c => by unfold single?; split <;> simp
  have hdouble : ∀ c d, double? c d ≠ some .endOfQuery := fun c d => by
    unfold double?
    split <;> simp
  rintro rfl
  unfold readToken at h
  split at h
  · next hpair =>
      cases h
      obtain ⟨d, -, hd⟩ := Option.bind_eq_some_iff.mp hpair
      exact hdouble c d hd
  · split at h
    · cases h
    · split at h
      · next hmark =>
          cases h
          exact hsingle c hmark
      · split at h
        · split at h <;> cases h
        · split at h <;> cases h

namespace Scans

variable {cs rest : List Char} {us vs : List Token}

/-- A text that consists of tokens is cut into them. -/
theorem scanFrom_eq (h : Scans cs us) (size : Nat) {fuel : Nat} (hfuel : cs.length < fuel) :
    ∃ ts, scanFrom size fuel cs = .ok ts ∧ ts.map Lexeme.token = us ++ [Token.endOfQuery] := by
  induction h generalizing fuel with
  | nil =>
      obtain ⟨fuel, rfl⟩ : ∃ k, fuel = k + 1 := ⟨fuel - 1, by omega⟩
      exact ⟨_, rfl, rfl⟩
  | @blank c cs us hc _ ih =>
      obtain ⟨fuel, rfl⟩ : ∃ k, fuel = k + 1 := ⟨fuel - 1, by omega⟩
      rw [scanFrom, List.dropWhile_cons_of_pos hc, ← scanFrom]
      exact ih (Nat.lt_of_succ_lt hfuel)
  | @token c piece rest t us hc ht _ ih =>
      obtain ⟨fuel, rfl⟩ : ∃ k, fuel = k + 1 := ⟨fuel - 1, by omega⟩
      simp only [List.length_cons, List.length_append] at hfuel
      obtain ⟨others, hscan, htokens⟩ := @ih fuel (by omega)
      rw [scanFrom, List.dropWhile_cons_of_neg (by simp [hc])]
      simp only [ht, hscan, ok_bind]
      exact ⟨_, rfl, congrArg (t :: ·) htokens⟩

/-- The end of the query is no token of the text. -/
theorem no_end (h : Scans cs us) : .endOfQuery ∉ us := by
  induction h with
  | nil => simp
  | blank _ _ ih => exact ih
  | token _ ht _ ih =>
      rw [List.mem_cons, not_or]
      exact ⟨(readToken_ne_end ht).symm, ih⟩

theorem eq_nil_of_blank (h : Scans cs us) (hblank : ∀ c ∈ cs, Text.isBlank c = true) : us = [] := by
  induction h with
  | nil => rfl
  | blank _ _ ih => exact ih (List.forall_mem_cons.mp hblank).2
  | token hc _ _ _ =>
      rw [hblank _ List.mem_cons_self] at hc
      contradiction

/-- **A text is accepted if its tokens derive from the grammar.** -/
theorem checkSyntax (h : Scans cs us) (hderives : Derives .expression us []) :
    XPath.checkSyntax (String.ofList cs) = .ok () := by
  have hne : us ≠ [] := by
    rintro rfl
    exact Nat.lt_irrefl 0 (hderives.length_lt nofun)
  have hblank : Text.isBlankString (String.ofList cs) = false := by
    rw [Text.isBlankString, String.toList_ofList, Bool.eq_false_iff]
    exact fun hall => hne (h.eq_nil_of_blank (List.all_eq_true.mp hall))
  obtain ⟨ts, hscan, htokens⟩ := h.scanFrom_eq cs.length (Nat.lt_succ_self _)
  have hm : Marks ts us := ⟨htokens, h.no_end⟩
  obtain ⟨rest, hrest, hread⟩ := hderives.reads.expression_end (Nat.zero_le 1) hm
  have hlength := hm.length
  have hcurrent : current rest = .endOfQuery := hrest.current_eq
  rw [XPath.checkSyntax, if_neg (by simp [hblank]), String.toList_ofList, scan, hscan, ok_bind,
    recognise, hread _ (by omega), ok_bind, if_pos hcurrent]
  rfl

end Scans

/-! ## texts of tokens -/

/-- The text is cut into the tokens wherever it stands in front of a text that may follow. -/
def Lexes (follows : List Char → Prop) (text : List Char) (us : List Token) : Prop :=
  ∀ rest vs, follows rest → Scans rest vs → Scans (text ++ rest) (us ++ vs)

/-- Any text may follow. -/
def Anything (_ : List Char) : Prop := True

/-- What may follow a name or a number: the first character does not go on with it. -/
def Breaks (rest : List Char) : Prop := ∀ c ∈ rest.head?, isNamePart c = false ∧ c ≠ ':'

theorem breaks_cons {c : Char} {cs : List Char} (h : isNamePart c = false ∧ c ≠ ':') :
    Breaks (c :: cs) :=
  fun _ hd => Option.some.inj hd ▸ h

/-- A character that starts no token of two is not one together with what follows. -/
theorem double?_eq_none {c d : Char} (hc : c ∉ "/:!<>.".toList) : double? c d = none := by
  unfold double?
  split <;> first | rfl | exact absurd (by decide) hc

/-- A character that starts no pair is read alone. -/
theorem bind_double?_eq_none {c : Char} (hc : c ∉ "/:!<>.".toList) (next : Option Char) :
    next.bind (double? c) = none := by
  cases next with
  | none => rfl
  | some d => exact double?_eq_none hc

namespace Lexes

variable {follows follows' : List Char → Prop} {text text' rest : List Char} {us us' : List Token}

theorem mono (h : Lexes follows text us) (hfollows : ∀ rest, follows' rest → follows rest) :
    Lexes follows' text us :=
  fun rest vs hrest => h rest vs (hfollows rest hrest)

/-- Texts one behind the other have the tokens of both, if the second may follow the first. -/
theorem append (h : Lexes follows text us) (h' : Lexes follows' text' us')
    (hfollows : ∀ rest, follows' rest → follows (text' ++ rest)) :
    Lexes follows' (text ++ text') (us ++ us') := fun rest vs hrest hscans => by
  rw [List.append_assoc, List.append_assoc]
  exact h _ _ (hfollows rest hrest) (h' rest vs hrest hscans)

theorem nil : Lexes follows [] [] := fun _ _ _ hscans => hscans

theorem blank : Lexes Anything [' '] [] := fun _ _ _ hscans => .blank (by decide) hscans

/-- Two characters that are one token. -/
theorem pair {c d : Char} {t : Token} (hc : Text.isBlank c = false) (hpair : double? c d = some t) :
    Lexes Anything [c, d] [t] := by
  intro rest vs _ hscans
  refine @Scans.token c [d] rest t vs hc ?_ hscans
  rw [List.singleton_append, readToken, List.head?_cons, Option.bind_some, hpair]
  rfl

/-- One character that is a token on its own, unless it is one together with what follows. -/
theorem character {c : Char} {t : Token} (hsingle : single? c = some t) (hdot : c ≠ '.') :
    Lexes (fun rest => ∀ d ∈ rest.head?, double? c d = none) [c] [t] := by
  intro rest vs hdouble hscans
  have hall : ∀ c ∈ "/[]()@,|+-=*$<>.".toList, Text.isBlank c = false ∧
      Text.isAsciiDigit c = false := Text.forall_mem_of_all (by decide)
  have hmem : c ∈ "/[]()@,|+-=*$<>.".toList := by
    unfold single? at hsingle
    split at hsingle <;> first | decide | cases hsingle
  obtain ⟨hblank, hdigit⟩ := hall c hmem
  have hpair : rest.head?.bind (double? c) = none := by
    cases hhead : rest.head? with
    | none => rfl
    | some d => exact hdouble d hhead
  refine @Scans.token c [] rest t vs hblank ?_ hscans
  rw [List.nil_append, readToken, hpair]
  dsimp only
  rw [if_neg (by simp [hdigit, hdot]), hsingle]

/-- One character that is a token on its own in any case. -/
theorem mark {c : Char} {t : Token} (hsingle : single? c = some t) (hc : c ∉ "/:!<>.".toList) :
    Lexes Anything [c] [t] := by
  have hdot : c ≠ '.' := by
    rintro rfl
    exact hc (by decide)
  exact (character hsingle hdot).mono fun _ _ _ _ => double?_eq_none hc

/-- A text between two characters that are tokens on their own. -/
theorem enclosed {c d : Char} {t u : Token} (hc : single? c = some t ∧ c ∉ "/:!<>.".toList)
    (hd : single? d = some u ∧ d ∉ "/:!<>.".toList) (hbreaks : isNamePart d = false ∧ d ≠ ':')
    (h : Lexes Breaks text us) : Lexes Anything (c :: (text ++ [d])) (t :: (us ++ [u])) := by
  have hclose := h.append (mark hd.1 hd.2) fun _ _ => breaks_cons hbreaks
  exact (mark hc.1 hc.2).append hclose fun _ _ => trivial

/-- What is enclosed stands apart from what follows. -/
theorem parentheses (h : Lexes Breaks text us) :
    Lexes Anything ('(' :: (text ++ [')'])) (Token.leftParen :: (us ++ [Token.rightParen])) :=
  enclosed (by decide) (by decide) (by decide) h

theorem brackets (h : Lexes Breaks text us) :
    Lexes Anything ('[' :: (text ++ [']'])) (Token.leftBracket :: (us ++ [Token.rightBracket])) :=
  enclosed (by decide) (by decide) (by decide) h

/-- A slash, behind which there is no second one. -/
theorem slash : Lexes (fun rest => rest.head? ≠ some '/') ['/'] [.slash] := by
  refine (character rfl (by decide)).mono fun rest hrest d hd => ?_
  have hne : d ≠ '/' := by
    rintro rfl
    exact hrest hd
  unfold double?
  split <;> simp_all

end Lexes

/-! ### names -/

/-- What may follow a name: a text that does not go on with it, or the colons behind an axis. -/
def EndsName (rest : List Char) : Prop := Breaks rest ∨ ∃ cs, rest = ':' :: ':' :: cs

/-- A name is read up to what cannot go on with it. -/
theorem readName_append {name rest : List Char} (hname : ∀ c ∈ name, isNamePart c = true)
    (hrest : EndsName rest) : readName (name ++ rest) = (name, rest) := by
  have hpart : ∀ c ∈ rest.head?, isNamePart c = false := by
    obtain hbreaks | ⟨cs, rfl⟩ := hrest
    · exact fun c hc => (hbreaks c hc).1
    · exact fun c hc => Option.some.inj hc ▸ by decide
  rw [readName, Text.span_append hname hpart]
  dsimp only
  obtain hbreaks | ⟨cs, rfl⟩ := hrest
  · split
    · exact absurd rfl (hbreaks ':' rfl).2
    · exact absurd rfl (hbreaks ':' rfl).2
    · rfl
  · rfl

/-- No plain character starts a pair of signs. -/
theorem not_mem_of_isPlainChar {c : Char} (h : Css.isPlainChar c = true) :
    c ∉ "/:!<>.".toList := by
  obtain ⟨n, hn, rfl⟩ := Css.exists_ofNat_of_isPlainChar h
  revert n
  decide

/-- What starts a plain name is read as the start of a name. -/
theorem of_isPlainStart {c : Char} (h : Css.isPlainStart c = true) : Text.isAsciiDigit c = false ∧
    single? c = none ∧ (c = '"' || c = '\'') = false ∧ isNameStart c = true := by
  obtain ⟨n, hn, rfl⟩ := Css.exists_ofNat_of_isPlainChar (Css.isPlainChar_of_isPlainStart h)
  revert n
  decide

theorem isNamePart_of_isPlainChar {c : Char} (h : Css.isPlainChar c = true) :
    isNamePart c = true := by
  obtain ⟨n, hn, rfl⟩ := Css.exists_ofNat_of_isPlainChar h
  revert n
  decide

/-- A name is one token, up to what may follow it. -/
theorem readToken_name {c : Char} {name rest : List Char} (hname : Css.isName (c :: name) = true)
    (hrest : EndsName rest) :
    readToken c (name ++ rest) = .ok (.name (String.ofList (c :: name)), rest) := by
  have hparts : ∀ d ∈ c :: name, isNamePart d = true := fun d hd =>
    isNamePart_of_isPlainChar (Css.isPlainChar_of_isName hname d hd)
  have hread := readName_append hparts hrest
  rw [Css.isName, Bool.and_eq_true] at hname
  have hspecial := not_mem_of_isPlainChar (Css.isPlainChar_of_isPlainStart hname.1)
  obtain ⟨hdigit, hsingle, hquote, hstart⟩ := of_isPlainStart hname.1
  have hdot : c ≠ '.' := by
    rintro rfl
    exact hspecial (by decide)
  rw [readToken, bind_double?_eq_none hspecial]
  dsimp only
  rw [if_neg (by simp [hdigit, hdot]), hsingle]
  dsimp only
  rw [if_neg (by simp [hquote]), if_pos hstart]
  rw [List.cons_append] at hread
  rw [hread]

namespace Lexes

/-- A plain name is one token, where it ends. -/
theorem name {name : List Char} (hname : Css.isName name = true) :
    Lexes EndsName name [.name (String.ofList name)] := by
  intro rest vs hrest hscans
  cases name with
  | nil => contradiction
  | cons c name =>
      have hplain := Css.isPlainChar_of_isName hname c List.mem_cons_self
      exact .token (Css.of_isPlainChar hplain).2.2 (readToken_name hname hrest) hscans

theorem word {name : List Char} (hname : Css.isName name = true) :
    Lexes Anything (' ' :: (name ++ [' '])) [.name (String.ofList name)] :=
  blank.append ((Lexes.name hname).append blank fun _ _ => .inl (breaks_cons (by decide)))
    fun _ _ => trivial

end Lexes

/-! ### literals and numbers -/

/-- A literal is skipped up to its quote. -/
theorem skipLiteral?_append {quote : Char} {value rest : List Char} (h : quote ∉ value) :
    skipLiteral? quote (value ++ quote :: rest) = some rest := by
  induction value with
  | nil => rw [List.nil_append, skipLiteral?, if_pos rfl]
  | cons c value ih =>
      obtain ⟨hc, hvalue⟩ := List.ne_and_not_mem_of_not_mem_cons h
      rw [List.cons_append, skipLiteral?, if_neg hc.symm, ih hvalue]

/-- A text in quotes is one token, whatever follows. -/
theorem Lexes.quoted {quote : Char} {value : List Char} (hquote : quote = '"' ∨ quote = '\'')
    (h : quote ∉ value) : Lexes Anything (quote :: (value ++ [quote])) [.literal] := by
  intro rest vs _ hscans
  have hskip : skipLiteral? quote (value ++ [quote] ++ rest) = some rest := by
    rw [List.append_assoc, List.singleton_append, skipLiteral?_append h]
  have hread : readToken quote (value ++ [quote] ++ rest) = .ok (.literal, rest) := by
    rw [readToken, bind_double?_eq_none (by obtain rfl | rfl := hquote <;> decide), hskip]
    obtain rfl | rfl := hquote <;> rfl
  exact .token (by obtain rfl | rfl := hquote <;> decide) hread hscans

theorem Lexes.literal {value : List Char} (h : ¬('"' ∈ value ∧ '\'' ∈ value)) :
    Lexes Anything (literal value) [.literal] := by
  unfold XPath.literal
  split
  · next hsingle => exact quoted (.inl rfl) fun hdouble => h ⟨hdouble, hsingle⟩
  · next hsingle => exact quoted (.inr rfl) hsingle

/-- A number is skipped up to what is no digit. -/
theorem skipNumber_append {digits rest : List Char}
    (hdigits : ∀ c ∈ digits, Text.isAsciiDigit c = true) (hrest : Breaks rest) :
    skipNumber (digits ++ rest) = rest := by
  have hdrop : rest.dropWhile Text.isAsciiDigit = rest := by
    cases rest with
    | nil => rfl
    | cons c rest =>
        refine List.dropWhile_cons_of_neg fun hdigit => ?_
        have hpart := isNamePart_of_isPlainChar (Css.isPlainChar_of_isAsciiDigit hdigit)
        rw [(hrest c rfl).1] at hpart
        contradiction
  rw [skipNumber, List.dropWhile_append_of_pos hdigits, hdrop]
  split
  · exact absurd (hrest '.' rfl).1 (by decide)
  · rfl

/-- A numeral is one token, where it ends. -/
theorem Lexes.numeral (n : Nat) : Lexes Breaks (numeral n) [.number] := by
  intro rest vs hrest hscans
  have hdigits : ∀ c ∈ Nat.toDigits 10 n, Text.isAsciiDigit c = true := fun c hc =>
    Nat.isDigit_of_mem_toDigits (by decide) (by decide) hc
  have hskip := skipNumber_append hdigits hrest
  obtain ⟨c, digits, hnumeral⟩ := List.exists_cons_of_ne_nil (@Nat.toDigits_ne_nil n 10)
  rw [hnumeral] at hdigits hskip
  have hdigit := hdigits c List.mem_cons_self
  have hplain := Css.isPlainChar_of_isAsciiDigit hdigit
  have hread : readToken c (digits ++ rest) = .ok (.number, rest) := by
    rw [readToken, bind_double?_eq_none (not_mem_of_isPlainChar hplain)]
    dsimp only
    rw [if_pos (by simp [hdigit]), ← List.cons_append, hskip]
  rw [XPath.numeral, hnumeral]
  exact .token (Css.of_isPlainChar hplain).2.2 hread hscans

/-! ## texts of phrases -/

/-- The text is a phrase of the symbol wherever it stands in front of a text that may follow. -/
def Spells (follows : List Char → Prop) (s : Symbol) (text : List Char) : Prop :=
  ∃ us, (∀ vs, Derives s (us ++ vs) vs) ∧ Lexes follows text us

/-- A union of paths is an operand of every operator. -/
theorem Derives.binary_of_union {us vs : List Token} (h : Derives .union us vs) (b : Binary) :
    Derives (.binary b) us vs := by
  have hmultiplicative : Derives (.binary .multiplicative) us vs := .operand (.positive h)
  have hadditive : Derives (.binary .additive) us vs := .operand hmultiplicative
  have hrelational : Derives (.binary .relational) us vs := .operand hadditive
  have hequality : Derives (.binary .equality) us vs := .operand hrelational
  have hand : Derives (.binary .and) us vs := .operand hequality
  cases b with
  | multiplicative => exact hmultiplicative
  | additive => exact hadditive
  | relational => exact hrelational
  | equality => exact hequality
  | and => exact hand
  | or => exact .operand hand

namespace Spells

variable {follows follows' : List Char → Prop} {s : Symbol} {text left right : List Char}

theorem mono (h : Spells follows s text) (hfollows : ∀ rest, follows' rest → follows rest) :
    Spells follows' s text := by
  obtain ⟨us, hderives, hlexes⟩ := h
  exact ⟨us, hderives, hlexes.mono hfollows⟩

/-- A phrase of one symbol is one of every symbol that derives it. -/
theorem ofDerives {s' : Symbol} (h : Spells follows s text)
    (hs : ∀ {us vs}, Derives s us vs → Derives s' us vs) : Spells follows s' text := by
  obtain ⟨us, hderives, hlexes⟩ := h
  exact ⟨us, fun vs => hs (hderives vs), hlexes⟩

/-- A path is an operand of every operator. -/
theorem operand (h : Spells follows .path text) (b : Binary) : Spells follows (.binary b) text :=
  h.ofDerives fun hpath => (Derives.single hpath).binary_of_union b

theorem loosen {b : Binary} (h : Spells follows b.operand text) : Spells follows (.binary b) text :=
  h.ofDerives .operand

/-! ### expressions -/

/-- A literal is a path, and so is a number. -/
theorem literal {value : List Char} (h : ¬('"' ∈ value ∧ '\'' ∈ value)) :
    Spells Anything .path (literal value) :=
  ⟨[.literal], fun _ => .filter (.primary .literal), .literal h⟩

theorem numeral (n : Nat) : Spells Breaks .path (numeral n) :=
  ⟨[.number], fun _ => .filter (.primary .number), .numeral n⟩

/-- An operator between two operands. -/
theorem operator {b : Binary} {op : Token} {sign : List Char}
    (hleft : Spells follows (.binary b) left) (hop : op ∈ b.operators)
    (hsign : Lexes Anything sign [op]) (hright : Spells follows' b.operand right)
    (hfollows : ∀ rest, follows (sign ++ rest)) :
    Spells follows' (.binary b) (left ++ (sign ++ right)) := by
  obtain ⟨us, hus, hleft⟩ := hleft
  obtain ⟨vs, hvs, hright⟩ := hright
  refine ⟨us ++ ([op] ++ vs), fun rest => ?_, ?_⟩
  · rw [List.append_assoc, List.append_assoc]
    exact .operator hop (hus _) (hvs rest)
  · refine hleft.append (hsign.append hright fun _ _ => trivial) fun rest _ => ?_
    rw [List.append_assoc]
    exact hfollows _

/-- An expression in parentheses is a path. -/
theorem parentheses (h : Spells Breaks .expression text) :
    Spells Anything .path ('(' :: (text ++ [')'])) := by
  obtain ⟨us, hus, htext⟩ := h
  refine ⟨Token.leftParen :: (us ++ [Token.rightParen]), fun rest => ?_, htext.parentheses⟩
  rw [List.cons_append, List.append_assoc]
  exact .filter (.primary (.parentheses (hus _)))

/-- A function without arguments. -/
theorem call {name : List Char} (hname : Css.isName name = true)
    (hfunction : String.ofList name ∉ nodeTypes) : Spells Anything .path (name ++ ['(', ')']) := by
  refine ⟨[Token.name (String.ofList name)] ++ [Token.leftParen, Token.rightParen],
    fun rest => ?_, ?_⟩
  · exact .filter (.primary (.call hfunction))
  · exact (Lexes.name hname).append (Lexes.parentheses .nil) fun _ _ =>
      .inl (breaks_cons (by decide))

/-- A function and its arguments. -/
theorem callWith {name : List Char} (hname : Css.isName name = true)
    (hfunction : String.ofList name ∉ nodeTypes) (h : Spells Breaks .arguments text) :
    Spells Anything .path (name ++ '(' :: (text ++ [')'])) := by
  obtain ⟨us, hus, htext⟩ := h
  refine ⟨[Token.name (String.ofList name)] ++ (Token.leftParen :: (us ++ [Token.rightParen])),
    fun rest => ?_, ?_⟩
  · simp only [List.append_assoc, List.cons_append]
    exact .filter (.primary (.callWith hfunction (hus _)))
  · exact (Lexes.name hname).append htext.parentheses fun _ _ => .inl (breaks_cons (by decide))

theorem argument (h : Spells follows .expression text) : Spells follows .arguments text :=
  h.ofDerives .argument

/-- An argument may be put before others. -/
theorem arguments (hfirst : Spells Breaks .expression left)
    (hothers : Spells follows .arguments right) :
    Spells follows .arguments (left ++ (", ".toList ++ right)) := by
  obtain ⟨us, hus, hleft⟩ := hfirst
  obtain ⟨vs, hvs, hright⟩ := hothers
  have hcomma : Lexes Anything ", ".toList ([Token.comma] ++ []) :=
    (Lexes.mark rfl (by decide)).append .blank fun _ _ => trivial
  refine ⟨us ++ ([Token.comma] ++ vs), fun rest => ?_, ?_⟩
  · rw [List.append_assoc, List.append_assoc]
    exact .arguments (hus _) (hvs rest)
  · exact hleft.append (hcomma.append hright fun _ _ => trivial) fun _ _ => breaks_cons (by decide)

/-! ### steps -/

theorem noPredicates : Spells follows .predicates [] := ⟨[], fun _ => .noPredicates, .nil⟩

/-- A test in brackets may be put before other predicates. -/
theorem predicates {test others : List Char} (htest : Spells Breaks .expression test)
    (hothers : Spells follows .predicates others) :
    Spells follows .predicates ('[' :: (test ++ [']']) ++ others) := by
  obtain ⟨us, hus, htest⟩ := htest
  obtain ⟨vs, hvs, hothers⟩ := hothers
  refine ⟨Token.leftBracket :: (us ++ [Token.rightBracket]) ++ vs, fun rest => ?_, ?_⟩
  · simp only [List.append_assoc, List.cons_append]
    exact .predicates (.predicate (hus _)) (hvs rest)
  · exact htest.brackets.append hothers fun _ _ => trivial

/-- An axis, a node test and predicates. -/
theorem step {axis test others : List Char} {as ts : List Token} (hisAxis : IsAxis as)
    (haxis : Lexes Anything axis as) (hisTest : IsNodeTest ts) (htest : Lexes Breaks test ts)
    (hothers : Spells follows .predicates others)
    (hfollows : ∀ rest, follows rest → Breaks (others ++ rest)) :
    Spells follows .step (axis ++ (test ++ others)) := by
  obtain ⟨us, hus, hothers⟩ := hothers
  refine ⟨as ++ (ts ++ us), fun rest => ?_, ?_⟩
  · rw [List.append_assoc, List.append_assoc]
    exact .test hisAxis hisTest (hus rest)
  · exact haxis.append (htest.append hothers hfollows) fun _ _ => trivial

/-- A step behind a path. -/
theorem steps (hpath : Spells Breaks .relative left) (hstep : Spells follows .step right)
    (hhead : ∀ rest, (right ++ rest).head? ≠ some '/') :
    Spells follows .relative (left ++ '/' :: right) := by
  obtain ⟨us, hus, hleft⟩ := hpath
  obtain ⟨vs, hvs, hright⟩ := hstep
  refine ⟨us ++ ([Token.slash] ++ vs), fun rest => ?_, ?_⟩
  · rw [List.append_assoc, List.append_assoc]
    exact .steps (by decide) (hus _) (hvs rest)
  · exact hleft.append (Lexes.slash.append hright fun rest _ => hhead rest) fun _ _ =>
      breaks_cons (by decide)

/-- A path that starts anywhere below the root. -/
theorem everywhere (h : Spells follows .relative text) :
    Spells follows .location ("//".toList ++ text) := by
  obtain ⟨us, hus, htext⟩ := h
  exact ⟨[Token.doubleSlash] ++ us, fun rest => .absolute (by decide) (hus rest),
    (Lexes.pair (by decide) rfl).append htext fun _ _ => trivial⟩

/-- A path may be put behind a bar. -/
theorem bar (hleft : Spells Breaks .union left) (hright : Spells follows .path right) :
    Spells follows .union (left ++ (" | ".toList ++ right)) := by
  obtain ⟨us, hus, hleft⟩ := hleft
  obtain ⟨vs, hvs, hright⟩ := hright
  have hpipe : Lexes Anything " | ".toList ([] ++ ([Token.pipe] ++ [])) :=
    Lexes.blank.append ((Lexes.mark rfl (by decide)).append .blank fun _ _ => trivial) fun _ _ =>
      trivial
  refine ⟨us ++ ([Token.pipe] ++ vs), fun rest => ?_, ?_⟩
  · rw [List.append_assoc, List.append_assoc]
    exact .bar (hus _) (hvs rest)
  · exact hleft.append (hpipe.append hright fun _ _ => trivial) fun _ _ => breaks_cons (by decide)

/-- **A text that is an expression is accepted.** -/
theorem checkSyntax (h : Spells follows .expression text) (hfollows : follows []) :
    XPath.checkSyntax (String.ofList text) = .ok () := by
  obtain ⟨us, hus, htext⟩ := h
  have hscans := htext [] [] hfollows .nil
  rw [List.append_nil, List.append_nil] at hscans
  have hderives := hus []
  rw [List.append_nil] at hderives
  exact hscans.checkSyntax hderives

end Spells

end Extractor.XPath
