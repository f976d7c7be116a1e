import Extractor.Proofs.Characters
import Extractor.Proofs.Outcome
import Extractor.Source.Lexer

/-!
# Extractor.Proofs.Lexing

What a text is cut into, read off from its front. `Leads cs tokens rest` says
that the text gives these tokens, and then what the rest gives, from any place
on; there is one lemma for each thing that may stand in front: white space, a
single character that is a token (`Leads.punctuation`), a word (`Leads.word`) and
a text between double quotes (`Leads.quoted`). Places do not matter to what is
read, and so they do not show. With the rest the whole text is cut to its end
(`Leads.scans`), or it cannot be (`Leads.fails`).
-/

namespace Extractor

open Outcome

namespace Lexer

variable {p : Position} {c : Char} {cs rest body : List Char} {token : Token}

/-! ## pieces of tokens -/

/-- White space in front is skipped. -/
theorem next_blank [Libraries] (hc : Text.isBlank c = true) :
    next ⟨p, c :: cs⟩ = next ⟨p.advance c, cs⟩ := by
  have hskip : skipTrivia false p (c :: cs) = skipTrivia false (p.advance c) cs := by
    simp [skipTrivia, hc]
  rw [next, next, hskip]

/-- Anything else in front is read as a token, comments aside. -/
theorem next_cons [Libraries] (hblank : Text.isBlank c = false) (hcomment : c ≠ '#') :
    next ⟨p, c :: cs⟩ = (readToken p c cs).map fun read => (⟨read.1, p⟩, read.2) := by
  have hskip : skipTrivia false p (c :: cs) = ⟨p, c :: cs⟩ := by
    simp [skipTrivia, hblank, hcomment]
  rw [next, hskip]
  cases hread : readToken p c cs with
  | error e =>
      simp only [hread]
      rfl
  | ok read =>
      simp only [hread]
      rfl

theorem next_token [Libraries] {after : Cursor} (hblank : Text.isBlank c = false)
    (hcomment : c ≠ '#') (hread : readToken p c cs = .ok (token, after)) :
    next ⟨p, c :: cs⟩ = .ok (⟨token, p⟩, after) := by
  rw [next_cons hblank hcomment, hread]
  rfl

/-- Signs are visible, start no comment and are not the end of input. -/
theorem punctuation?_eq_some (h : punctuation? c = some token) :
    Text.isBlank c = false ∧ c ≠ '#' ∧ token ≠ .endOfInput := by
  unfold punctuation? at h
  split at h <;> cases h <;> decide

theorem isQuote_of_isNamePart (h : isNamePart c = true) : isQuote c = false := by
  rw [isQuote, Bool.or_eq_false_iff, decide_eq_false_iff_not, decide_eq_false_iff_not]
  constructor <;> rintro rfl <;> exact absurd h (by decide)

theorem isNamePart_of_isNameStart (h : isNameStart c = true) : isNamePart c = true := by
  rw [isNameStart, Bool.or_eq_true] at h
  rw [isNamePart, Bool.or_eq_true, Text.isAlphanumeric, Bool.or_eq_true]
  exact h.imp .inl id

/-- What starts a name starts nothing else, but for raw strings. -/
theorem of_isNameStart (h : isNameStart c = true) :
    Text.isBlank c = false ∧ c ≠ '#' ∧ punctuation? c = none ∧ isQuote c = false := by
  have hblank : Text.isBlank c = false := by
    by_contra hblank
    have hnumeric := Text.isAlphanumeric_of_isBlank (by simpa using hblank)
    rw [Text.isAlphanumeric, Bool.or_eq_false_iff] at hnumeric
    rw [isNameStart, hnumeric.1, Bool.false_or, decide_eq_true_eq] at h
    subst h
    exact hblank (by decide)
  refine ⟨hblank, ?_, ?_, isQuote_of_isNamePart (isNamePart_of_isNameStart h)⟩
  · rintro rfl
    exact absurd h (by decide)
  · unfold punctuation?
    split <;> first | rfl | exact absurd h (by decide)

/-- A name is read up to the first character that cannot stand in one. -/
theorem readName_append (hbody : ∀ c ∈ body, isNamePart c = true)
    (hrest : ∀ c, rest.head? = some c → isNamePart c = false) :
    readName p (body ++ rest) = (body, ⟨p.after body, rest⟩) := by
  induction body generalizing p with
  | nil =>
      cases rest with
      | nil => rfl
      | cons c rest =>
          rw [List.nil_append, readName, if_neg (by simp [hrest c rfl])]
          rfl
  | cons c body ih =>
      obtain ⟨hc, hbody⟩ := List.forall_mem_cons.mp hbody
      rw [List.cons_append, readName, if_pos hc, ih hbody]
      rfl

/-! ## strings -/

/-- Whether a string may show the character: it stands for itself, or there is an escape for it that
can be read. -/
def isReadable (c : Char) : Bool :=
  c ∈ ['"', '\\', '\n', '\t', '\r'] || Text.escape c = [c]

section String

variable {opening : Position} {e : Char}

/-- A character is put in front of what has been read. -/
def precede (c : Char) (read : List Char × Cursor) : List Char × Cursor := (c :: read.1, read.2)

/-- Inside a string an escape is read as its character, and any other character as itself. -/
theorem readString_unescape (he : unescape? e = some c) :
    readString '"' opening p ('\\' :: e :: cs) =
      (readString '"' opening ((p.advance '\\').advance e) cs).map (precede c) := by
  simp only [readString, he]
  cases readString '"' opening ((p.advance '\\').advance e) cs <;> rfl

theorem readString_plain (hquote : c ≠ '"') (hbackslash : c ≠ '\\') :
    readString '"' opening p (c :: cs) =
      (readString '"' opening (p.advance c) cs).map (precede c) := by
  rw [readString.eq_4 _ _ _ _ _ (by simp [hbackslash]) (by simp [hbackslash]), if_neg hquote]
  cases readString '"' opening (p.advance c) cs <;> rfl

/-- A readable character is read from its written form. -/
theorem readString_escape (hc : isReadable c = true) :
    ∃ q, readString '"' opening p (Text.escape c ++ cs) =
      (readString '"' opening q cs).map (precede c) := by
  by_cases hescaped : c ∈ ['"', '\\', '\n', '\t', '\r']
  · simp only [List.mem_cons, List.not_mem_nil, or_false] at hescaped
    rcases hescaped with rfl | rfl | rfl | rfl | rfl <;> exact ⟨_, readString_unescape rfl⟩
  · rw [isReadable, decide_eq_false hescaped, Bool.false_or, decide_eq_true_eq] at hc
    simp only [List.mem_cons, not_or] at hescaped
    rw [hc]
    exact ⟨_, readString_plain hescaped.1 hescaped.2.1⟩

/-- Any other character has an escape that cannot be read. -/
theorem escape_of_not_isReadable (hc : isReadable c = false) :
    ∃ e more, Text.escape c = '\\' :: e :: more ∧ unescape? e = none := by
  rw [isReadable, Bool.or_eq_false_iff, decide_eq_false_iff_not, decide_eq_false_iff_not] at hc
  obtain ⟨hescaped, hc⟩ := hc
  simp only [List.mem_cons, List.not_mem_nil, or_false, not_or] at hescaped
  obtain ⟨hquote, hbackslash, hnewline, htab, hreturn⟩ := hescaped
  have hcode : ∃ e more, Text.codePointEscape c = '\\' :: e :: more ∧ unescape? e = none :=
    ⟨'u', _, rfl, rfl⟩
  simp only [Text.escape, hquote, hbackslash, hnewline, htab, hreturn, if_false] at hc ⊢
  split
  · exact ⟨'0', [], rfl, rfl⟩
  · next hnull =>
      rw [if_neg hnull] at hc
      split
      · exact hcode
      · next hextend =>
          rw [if_neg hextend] at hc
          split
          · next hprintable => exact absurd (if_pos hprintable) hc
          · exact hcode

/-- A quote starts a string. -/
theorem readToken_quote [Libraries] : readToken p '"' cs =
    (readString '"' p (p.advance '"') cs).map fun read =>
      (.string (String.ofList read.1), read.2) := by
  have hpunctuation : punctuation? '"' = none := rfl
  rw [readToken, hpunctuation]
  simp only [isQuote, decide_true, Bool.true_or, if_true]
  cases readString '"' p (p.advance '"') cs <;> rfl

/-- A text of readable characters is read from its written form. -/
theorem readString_quoted (hbody : ∀ c ∈ body, isReadable c = true) :
    ∃ q, readString '"' opening p (body.flatMap Text.escape ++ '"' :: rest) =
      .ok (body, ⟨q, rest⟩) := by
  induction body generalizing p with
  | nil => exact ⟨p.advance '"', rfl⟩
  | cons c body ih =>
      obtain ⟨hc, hbody⟩ := List.forall_mem_cons.mp hbody
      rw [List.flatMap_cons, List.append_assoc]
      obtain ⟨q, hq⟩ := readString_escape hc
      obtain ⟨r, hr⟩ := ih hbody
      exact ⟨r, by rw [hq, hr]; rfl⟩

/-- And no text with any other character is. -/
theorem readString_unreadable (hbody : ∃ c ∈ body, isReadable c = false) :
    ∃ e, readString '"' opening p (body.flatMap Text.escape ++ rest) = .error e := by
  induction body generalizing p with
  | nil => simp at hbody
  | cons c body ih =>
      rw [List.flatMap_cons, List.append_assoc]
      cases hc : isReadable c with
      | true =>
          obtain ⟨q, hq⟩ := readString_escape hc
          obtain ⟨e, he⟩ := ih (by simpa [hc] using hbody)
          exact ⟨e, by rw [hq, he]; rfl⟩
      | false =>
          obtain ⟨e, more, hescape, he⟩ := escape_of_not_isReadable hc
          refine ⟨.invalidEscape e p, ?_⟩
          rw [hescape, List.cons_append, List.cons_append]
          simp only [readString, he]

end String

end Lexer

/-! ## tokens -/

theorem Token.ofWord_ne_endOfInput (word : String) : ofWord word ≠ .endOfInput := by
  unfold ofWord
  split <;> nofun

/-- Names are read with nothing else in them. -/
theorem Lexer.isNamePart_of_readName {p : Position} {cs : List Char} :
    ∀ c ∈ (readName p cs).1, isNamePart c = true := by
  induction cs generalizing p with
  | nil => exact List.forall_mem_nil _
  | cons c cs ih =>
      rw [readName]
      split
      · next hc => exact List.forall_mem_cons.mpr ⟨hc, ih⟩
      · exact List.forall_mem_nil _

/-- The four kinds of tokens that can be read: single characters, strings, words and numbers. -/
theorem Lexer.readToken_cases [Libraries] {p : Position} {c : Char} {cs : List Char} {token : Token}
    {after : Cursor} (h : readToken p c cs = .ok (token, after)) :
    punctuation? c = some token ∨ (∃ s, token = .string s) ∨
      (∃ name, isNameStart c = true ∧ (∀ d ∈ name, isNamePart d = true) ∧
        token = .ofWord (String.ofList (c :: name))) ∨
      ∃ digits fraction, numberToken p digits fraction = .ok token := by
  rw [readToken] at h
  split at h
  · next hpunctuation =>
      cases h
      exact .inl hpunctuation
  · refine .inr ?_
    split at h
    · obtain ⟨⟨body, after⟩, -, h⟩ := bind_eq_ok.mp h
      cases h
      exact .inl ⟨_, rfl⟩
    · split at h
      · obtain ⟨⟨body, after⟩, -, h⟩ := bind_eq_ok.mp h
        cases h
        exact .inl ⟨_, rfl⟩
      · refine .inr ?_
        split at h
        · next hstart =>
            rw [readName, if_pos (isNamePart_of_isNameStart hstart)] at h
            cases h
            exact .inl ⟨_, hstart, isNamePart_of_readName, rfl⟩
        · split at h
          · generalize readDigits false p (c :: cs) = read at h
            obtain ⟨digits, fraction, after⟩ := read
            obtain ⟨number, hnumber, h⟩ := bind_eq_ok.mp h
            cases h
            exact .inr ⟨digits, fraction, hnumber⟩
          · cases h

/-- What holds of every token that can be read, and of the end of input, holds of all the tokens of
a text. -/
theorem Lexed.forall_token [Libraries] {P : Token → Prop}
    (hread : ∀ p c cs token after, Lexer.readToken p c cs = .ok (token, after) → P token)
    (hend : P .endOfInput) (source : String) : ∀ l ∈ (ofString source).lexemes, P l.token := by
  have hrun : ∀ fuel cursor, ∀ l ∈ (ofCursor fuel cursor).lexemes, P l.token := by
    intro fuel
    induction fuel with
    | zero => exact fun _ => List.forall_mem_nil _
    | succ fuel ih =>
        intro cursor
        rw [ofCursor]
        split
        · exact List.forall_mem_nil _
        · next l after hnext =>
            have hl : P l.token := by
              simp only [Lexer.next] at hnext
              split at hnext
              · cases hnext
                exact hend
              · obtain ⟨⟨token, after⟩, htoken, hnext⟩ := bind_eq_ok.mp hnext
                cases hnext
                exact hread _ _ _ _ _ htoken
            split
            · exact List.forall_mem_singleton.mpr hl
            · exact List.forall_mem_cons.mpr ⟨hl, ih after⟩
  exact hrun _ _

/-- Cutting the text gives these tokens first, and then what cutting the rest gives, at whatever
places the two are. -/
def Leads [Libraries] (cs : List Char) (tokens : List Token) (rest : List Char) : Prop :=
  ∀ fuel p, cs.length < fuel → ∃ ls left q, rest.length < left ∧ ls.map Lexeme.token = tokens ∧
    Lexed.ofCursor fuel ⟨p, cs⟩ = ⟨ls ++ (Lexed.ofCursor left ⟨q, rest⟩).lexemes,
      (Lexed.ofCursor left ⟨q, rest⟩).failure⟩

namespace Leads

variable [Libraries]

variable {c : Char} {cs rest more body : List Char} {token : Token} {tokens others : List Token}

/-- Leading on is reflexive and transitive. -/
theorem refl : Leads cs [] cs := fun fuel p hfuel => ⟨[], fuel, p, hfuel, rfl, rfl⟩

theorem trans (h : Leads cs tokens rest) (hrest : Leads rest others more) :
    Leads cs (tokens ++ others) more := by
  intro fuel p hfuel
  obtain ⟨ls, left, q, hleft, htokens, hcut⟩ := h fuel p hfuel
  obtain ⟨ls', left', q', hleft', hothers, hcut'⟩ := hrest left q hleft
  refine ⟨ls ++ ls', left', q', hleft', by rw [List.map_append, htokens, hothers], ?_⟩
  rw [hcut, hcut', List.append_assoc]

/-- White space leads on without a token. -/
theorem blank (hc : Text.isBlank c = true) : Leads (c :: cs) [] cs := by
  intro fuel p hfuel
  cases fuel with
  | zero => contradiction
  | succ fuel =>
      refine ⟨[], fuel + 1, p.advance c, Nat.lt_of_succ_lt hfuel, rfl, ?_⟩
      rw [Lexed.ofCursor, Lexer.next_blank hc, ← Lexed.ofCursor]
      rfl

/-- The token in front is read. -/
theorem first (hblank : Text.isBlank c = false) (hcomment : c ≠ '#') (htoken : token ≠ .endOfInput)
    (hlength : rest.length ≤ cs.length)
    (hread : ∀ p, ∃ q, Lexer.readToken p c cs = .ok (token, ⟨q, rest⟩)) :
    Leads (c :: cs) [token] rest := by
  intro fuel p hfuel
  cases fuel with
  | zero => contradiction
  | succ fuel =>
      obtain ⟨q, hq⟩ := hread p
      rw [List.length_cons] at hfuel
      refine ⟨[⟨token, p⟩], fuel, q, by omega, rfl, ?_⟩
      rw [Lexed.ofCursor, Lexer.next_token hblank hcomment hq]
      simp only [htoken, if_false]
      rfl

/-- A character that is a token is read as such. -/
theorem punctuation (hc : Lexer.punctuation? c = some token) : Leads (c :: cs) [token] cs := by
  obtain ⟨hblank, hcomment, htoken⟩ := Lexer.punctuation?_eq_some hc
  refine .first hblank hcomment htoken Nat.le.refl fun p => ⟨p.advance c, ?_⟩
  rw [Lexer.readToken, hc]

/-- A word is read to its end, if nothing follows that continues it or makes it the mark of a raw
string. -/
theorem word (hstart : Lexer.isNameStart c = true) (hpart : ∀ d ∈ cs, Lexer.isNamePart d = true)
    (hrest : ∀ d, rest.head? = some d → Lexer.isNamePart d = false ∧ Lexer.isQuote d = false) :
    Leads (c :: cs ++ rest) [.ofWord (String.ofList (c :: cs))] rest := by
  obtain ⟨hblank, hcomment, hpunctuation, hquote⟩ := Lexer.of_isNameStart hstart
  refine .first hblank hcomment (Token.ofWord_ne_endOfInput _) (by simp) fun p => ?_
  have hname : Lexer.readName p (c :: cs ++ rest) = (c :: cs, ⟨p.after (c :: cs), rest⟩) := by
    have hfirst := Lexer.isNamePart_of_isNameStart hstart
    exact Lexer.readName_append (List.forall_mem_cons.mpr ⟨hfirst, hpart⟩) fun d hd =>
      (hrest d hd).1
  have hraw : (cs ++ rest).head?.any Lexer.isQuote = false := by
    cases cs with
    | nil =>
        cases hhead : rest.head? with
        | none => simp [hhead]
        | some d => simp [hhead, (hrest d hhead).2]
    | cons d cs =>
        simpa using Lexer.isQuote_of_isNamePart (hpart d List.mem_cons_self)
  refine ⟨p.after (c :: cs), ?_⟩
  rw [List.cons_append] at hname
  rw [List.append_eq, Lexer.readToken, hpunctuation]
  simp only [hquote, hraw, hstart, hname]
  simp

/-- A text between double quotes is read, if all its characters are readable. -/
theorem quoted (hbody : ∀ c ∈ body, Lexer.isReadable c = true) :
    Leads (Text.quotedChars body ++ rest) [.string (String.ofList body)] rest := by
  rw [Text.quotedChars, List.cons_append, List.append_assoc]
  have hlength : rest.length ≤ (body.flatMap Text.escape ++ (['"'] ++ rest)).length := by
    rw [List.length_append, List.length_append]
    omega
  refine .first (by decide) (by decide) (by simp) hlength fun p => ?_
  obtain ⟨q, hq⟩ := Lexer.readString_quoted hbody
  refine ⟨q, ?_⟩
  rw [Lexer.readToken_quote, List.singleton_append, hq]
  rfl

end Leads

/-- From any place on the text is cut into these tokens, of which the last is the end of input. -/
def Scans [Libraries] (cs : List Char) (tokens : List Token) : Prop :=
  ∀ fuel p, cs.length < fuel → ∃ lexemes, Lexed.ofCursor fuel ⟨p, cs⟩ = ⟨lexemes, none⟩ ∧
    lexemes.map Lexeme.token = tokens

/-- A text is cut if it leads on to one that is. -/
theorem Leads.scans [Libraries] {cs rest : List Char} {tokens others : List Token}
    (h : Leads cs tokens rest) (hrest : Scans rest others) : Scans cs (tokens ++ others) := by
  intro fuel p hfuel
  obtain ⟨ls, left, q, hleft, htokens, hcut⟩ := h fuel p hfuel
  obtain ⟨lexemes, hlexemes, hothers⟩ := hrest left q hleft
  refine ⟨ls ++ lexemes, ?_, by rw [List.map_append, htokens, hothers]⟩
  rw [hcut, hlexemes]

namespace Scans

variable [Libraries]

variable {c : Char} {cs rest body : List Char} {token : Token} {tokens : List Token}

theorem nil : Scans [] [.endOfInput] := by
  intro fuel p hfuel
  obtain ⟨fuel, rfl⟩ := Nat.exists_eq_add_of_lt hfuel
  exact ⟨[⟨.endOfInput, p⟩], by simp [Lexed.ofCursor, Lexer.next, Lexer.skipTrivia], rfl⟩

/-- The token in front is read, and then those of what is left. -/
theorem cons (hblank : Text.isBlank c = false) (hcomment : c ≠ '#') (htoken : token ≠ .endOfInput)
    (hlength : rest.length ≤ cs.length)
    (hread : ∀ p, ∃ q, Lexer.readToken p c cs = .ok (token, ⟨q, rest⟩)) (h : Scans rest tokens) :
    Scans (c :: cs) (token :: tokens) :=
  (Leads.first hblank hcomment htoken hlength hread).scans h

/-- A sign in front is one more token, and so is a string. -/
theorem punctuation (hc : Lexer.punctuation? c = some token) (h : Scans cs tokens) :
    Scans (c :: cs) (token :: tokens) := (Leads.punctuation hc).scans h

theorem quoted (hbody : ∀ c ∈ body, Lexer.isReadable c = true) (h : Scans rest tokens) :
    Scans (Text.quotedChars body ++ rest) (.string (String.ofList body) :: tokens) :=
  (Leads.quoted hbody).scans h

end Scans

/-- From any place on the text cannot be cut to its end. -/
def Fails [Libraries] (cs : List Char) : Prop :=
  ∀ fuel p, cs.length < fuel → (Lexed.ofCursor fuel ⟨p, cs⟩).failure ≠ none

/-- A text that leads on to one that cannot be cut cannot be cut. -/
theorem Leads.fails [Libraries] {cs rest : List Char} {tokens : List Token}
    (h : Leads cs tokens rest) (hrest : Fails rest) : Fails cs := by
  intro fuel p hfuel
  obtain ⟨ls, left, q, hleft, -, hcut⟩ := h fuel p hfuel
  rw [hcut]
  exact hrest left q hleft

/-- A text between double quotes cannot be read if one of its characters is not readable. -/
theorem Fails.unreadable [Libraries] {body rest : List Char}
    (hbody : ∃ c ∈ body, Lexer.isReadable c = false) :
    Fails (Text.quotedChars body ++ rest) := by
  intro fuel p hfuel
  cases fuel with
  | zero => contradiction
  | succ fuel =>
      rw [Text.quotedChars, List.cons_append, List.append_assoc]
      obtain ⟨e, he⟩ := Lexer.readString_unreadable hbody
      have hnext : Lexer.next ⟨p, '"' :: (body.flatMap Text.escape ++ (['"'] ++ rest))⟩ =
          .error e := by
        rw [Lexer.next_cons (by decide) (by decide), Lexer.readToken_quote, he]
        rfl
      rw [Lexed.ofCursor, hnext]
      simp

end Extractor
