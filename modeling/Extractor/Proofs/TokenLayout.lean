import Extractor.Libraries.Standard
import Extractor.Proofs.Lexing
import Mathlib.Data.List.DropRight

/-!
# Extractor.Proofs.TokenLayout

How tokens lie in a text. A text that can be cut is made up of gaps, which are
white space and comments, and of the spellings of its tokens; the place of a
token is counted off what stands before it (`Laid`). What a token is depends on
no more of what follows it than a line break cuts off (`Reads`), so that two
texts with a line break between them are cut into the tokens of the one and then
those of the other, further down (`tokenize_lines`).
-/

namespace Extractor

open Outcome

/-! ## places -/

namespace Position

variable {p q r : Position} {c : Char} {cs : List Char}

/-- On an earlier line, or further to the left on the same one. -/
def Before (p q : Position) : Prop := p.line < q.line ∨ p.line = q.line ∧ p.column < q.column

/-- The place some lines further down. -/
def down (lines : Nat) (p : Position) : Position := ⟨p.line + lines, p.column⟩

/-- The place behind a text from its start on: one line more than there are line breaks, and one
column more than there are characters behind the last of them. -/
def behind (text : List Char) : Position :=
  ⟨1 + text.count '\n', 1 + (text.rtakeWhile (· ≠ '\n')).length⟩

theorem after_append (cs others : List Char) : p.after (cs ++ others) = (p.after cs).after others :=
  List.foldl_append

/-- From the start, the place behind a text is given by the text alone. -/
theorem start_after (text : List Char) : start.after text = behind text := by
  induction text using List.reverseRecOn with
  | nil => rfl
  | append_singleton text c ih =>
      rw [after_append, ih, behind, behind, List.count_append, List.rtakeWhile_concat]
      by_cases hc : c = '\n'
      · subst hc
        simp [after, advance, Nat.add_assoc]
      · simp [after, advance, hc, Nat.add_assoc]

/-- Lines above a text move the places in it. -/
theorem down_after (lines : Nat) (cs : List Char) :
    (p.down lines).after cs = (p.after cs).down lines := by
  induction cs generalizing p with
  | nil => rfl
  | cons c cs ih =>
      have hadvance : (p.down lines).advance c = (p.advance c).down lines := by
        unfold advance
        split
        · simp [down, Nat.add_right_comm]
        · rfl
      exact (congrArg (after · cs) hadvance).trans ih

/-- A line break leads to the first column, below all the lines before it. -/
theorem start_after_newline (text : List Char) :
    start.after (text ++ ['\n']) = start.down (1 + text.count '\n') := by
  rw [start_after, behind, List.count_append, List.rtakeWhile_concat]
  simp [down, start, Nat.add_comm]

theorem Before.trans (hpq : p.Before q) (hqr : q.Before r) : p.Before r := by
  unfold Before at *
  omega

/-- Every character leads further. -/
theorem before_advance (p : Position) (c : Char) : p.Before (p.advance c) := by
  unfold advance
  split
  · exact .inl (Nat.lt_succ_self _)
  · exact .inr ⟨rfl, Nat.lt_succ_self _⟩

/-- A text that is not empty leads further. -/
theorem before_after (h : cs ≠ []) : p.Before (p.after cs) := by
  induction cs generalizing p with
  | nil => contradiction
  | cons c cs ih =>
      cases cs with
      | nil => exact before_advance p c
      | cons d cs => exact (before_advance p c).trans (ih (List.cons_ne_nil d cs))

end Position

/-- The token some lines further down. -/
def Lexeme.down (lines : Nat) (l : Lexeme) : Lexeme := ⟨l.token, l.position.down lines⟩

namespace Lexer

/-! ## what a reader sees of the text behind it -/

/-- The second text goes on like the first one up to its end, or to a line break from where on it
may be any text. -/
inductive Breaks : List Char → List Char → Prop
  | ends {rest : List Char} : Breaks rest []
  | newline {rest more : List Char} : Breaks rest ('\n' :: more)
  | same {c : Char} {rest tail : List Char} (h : Breaks rest tail) : Breaks (c :: rest) (c :: tail)

namespace Breaks

variable {c : Char} {rest tail : List Char}

theorem refl (rest : List Char) : Breaks rest rest := by
  induction rest with
  | nil => exact .ends
  | cons c rest ih => exact ih.same

/-- A common front changes nothing about what is cut behind it. -/
theorem append_left (h : Breaks rest tail) (body : List Char) :
    Breaks (body ++ rest) (body ++ tail) := by
  induction body with
  | nil => exact h
  | cons c body ih => exact ih.same

/-- What follows behind a line break does not matter. -/
theorem of_lines {more : List Char} (h : Breaks (rest ++ '\n' :: more) tail) :
    Breaks rest tail := by
  induction rest generalizing tail with
  | nil =>
      cases h with
      | ends => exact .ends
      | newline => exact .newline
      | same => exact .newline
  | cons c rest ih =>
      cases h with
      | ends => exact .ends
      | newline => exact .newline
      | same h => exact (ih h).same

/-- Only a newline can be in front of one text and not of the other. -/
theorem head (h : Breaks rest tail) (hc : tail.head? = some c) :
    c = '\n' ∨ rest.head? = some c := by
  cases h with
  | ends => contradiction
  | newline => exact .inl (Option.some.inj hc).symm
  | same => exact .inr hc

/-- A class of characters without the line break that is not met in the one text is not met in the
other. -/
theorem head_any {f : Char → Bool} (h : Breaks rest tail) (hnewline : f '\n' = false)
    (hrest : rest.head?.any f = false) : tail.head?.any f = false := by
  cases hc : tail.head? with
  | none => rfl
  | some c =>
      rcases h.head hc with rfl | hc
      · exact hnewline
      · rwa [hc] at hrest

end Breaks

/-- A reader has taken the front of a text up to the given cursor, and does so again wherever the
same front stands, as `again` says. -/
def Taken (p : Position) (cs : List Char) (next : Cursor)
    (again : Position → List Char → Cursor → Prop) : Prop :=
  ∃ body, cs = body ++ next.rest ∧ next.position = p.after body ∧
    ∀ q tail, Breaks next.rest tail → again q (body ++ tail) ⟨q.after body, tail⟩

namespace Taken

variable {p : Position} {c : Char} {cs : List Char} {next : Cursor}
  {again inner : Position → List Char → Cursor → Prop}

/-- A reader that stops where it is has taken nothing. -/
theorem stop (h : ∀ q tail, Breaks cs tail → again q tail ⟨q, tail⟩) : Taken p cs ⟨p, cs⟩ again :=
  ⟨[], rfl, rfl, h⟩

theorem nothing : Taken p cs ⟨p, cs⟩ fun q text after => after = ⟨q, text⟩ :=
  .stop fun _ _ _ => rfl

/-- What is taken in front is taken with what the reader takes behind it. -/
theorem prepend (front : List Char) (h : Taken (p.after front) cs next inner)
    (hagain : ∀ q text after, inner (q.after front) text after → again q (front ++ text) after) :
    Taken p (front ++ cs) next again := by
  obtain ⟨body, rfl, hposition, hinner⟩ := h
  refine ⟨front ++ body, by simp, by rw [hposition, Position.after_append], fun q tail htail => ?_⟩
  rw [List.append_assoc, Position.after_append]
  exact hagain q _ _ (hinner _ tail htail)

/-- What a reader does again may be weakened. -/
theorem imp (h : Taken p cs next inner)
    (hagain : ∀ q text after, Breaks cs text → inner q text after → again q text after) :
    Taken p cs next again := by
  obtain ⟨body, rfl, hposition, hinner⟩ := h
  exact ⟨body, rfl, hposition, fun q tail htail =>
    hagain q _ _ (htail.append_left body) (hinner q tail htail)⟩

end Taken

/-! ## pieces of tokens -/

section Pieces

variable {p : Position} {cs body : List Char} {next : Cursor}

/-- The characters of a name are taken, and give the name again in another place. -/
theorem readName_taken {name : List Char} (h : readName p cs = (name, next)) :
    Taken p cs next fun q text after => readName q text = (name, after) := by
  induction cs generalizing p name with
  | nil =>
      cases h
      refine .stop fun q tail htail => ?_
      cases htail <;> rfl
  | cons c cs ih =>
      by_cases hc : isNamePart c = true
      · rw [readName, if_pos hc] at h
        cases h
        refine (ih rfl).prepend [c] fun q text after hagain => ?_
        rw [List.singleton_append, readName, if_pos hc,
          show readName (q.advance c) text = _ from hagain]
      · rw [readName, if_neg hc] at h
        cases h
        refine .stop fun q tail htail => ?_
        cases htail with
        | ends => rfl
        | newline => rfl
        | same => rw [readName, if_neg hc]

/-- A plain character of a string is its end or is part of it. -/
theorem readString_plain_eq {quote c : Char} {opening q : Position} {text : List Char}
    (hc : c ≠ '\\') : readString quote opening q (c :: text) =
      if c = quote then .ok ([], ⟨q.advance c, text⟩)
      else do
        let (body, next) ← readString quote opening (q.advance c) text
        return (c :: body, next) :=
  readString.eq_4 _ _ _ _ _ (by simp [hc]) (by simp [hc])

/-- The characters of a string are taken, and give the string again in another place. -/
theorem readString_taken {quote : Char} {opening : Position}
    (h : readString quote opening p cs = .ok (body, next)) :
    Taken p cs next fun q text after =>
      ∀ opening, readString quote opening q text = .ok (body, after) := by
  have hplain : ∀ {c : Char} {cs : List Char}, (c = '\\' → cs = [] → False) →
      (∀ e rest, c = '\\' → cs = e :: rest → False) → c ≠ '\\' := by
    intro c cs hlast hescape hc
    cases cs with
    | nil => exact hlast hc rfl
    | cons e rest => exact hescape e rest hc rfl
  fun_induction readString quote opening p cs generalizing body with
  | case1 => contradiction
  | case2 => contradiction
  | case3 => contradiction
  | case4 p e cs c he ih =>
      rw [bind_eq_ok] at h
      obtain ⟨⟨rest, after⟩, hrest, h⟩ := h
      cases h
      refine (ih hrest).prepend ['\\', e] fun q text after hagain opening => ?_
      have hrun : readString quote opening ((q.advance '\\').advance e) text = .ok (rest, after) :=
        hagain opening
      simp only [List.cons_append, List.nil_append, readString, he, hrun]
      rfl
  | case5 p cs hlast hescape =>
      cases h
      refine Taken.nothing.prepend [quote] fun q text after hagain opening => ?_
      rw [List.singleton_append, readString_plain_eq (hplain hlast hescape), if_pos rfl, hagain]
      rfl
  | case6 p c cs hlast hescape hquote ih =>
      rw [bind_eq_ok] at h
      obtain ⟨⟨rest, after⟩, hrest, h⟩ := h
      cases h
      refine (ih hrest).prepend [c] fun q text after hagain opening => ?_
      have hrun : readString quote opening (q.advance c) text = .ok (rest, after) := hagain opening
      rw [List.singleton_append, readString_plain_eq (hplain hlast hescape), if_neg hquote, hrun]
      rfl

/-- A raw string is taken likewise. -/
theorem readRawString_taken {quote : Char} {opening : Position}
    (h : readRawString quote opening p cs = .ok (body, next)) :
    Taken p cs next fun q text after =>
      ∀ opening, readRawString quote opening q text = .ok (body, after) := by
  induction cs generalizing p body with
  | nil => contradiction
  | cons c cs ih =>
      rw [readRawString] at h
      by_cases hquote : c = quote
      · rw [if_pos hquote] at h
        cases h
        refine Taken.nothing.prepend [c] fun q text after hagain opening => ?_
        rw [List.singleton_append, readRawString, if_pos hquote, hagain]
        rfl
      · rw [if_neg hquote, bind_eq_ok] at h
        obtain ⟨⟨rest, after⟩, hrest, h⟩ := h
        cases h
        refine (ih hrest).prepend [c] fun q text after hagain opening => ?_
        have hrun : readRawString quote opening (q.advance c) text = .ok (rest, after) :=
          hagain opening
        rw [List.singleton_append, readRawString, if_neg hquote, hrun]
        rfl

/-- Digits that are read from a text stand at its head, if they stood at the head of the text that
it goes on like. -/
theorem head_isAsciiDigit {fraction isFraction : Bool} {digits text : List Char} {q : Position}
    (hbreaks : Breaks cs text) (hcs : cs.head?.any Text.isAsciiDigit = true)
    (hread : readDigits fraction q text = (digits, isFraction, next)) (hdigits : digits ≠ []) :
    text.head?.any Text.isAsciiDigit = true := by
  cases hbreaks with
  | ends =>
      cases hread
      contradiction
  | newline =>
      have hstop : ∀ more,
          readDigits fraction q ('\n' :: more) = ([], fraction, ⟨q, '\n' :: more⟩) := fun _ => rfl
      rw [hstop] at hread
      cases hread
      contradiction
  | same => exact hcs

/-- The digits of a number are taken likewise. -/
theorem readDigits_taken {fraction isFraction : Bool} {digits : List Char}
    (h : readDigits fraction p cs = (digits, isFraction, next)) :
    Taken p cs next fun q text after =>
      readDigits fraction q text = (digits, isFraction, after) := by
  fun_induction readDigits fraction p cs generalizing digits isFraction with
  | case1 =>
      cases h
      refine .stop fun q tail htail => ?_
      cases htail <;> rfl
  | case2 fraction p c cs hc digits isFraction' after hread ih =>
      cases h
      refine (ih hread).prepend [c] fun q text after hagain => ?_
      have hrun : readDigits fraction (q.advance c) text = (digits, isFraction', after) := hagain
      rw [List.singleton_append, readDigits, if_pos hc, hrun]
  | case3 fraction p cs hc ih =>
      refine (ih h).prepend ['_'] fun q text after hagain => ?_
      have hrun : readDigits fraction (q.advance '_') text = (digits, isFraction, after) := hagain
      rw [List.singleton_append, readDigits, if_neg hc, if_pos rfl, hrun]
  | case4 fraction p c cs hdigit hunderscore hpoint digits isFraction' after hread ih =>
      cases h
      simp only [Bool.and_eq_true, decide_eq_true_eq] at hpoint
      obtain ⟨⟨hc, hfraction⟩, hhead⟩ := hpoint
      have hdigits : digits ≠ [] := by
        cases cs with
        | nil => contradiction
        | cons d cs =>
            have hd : Text.isAsciiDigit d = true := hhead
            rw [readDigits, if_pos hd] at hread
            cases hread
            exact List.cons_ne_nil _ _
      refine ((ih hread).imp fun q text after htext hagain =>
        And.intro (head_isAsciiDigit htext hhead hagain hdigits) hagain).prepend [c]
          fun q text after hagain => ?_
      obtain ⟨htext, hrun⟩ := hagain
      have hrun : readDigits true (q.advance c) text = (digits, isFraction', after) := hrun
      have hcondition : (c = '.' && !fraction && text.head?.any Text.isAsciiDigit) = true := by
        rw [decide_eq_true hc, hfraction, htext]
        rfl
      rw [List.singleton_append, readDigits, if_neg hdigit, if_neg hunderscore, if_pos hcondition,
        hrun]
  | case5 fraction p c cs hdigit hunderscore hpoint =>
      cases h
      refine .stop fun q tail htail => ?_
      cases htail with
      | ends => rfl
      | newline => rfl
      | @same _ _ tail htail =>
          have hcondition : ¬(c = '.' && !fraction && tail.head?.any Text.isAsciiDigit) = true := by
            by_cases hhead : cs.head?.any Text.isAsciiDigit = true
            · rw [hhead, Bool.and_true] at hpoint
              simp [hpoint]
            · have htail' := htail.head_any (f := Text.isAsciiDigit) rfl (by simpa using hhead)
              simp [htail']
          rw [readDigits, if_neg hdigit, if_neg hunderscore, if_neg hcondition]

end Pieces

/-! ## tokens -/

section Tokens

variable [Libraries]

variable {p : Position} {c : Char} {cs : List Char} {next : Cursor} {token : Token}

/-- A number token does not depend on its place. -/
theorem numberToken_eq_ok {digits : List Char} {fraction : Bool}
    (h : numberToken p digits fraction = .ok token) :
    token ≠ .endOfInput ∧ ∀ q, numberToken q digits fraction = .ok token := by
  cases fraction with
  | true =>
      rw [numberToken, if_pos rfl] at h
      split at h
      · next d hd =>
          cases h
          exact ⟨nofun, fun q => by rw [numberToken, if_pos rfl, hd]⟩
      · contradiction
  | false =>
      rw [numberToken, if_neg Bool.false_ne_true] at h
      split at h
      · next hfits =>
          cases h
          exact ⟨nofun, fun q => by rw [numberToken, if_neg Bool.false_ne_true, if_pos hfits]⟩
      · contradiction

/-- A token that is not the end of input has been read, and is read again wherever it stands. -/
def TokenTaken (p : Position) (c : Char) (cs : List Char) (token : Token) (next : Cursor) : Prop :=
  token ≠ .endOfInput ∧ Taken p (c :: cs) next fun q text after =>
    ∃ rest, text = c :: rest ∧ readToken q c rest = .ok (token, after)

/-- Each kind of token is taken as a piece of the text, one lemma for each kind. -/
theorem taken_punctuation (hc : punctuation? c = some token) :
    TokenTaken p c cs token ⟨p.advance c, cs⟩ := by
  refine ⟨(punctuation?_eq_some hc).2.2, ?_⟩
  refine Taken.nothing.prepend [c] fun q text after hafter => ⟨text, rfl, ?_⟩
  rw [readToken, hc, hafter]
  rfl

section Words

variable (hpunctuation : punctuation? c = none)

include hpunctuation

theorem taken_string {body : List Char} (hquote : isQuote c = true)
    (h : readString c p (p.advance c) cs = .ok (body, next)) :
    TokenTaken p c cs (.string (String.ofList body)) next := by
  refine ⟨nofun, (readString_taken h).prepend [c] fun q text after hagain => ⟨text, rfl, ?_⟩⟩
  have hrun : readString c q (q.advance c) text = .ok (body, after) := hagain q
  simp only [readToken, hpunctuation, if_pos hquote, hrun]
  rfl

variable (hquote : ¬isQuote c = true)

include hquote

theorem taken_rawString {quote : Char} {body : List Char}
    (hraw : (c = 'r' && (quote :: cs).head?.any isQuote) = true)
    (h : readRawString quote p ((p.advance c).advance quote) cs = .ok (body, next)) :
    TokenTaken p c (quote :: cs) (.string (String.ofList body)) next := by
  refine ⟨nofun, (readRawString_taken h).prepend [c, quote] fun q text after hagain =>
    ⟨quote :: text, rfl, ?_⟩⟩
  have hrun : readRawString quote q ((q.advance c).advance quote) text = .ok (body, after) :=
    hagain q
  have hraw' : (c = 'r' && (quote :: text).head?.any isQuote) = true := hraw
  simp only [readToken, hpunctuation, if_neg hquote, if_pos hraw', List.headD_cons, List.tail_cons,
    hrun]
  rfl

theorem taken_number {digits : List Char} {fraction : Bool} (hstart : ¬isNameStart c = true)
    (hdigit : Text.isAsciiDigit c = true)
    (h : readDigits false (p.advance c) cs = (digits, fraction, next))
    (htoken : numberToken p (c :: digits) fraction = .ok token) : TokenTaken p c cs token next := by
  obtain ⟨hne, htoken⟩ := numberToken_eq_ok htoken
  have hplain : c ≠ 'r' := by
    rintro rfl
    exact absurd hdigit (by decide)
  refine ⟨hne, (readDigits_taken h).prepend [c] fun q text after hagain => ⟨text, rfl, ?_⟩⟩
  have hrun : readDigits false (q.advance c) text = (digits, fraction, after) := hagain
  simp only [readToken, hpunctuation, if_neg hquote, hplain, decide_false, Bool.false_and,
    Bool.false_eq_true, if_false, if_neg hstart, if_pos hdigit, readDigits, hrun, htoken]
  rfl

theorem taken_name {name : List Char} (hraw : ¬(c = 'r' && cs.head?.any isQuote) = true)
    (hstart : isNameStart c = true) (h : readName (p.advance c) cs = (name, next)) :
    TokenTaken p c cs (.ofWord (String.ofList (c :: name))) next := by
  -- The letter r stays part of a name as long as no quote comes right behind it.
  have hplain : ∀ text, Breaks cs text → ¬(c = 'r' && text.head?.any isQuote) = true := by
    intro text htext
    by_cases hc : c = 'r'
    · simp only [hc, decide_true, Bool.true_and, Bool.not_eq_true] at hraw ⊢
      exact htext.head_any (by decide) hraw
    · simp [hc]
  refine ⟨Token.ofWord_ne_endOfInput _, ((readName_taken h).imp fun q text after htext hagain =>
    And.intro (hplain text htext) hagain).prepend [c] fun q text after hagain => ⟨text, rfl, ?_⟩⟩
  have hrun : readName (q.advance c) text = (name, after) := hagain.2
  simp only [readToken, hpunctuation, if_neg hquote, if_neg hagain.1, if_pos hstart, readName,
    if_pos (isNamePart_of_isNameStart hstart), hrun]

end Words

/-- **A token is a piece of the text, and is read again wherever the piece stands.** -/
theorem readToken_taken (h : readToken p c cs = .ok (token, next)) :
    TokenTaken p c cs token next := by
  rw [readToken] at h
  split at h
  · next found hpunctuation =>
      cases h
      exact taken_punctuation hpunctuation
  · next hpunctuation =>
      split at h
      · next hquote =>
          rw [bind_eq_ok] at h
          obtain ⟨⟨body, after⟩, hbody, h⟩ := h
          cases h
          exact taken_string hpunctuation hquote hbody
      · next hquote =>
          split at h
          · next hraw =>
              cases cs with
              | nil => simp at hraw
              | cons quote cs =>
                  rw [bind_eq_ok] at h
                  obtain ⟨⟨body, after⟩, hbody, h⟩ := h
                  cases h
                  exact taken_rawString hpunctuation hquote hraw hbody
          · next hraw =>
              split at h
              · next hstart =>
                  rcases hread : readName (p.advance c) cs with ⟨name, after⟩
                  rw [readName, if_pos (isNamePart_of_isNameStart hstart), hread] at h
                  cases h
                  exact taken_name hpunctuation hquote hraw hstart hread
              · next hstart =>
                  split at h
                  · next hdigit =>
                      rcases hread : readDigits false (p.advance c) cs with
                        ⟨digits, fraction, after⟩
                      rw [readDigits, if_pos hdigit, hread] at h
                      simp only [bind_eq_ok] at h
                      obtain ⟨found, hfound, h⟩ := h
                      cases h
                      exact taken_number hpunctuation hquote hstart hdigit hread hfound
                  · contradiction

end Tokens

/-! ## gaps -/

/-- White space and comments, each comment with the line break that ends it. -/
inductive Gap : List Char → Prop
  | nil : Gap []
  | blank {c : Char} {cs : List Char} (hc : Text.isBlank c = true) (h : Gap cs) : Gap (c :: cs)
  | comment {body cs : List Char} (hbody : '\n' ∉ body) (h : Gap cs) :
      Gap ('#' :: body ++ '\n' :: cs)

/-- What may stand behind the last token: a gap, and a comment that runs to the end. -/
inductive Trailing : List Char → Prop
  | gap {cs : List Char} (h : Gap cs) : Trailing cs
  | comment {gap body : List Char} (hgap : Gap gap) (hbody : '\n' ∉ body) :
      Trailing (gap ++ '#' :: body)

variable {p : Position} {cs gap body rest : List Char} {token : Token}

/-- A comment runs to the end of its line. -/
theorem skipTrivia_comment (hbody : '\n' ∉ body) :
    skipTrivia true p (body ++ '\n' :: cs) = skipTrivia false (p.after (body ++ ['\n'])) cs := by
  induction body generalizing p with
  | nil => rfl
  | cons c body ih =>
      rw [List.mem_cons, not_or] at hbody
      have hc : (c != '\n') = true := by simpa using Ne.symm hbody.1
      rw [List.cons_append, skipTrivia, if_pos rfl, hc, ih hbody.2]
      rfl

/-- A comment may run to the end of the text. -/
theorem skipTrivia_openComment (hbody : '\n' ∉ body) :
    skipTrivia true p body = ⟨p.after body, []⟩ := by
  induction body generalizing p with
  | nil => rfl
  | cons c body ih =>
      rw [List.mem_cons, not_or] at hbody
      have hc : (c != '\n') = true := by simpa using Ne.symm hbody.1
      rw [skipTrivia, if_pos rfl, hc, ih hbody.2]
      rfl

/-- A gap in front is skipped. -/
theorem skipTrivia_gap (h : Gap gap) :
    skipTrivia false p (gap ++ cs) = skipTrivia false (p.after gap) cs := by
  induction h generalizing p with
  | nil => rfl
  | @blank c gap hc _ ih =>
      rw [List.cons_append, skipTrivia, if_neg Bool.false_ne_true, if_pos hc, ih]
      rfl
  | @comment body gap hbody _ ih =>
      have hopen : skipTrivia false p ('#' :: (body ++ '\n' :: (gap ++ cs))) =
          skipTrivia true (p.advance '#') (body ++ '\n' :: (gap ++ cs)) := rfl
      have hafter : p.after ('#' :: body ++ '\n' :: gap) =
          ((p.advance '#').after (body ++ ['\n'])).after gap := by
        rw [← Position.after_append]
        simp [Position.after]
      rw [hafter, List.append_assoc, List.cons_append, List.cons_append, hopen,
        skipTrivia_comment hbody, ih]

/-- A text that is only a gap is skipped to its end. -/
theorem skipTrivia_trailing (h : Trailing cs) : skipTrivia false p cs = ⟨p.after cs, []⟩ := by
  cases h with
  | gap h =>
      have hskip : skipTrivia false p (cs ++ []) = skipTrivia false (p.after cs) [] :=
        skipTrivia_gap h
      rwa [List.append_nil] at hskip
  | @comment gap body hgap hbody =>
      have hopen : skipTrivia false (p.after gap) ('#' :: body) =
          skipTrivia true ((p.after gap).advance '#') body := rfl
      rw [skipTrivia_gap hgap, hopen, skipTrivia_openComment hbody, Position.after_append]
      rfl

/-- Gaps may follow each other. -/
theorem Gap.append {others : List Char} (h : Gap gap) (hothers : Gap others) :
    Gap (gap ++ others) := by
  induction h with
  | nil => exact hothers
  | blank hc _ ih => exact .blank hc ih
  | @comment body gap hbody _ ih =>
      rw [List.append_assoc, List.cons_append]
      exact .comment hbody ih

/-- What stands behind the last token is a gap once a line break follows. -/
theorem Trailing.gap_newline (h : Trailing cs) : Gap (cs ++ ['\n']) := by
  cases h with
  | gap h => exact h.append (.blank (by decide) .nil)
  | @comment gap body hgap hbody =>
      rw [List.append_assoc]
      exact hgap.append (.comment hbody .nil)

/-- A gap in front of what trails is part of it. -/
theorem Trailing.append (hgap : Gap gap) (h : Trailing cs) : Trailing (gap ++ cs) := by
  cases h with
  | gap h => exact .gap (hgap.append h)
  | comment h hbody =>
      rw [← List.append_assoc]
      exact .comment (hgap.append h) hbody

/-- Nothing but a gap is left of a text, or a token starts behind one. -/
theorem trailing_or_token (cs : List Char) : Trailing cs ∨
    ∃ gap c rest, cs = gap ++ c :: rest ∧ Gap gap ∧ Text.isBlank c = false ∧ c ≠ '#' := by
  induction hlength : cs.length using Nat.strong_induction_on generalizing cs with
  | _ length ih =>
      -- A gap in front leaves less to look at.
      have hskip : ∀ gap rest, cs = gap ++ rest → Gap gap → gap ≠ [] → Trailing cs ∨
          ∃ gap c rest, cs = gap ++ c :: rest ∧ Gap gap ∧ Text.isBlank c = false ∧ c ≠ '#' := by
        rintro front rest rfl hfront hne
        have hshorter : rest.length < length := by
          have hpos := List.length_pos_of_ne_nil hne
          rw [List.length_append] at hlength
          omega
        rcases ih _ hshorter rest rfl with hrest | ⟨gap, c, rest, rfl, hgap, hc⟩
        · exact .inl (hrest.append hfront)
        · exact .inr ⟨front ++ gap, c, rest, (List.append_assoc ..).symm, hfront.append hgap, hc⟩
      cases cs with
      | nil => exact .inl (.gap .nil)
      | cons c cs =>
          by_cases hblank : Text.isBlank c = true
          · exact hskip [c] cs rfl (.blank hblank .nil) (List.cons_ne_nil _ _)
          · by_cases hcomment : c = '#'
            · subst hcomment
              by_cases hnewline : '\n' ∈ cs
              · obtain ⟨body, rest, rfl, hbody⟩ := List.eq_append_cons_of_mem hnewline
                refine hskip ('#' :: body ++ ['\n']) rest (by simp) (.comment hbody .nil) ?_
                simp
              · exact .inl (.comment .nil hnewline)
            · exact .inr ⟨[], c, cs, rfl, .nil, by simpa using hblank, hcomment⟩

/-! ## the next token -/

/-- The text is the token wherever it stands, if what is behind it goes on like the rest up to a
line break. -/
structure Reads [Libraries] (text : List Char) (token : Token) (rest : List Char) : Prop where
  text_ne_nil : text ≠ []
  token_ne : token ≠ .endOfInput
  next_eq : ∀ p tail, Breaks rest tail →
    next ⟨p, text ++ tail⟩ = .ok (⟨token, p⟩, ⟨p.after text, tail⟩)

/-- A token is read again if further lines follow. -/
theorem Reads.lines [Libraries] {text : List Char} (h : Reads text token rest) (more : List Char) :
    Reads text token (rest ++ '\n' :: more) :=
  ⟨h.text_ne_nil, h.token_ne, fun p tail htail => h.next_eq p tail htail.of_lines⟩

/-- The next token does not depend on the gap in front of it, but for its place. -/
theorem next_gap [Libraries] (h : Gap gap) : next ⟨p, gap ++ cs⟩ = next ⟨p.after gap, cs⟩ := by
  rw [next, next, skipTrivia_gap h]

/-- Where only a gap is left, the end of input is next. -/
theorem next_trailing [Libraries] (h : Trailing cs) :
    next ⟨p, cs⟩ = .ok (⟨.endOfInput, p.after cs⟩, ⟨p.after cs, []⟩) := by
  rw [next, skipTrivia_trailing h]

/-- The next token is the end of input, or it stands behind a gap. -/
theorem next_eq_ok [Libraries] {l : Lexeme} {after : Cursor} (h : next ⟨p, cs⟩ = .ok (l, after)) :
    Trailing cs ∧ l = ⟨.endOfInput, p.after cs⟩ ∨
      ∃ gap text, cs = gap ++ text ++ after.rest ∧ Gap gap ∧ Reads text l.token after.rest ∧
        l.position = p.after gap ∧ after.position = p.after (gap ++ text) := by
  rcases trailing_or_token cs with htrailing | ⟨gap, c, rest, rfl, hgap, hblank, hcomment⟩
  · rw [next_trailing htrailing] at h
    cases h
    exact .inl ⟨htrailing, rfl⟩
  · right
    rw [next_gap hgap] at h
    have hstart : skipTrivia false (p.after gap) (c :: rest) = ⟨p.after gap, c :: rest⟩ := by
      simp [skipTrivia, hblank, hcomment]
    rw [next, hstart] at h
    dsimp only at h
    rw [bind_eq_ok] at h
    obtain ⟨⟨token, next⟩, hread, h⟩ := h
    cases h
    obtain ⟨htoken, text, htext, hposition, hagain⟩ := readToken_taken hread
    refine ⟨gap, text, by rw [htext, List.append_assoc], hgap, ⟨?_, htoken, fun q tail htail => ?_⟩,
      rfl, by rw [hposition, Position.after_append]⟩
    · rintro rfl
      obtain ⟨rest, hrest, -⟩ := hagain p [] .ends
      contradiction
    · obtain ⟨rest, hrest, hagain⟩ := hagain q tail htail
      rw [hrest]
      exact next_token hblank hcomment hagain

end Lexer

/-! ## whole texts -/

open Lexer

/-- A lexeme in front belongs to the text if the others do. -/
theorem Lexed.cons_eq_iff {l : Lexeme} {lexed : Lexed} {ls : List Lexeme}
    {failure : Option LexError} :
    lexed.cons l = ⟨ls, failure⟩ ↔ ∃ rest, lexed = ⟨rest, failure⟩ ∧ ls = l :: rest := by
  obtain ⟨lexemes, found⟩ := lexed
  simp only [Lexed.cons, Lexed.mk.injEq]
  constructor
  · rintro ⟨rfl, rfl⟩
    exact ⟨lexemes, ⟨rfl, rfl⟩, rfl⟩
  · rintro ⟨rest, ⟨rfl, rfl⟩, rfl⟩
    exact ⟨rfl, rfl⟩

/-- From a place on the text is cut into these tokens, one behind the other. -/
inductive Cuts [Libraries] : Position → List Char → List Lexeme → Prop
  | last {p : Position} {cs : List Char} (h : Trailing cs) :
      Cuts p cs [⟨.endOfInput, p.after cs⟩]
  | token {p : Position} {gap text rest : List Char} {token : Token} {ls : List Lexeme}
      (hgap : Gap gap) (htext : Reads text token rest)
      (hrest : Cuts (p.after (gap ++ text)) rest ls) :
      Cuts p (gap ++ text ++ rest) (⟨token, p.after gap⟩ :: ls)

namespace Cuts

variable [Libraries]

variable {p : Position} {cs rest gap : List Char} {ls others : List Lexeme} {fuel : Nat}

/-- A text that is cut without an error is cut into pieces. -/
theorem of_ofCursor (hfuel : cs.length < fuel) (h : Lexed.ofCursor fuel ⟨p, cs⟩ = ⟨ls, none⟩) :
    Cuts p cs ls := by
  induction fuel generalizing p cs ls with
  | zero => contradiction
  | succ fuel ih =>
      rw [Lexed.ofCursor] at h
      split at h
      · cases h
      · next l after hnext =>
          obtain ⟨token, q⟩ := l
          obtain ⟨q', rest⟩ := after
          rcases next_eq_ok hnext with ⟨htrailing, hl⟩ | ⟨gap, text, rfl, hgap, htext, hq, hq'⟩
          · cases hl
            rw [if_pos rfl] at h
            cases h
            exact .last htrailing
          · rw [if_neg htext.token_ne, Lexed.cons_eq_iff] at h
            obtain ⟨ls, h, rfl⟩ := h
            have hshorter : rest.length < fuel := by
              have hpos := List.length_pos_of_ne_nil htext.text_ne_nil
              simp only [List.length_append] at hfuel
              omega
            obtain rfl : q = p.after gap := hq
            obtain rfl : q' = p.after (gap ++ text) := hq'
            exact .token hgap htext (ih hshorter h)

/-- A text that consists of pieces is cut into them, whatever the fuel above its length. -/
theorem ofCursor_eq (h : Cuts p cs ls) (hfuel : cs.length < fuel) :
    Lexed.ofCursor fuel ⟨p, cs⟩ = ⟨ls, none⟩ := by
  induction h generalizing fuel with
  | last htrailing =>
      obtain ⟨fuel, rfl⟩ := Nat.exists_eq_add_of_lt hfuel
      rw [Lexed.ofCursor, next_trailing htrailing]
      rfl
  | @token p gap text rest token ls hgap htext _ ih =>
      have hpos := List.length_pos_of_ne_nil htext.text_ne_nil
      simp only [List.length_append] at hfuel
      obtain ⟨fuel, rfl⟩ : ∃ n, fuel = n + 1 := ⟨fuel - 1, by omega⟩
      have hnext := htext.next_eq (p.after gap) rest (Breaks.refl rest)
      rw [← Position.after_append] at hnext
      have hrest : Lexed.ofCursor fuel ⟨p.after (gap ++ text), rest⟩ = ⟨ls, none⟩ := ih (by omega)
      rw [Lexed.ofCursor, List.append_assoc, next_gap hgap, hnext]
      simp only [htext.token_ne, if_false, hrest]
      rfl

/-- **Cutting a text and cutting it into pieces are the same.** -/
theorem iff_ofString {source : String} :
    Cuts .start source.toList ls ↔ tokenize source = .ok ls := by
  have hlength : source.toList.length < source.toList.length + 1 := Nat.lt_succ_self _
  constructor
  · intro h
    rw [tokenize, Lexed.ofString, Lexed.ofChars, h.ofCursor_eq hlength]
    rfl
  · intro h
    refine of_ofCursor hlength ?_
    rw [tokenize, Lexed.ofString, Lexed.ofChars, Lexed.toExcept] at h
    split at h
    · contradiction
    · next hnone =>
        cases h
        rw [← hnone]

/-- Further down the text is cut into the same tokens. -/
theorem down (lines : Nat) (h : Cuts p cs ls) :
    Cuts (p.down lines) cs (ls.map (Lexeme.down lines)) := by
  induction h with
  | last htrailing =>
      rw [List.map_singleton, Lexeme.down, ← Position.down_after]
      exact .last htrailing
  | token hgap htext _ ih =>
      rw [List.map_cons, Lexeme.down, ← Position.down_after]
      rw [← Position.down_after] at ih
      exact .token hgap htext ih

/-- A gap in front changes places only. -/
theorem skip (hgap : Gap gap) (h : Cuts (p.after gap) cs ls) : Cuts p (gap ++ cs) ls := by
  cases h with
  | last htrailing =>
      rw [← Position.after_append]
      exact .last (htrailing.append hgap)
  | @token _ front text rest token ls hfront htext hrest =>
      rw [← Position.after_append, ← List.append_assoc, ← List.append_assoc]
      refine .token (hgap.append hfront) htext ?_
      rwa [← Position.after_append, ← List.append_assoc] at hrest

/-- Behind a line break the tokens of another text follow. -/
theorem lines (h : Cuts p cs ls) (hothers : Cuts (p.after (cs ++ ['\n'])) rest others) :
    Cuts p (cs ++ '\n' :: rest) (ls.filter (·.token ≠ .endOfInput) ++ others) := by
  induction h with
  | last htrailing =>
      have hskipped := skip htrailing.gap_newline hothers
      rw [List.append_assoc] at hskipped
      exact hskipped
  | @token p gap text tail token ls hgap htext _ ih =>
      rw [List.append_assoc, Position.after_append] at hothers
      rw [List.filter_cons_of_pos (by simpa using htext.token_ne), List.append_assoc]
      exact .token hgap (htext.lines rest) (ih hothers)

/-- The tokens of a text stand further down below another text. -/
theorem stacked {a b : String} (ha : Cuts .start a.toList ls) (hb : Cuts .start b.toList others) :
    Cuts .start (a ++ "\n" ++ b).toList (ls.filter (·.token ≠ .endOfInput) ++
      others.map (Lexeme.down (1 + a.toList.count '\n'))) := by
  have hbelow := hb.down (1 + a.toList.count '\n')
  rw [← Position.start_after_newline] at hbelow
  simpa using ha.lines hbelow

/-- No token starts before the place where the text starts. -/
theorem reached (h : Cuts p cs ls) : ∀ l ∈ ls, l.position = p ∨ p.Before l.position := by
  have hafter : ∀ (p : Position) (cs : List Char), p.after cs = p ∨ p.Before (p.after cs) := by
    intro p cs
    cases cs with
    | nil => exact .inl rfl
    | cons c cs => exact .inr (Position.before_after (List.cons_ne_nil c cs))
  induction h with
  | @last p cs _ => simpa using hafter p cs
  | @token p gap text rest token ls hgap htext _ ih =>
      refine List.forall_mem_cons.mpr ⟨hafter p gap, fun l hl => ?_⟩
      have hbefore : p.Before (p.after (gap ++ text)) :=
        Position.before_after (by simp [htext.text_ne_nil])
      rcases ih l hl with heq | hlater
      · exact .inr (heq ▸ hbefore)
      · exact .inr (hbefore.trans hlater)

/-- The tokens of a text are in the order of their places. -/
theorem ordered (h : Cuts p cs ls) :
    ls.Pairwise fun l later => l.position.Before later.position := by
  induction h with
  | last => exact List.pairwise_singleton _ _
  | @token p gap text rest token ls _ htext hrest ih =>
      refine List.pairwise_cons.mpr ⟨fun l hl => ?_, ih⟩
      have hbefore : (p.after gap).Before (p.after (gap ++ text)) := by
        rw [Position.after_append]
        exact Position.before_after htext.text_ne_nil
      rcases hrest.reached l hl with heq | hlater
      · exact heq ▸ hbefore
      · exact hbefore.trans hlater

end Cuts

/-! ## the layout of a text -/

/-- The text by itself is cut into the token and nothing else. -/
def Spells [Libraries] (text : List Char) (token : Token) : Prop :=
  tokenize (String.ofList text) = .ok [⟨token, .start⟩, ⟨.endOfInput, .behind text⟩]

/-- A token that is read is spelled by its piece. -/
theorem Lexer.Reads.spells [Libraries] {text rest : List Char} {token : Token}
    (h : Reads text token rest) :
    Spells text token := by
  have hnext : Reads text token [] :=
    ⟨h.text_ne_nil, h.token_ne,
      fun p tail htail => h.next_eq p tail (by cases htail <;> constructor)⟩
  have hcuts : Cuts .start ([] ++ text ++ []) [⟨token, .start⟩, ⟨.endOfInput, .behind text⟩] :=
    .token .nil hnext (by rw [← Position.start_after]; exact .last (.gap .nil))
  rw [Spells, ← Cuts.iff_ofString]
  simpa using hcuts

/-- Behind the given text stand these tokens: each of them is spelled out behind a gap, at the place
that the text before it leads to. -/
inductive Laid [Libraries] : List Char → List Char → List Lexeme → Prop
  | last {before cs : List Char} (h : Trailing cs) :
      Laid before cs [⟨.endOfInput, .behind (before ++ cs)⟩]
  | token {before gap text rest : List Char} {token : Token} {ls : List Lexeme} (hgap : Gap gap)
      (htext : Spells text token) (hrest : Laid (before ++ (gap ++ text)) rest ls) :
      Laid before (gap ++ text ++ rest) (⟨token, .behind (before ++ gap)⟩ :: ls)

/-- The pieces of a text are laid out one behind the other. -/
theorem Cuts.laid [Libraries] {p : Position} {before cs : List Char} {ls : List Lexeme}
    (h : Cuts p cs ls) (hp : p = .behind before) : Laid before cs ls := by
  induction h generalizing before with
  | last htrailing =>
      rw [hp, ← Position.start_after, ← Position.after_append, Position.start_after]
      exact .last htrailing
  | @token p gap text rest token ls hgap htext _ ih =>
      have hplace : ∀ cs, p.after cs = .behind (before ++ cs) := by
        intro cs
        rw [hp, ← Position.start_after, ← Position.after_append, Position.start_after]
      rw [hplace]
      exact .token hgap htext.spells (ih (hplace _))

/-- **Texts are cut line by line.** Two texts with a line break between them are cut into the tokens
of the first one, at their places, and those of the second one, below them. And in each text that
can be cut the tokens lie one behind the other, each at the place that the text before it leads
to. -/
theorem tokenize_lines [Libraries] :
    (∀ (a b : String) (as bs : List Lexeme), tokenize a = .ok as → tokenize b = .ok bs →
      tokenize (a ++ "\n" ++ b) = .ok (as.filter (·.token ≠ .endOfInput) ++
        bs.map (Lexeme.down (1 + a.toList.count '\n')))) ∧
    ∀ (source : String) (ls : List Lexeme), tokenize source = .ok ls →
      Laid [] source.toList ls ∧ ls.Pairwise fun l later => l.position.Before later.position := by
  constructor
  · intro a b as bs ha hb
    rw [← Cuts.iff_ofString] at ha hb ⊢
    exact ha.stacked hb
  · intro source ls h
    rw [← Cuts.iff_ofString] at h
    exact ⟨h.laid (Position.start_after []), h.ordered⟩

theorem tokenize_lines_number :
    tokenize "r = 1. # one" = .ok [⟨.identifier "r", ⟨1, 1⟩⟩, ⟨.equals, ⟨1, 3⟩⟩,
      ⟨.integer 1, ⟨1, 5⟩⟩, ⟨.dot, ⟨1, 6⟩⟩, ⟨.endOfInput, ⟨1, 13⟩⟩] ∧
    tokenize "5 r'\n'" = .ok [⟨.integer 5, ⟨1, 1⟩⟩, ⟨.string "\n", ⟨1, 3⟩⟩, ⟨.endOfInput, ⟨2, 2⟩⟩] ∧
    ∃ ls, ls = [⟨.identifier "r", ⟨1, 1⟩⟩, ⟨.equals, ⟨1, 3⟩⟩, ⟨.integer 1, ⟨1, 5⟩⟩,
        ⟨.dot, ⟨1, 6⟩⟩, ⟨.integer 5, ⟨2, 1⟩⟩, ⟨.string "\n", ⟨2, 3⟩⟩, ⟨.endOfInput, ⟨3, 2⟩⟩] ∧
      tokenize ("r = 1. # one" ++ "\n" ++ "5 r'\n'") = .ok ls ∧
      Laid [] ("r = 1. # one" ++ "\n" ++ "5 r'\n'").toList ls ∧
      ls.Pairwise fun l later => l.position.Before later.position := by
  have ha : tokenize "r = 1. # one" = .ok [⟨.identifier "r", ⟨1, 1⟩⟩, ⟨.equals, ⟨1, 3⟩⟩,
      ⟨.integer 1, ⟨1, 5⟩⟩, ⟨.dot, ⟨1, 6⟩⟩, ⟨.endOfInput, ⟨1, 13⟩⟩] := rfl
  have hb : tokenize "5 r'\n'" =
      .ok [⟨.integer 5, ⟨1, 1⟩⟩, ⟨.string "\n", ⟨1, 3⟩⟩, ⟨.endOfInput, ⟨2, 2⟩⟩] := rfl
  have hjoined := tokenize_lines.1 _ _ _ _ ha hb
  exact ⟨ha, hb, _, rfl, hjoined, tokenize_lines.2 _ _ hjoined⟩

end Extractor
