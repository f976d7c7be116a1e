import Extractor.Libraries.Standard
import Extractor.Proofs.Replay
import Extractor.Proofs.TokenLayout

/-!
# Extractor.Proofs.Composition

Modules that are written one below the other. A source is a docstring and a
sequence of declarations, each of which is read on its own (`Outline`). So the
declarations of two sources, one below the other, are those of the first and then
those of the second, and the names of the first are taken when the second is read
(`Module.parse_below`).
-/

namespace Extractor

open Outcome

namespace Declaration

/-! ## entries -/

/-- A declaration. -/
inductive Entry where
  | schema (schema : Schema)
  | shape (shape : JsonShape)

/-- The heading of the declaration. -/
def Entry.heading : Entry → Heading
  | schema s => .schema s.name
  | shape s => .shape s.name

/-- Reads the declaration that the token introduces. -/
def readEntry [Libraries] (fuel : Nat) : Token → Reading Entry
  | .keyword .json => do return .shape (← readShape fuel)
  | .keyword .schema => do return .schema (← readSchema fuel)
  | _ => Reading.unexpected .declaration

/-- The tokens from the introducing one on are a declaration with its heading, which is read
wherever they stand and within any bound from the given one on. -/
structure Announces [Libraries] (fuel : Nat) (t : Token) (tokens : List Token) (entry : Entry) :
    Prop where
  introducing : introduces t = true
  headings_append : ∀ rest, headings (t :: tokens ++ rest) = entry.heading :: headings rest
  takes : ∀ extra, Takes (readEntry (fuel + extra) t) (t :: tokens) entry Anything

section Entries

variable {α : Type} {fuel fuel' : Nat} {l : Lexeme} {ls : List Lexeme} {u : Lexed}
  {failure : Option LexError} {word : Keyword} {name : String}

/-- Behind the word and the name of a declaration stands what its reader takes. -/
theorem readHeading_eq_ok {f : String → Reading α} {g : Nat → String → Reading α} {a : α}
    (h : ∀ name extra, Repeats Unseen Anything (f name) (g extra name))
    (hclosed : Closed failure (l :: ls))
    (hrun : (do Reading.expect (.keyword word); f (← Reading.identifier)) ⟨l :: ls, failure⟩ =
      .ok (a, u)) :
    ∃ name v front next back, f name v = .ok (a, u) ∧
      ls = front ++ next :: back ∧ u = ⟨next :: back, failure⟩ ∧
      ∃ rest, front.map Lexeme.token = .identifier name :: rest ∧ Silent rest ∧
        ∀ extra, Takes (do Reading.expect (.keyword word); g extra (← Reading.identifier))
          (.keyword word :: .identifier name :: rest) a Anything := by
  obtain ⟨_, v, hexpect, hrun⟩ := run_bind.mp hrun
  obtain ⟨hshows, hadvance⟩ := expect_eq_ok hexpect nofun
  have hl : l.token = .keyword word := Option.some.inj hshows
  obtain ⟨l', ls, rfl, rfl⟩ := hclosed.advance (by simp [hl]) hadvance
  have hclosed : Closed failure ([l] ++ l' :: ls) := hclosed
  obtain ⟨name, v, hidentifier, hrun⟩ := run_bind.mp hrun
  obtain ⟨hshows, hadvance⟩ := identifier_eq_ok hidentifier
  have hl' : l'.token = .identifier name := Option.some.inj hshows
  obtain ⟨l'', ls, rfl, rfl⟩ := hclosed.of_append.advance (by simp [hl']) hadvance
  have hclosed : Closed failure ([l, l'] ++ l'' :: ls) := hclosed
  obtain ⟨front, next, back, heq, hu, -, hsilent, htakes⟩ :=
    Repeats.all (h name) hclosed.of_append trivial hrun
  refine ⟨name, _, l' :: front, next, back, hrun, by rw [heq]; rfl, hu,
    front.map Lexeme.token, by rw [← hl']; rfl, hsilent, fun extra => ?_⟩
  exact Takes.expect.seq (Takes.identifier.seq (htakes extra))

/-- Reading fields does not change the name of a shape. -/
theorem readFields_name {shape : JsonShape} :
    Yields Always (fun result => result.name = shape.name) (readFields fuel shape) := by
  induction fuel generalizing shape with
  | zero => exact yields_unexpected
  | succ fuel ih =>
      unfold readFields
      refine .after fun closes => ?_
      split
      · exact .pure rfl
      · refine .after fun p => .after fun key => ?_
        dsimp only
        split
        · exact yields_invalid_bind
        · exact .after fun _ => .after fun type => .after fun _ => ih

/-- Reading members does not change the name of a schema. -/
theorem readMembers_name [Libraries] {schema : Schema} :
    Yields Always (fun result => result.name = schema.name) (readMembers fuel schema) := by
  refine readMembers_keeps (fun hname => ?_) rfl
  exact readMember_keeps (fun _ => hname) (fun _ => hname) fun _ _ _ => hname

/-! ## what stands behind the name -/

/-- Reads what follows the name of a shape. -/
def readShapeBody (fuel : Nat) (name : String) : Reading JsonShape := do
  let isArray ← Reading.accept (.identifier "array")
  Reading.expect .leftBrace
  readFields fuel ⟨name, isArray, []⟩

theorem readShape_eq : readShape fuel =
    (do Reading.expect (.keyword .json); readShapeBody fuel (← Reading.identifier)) := rfl

/-- Reads what follows the parents of a schema. -/
def readBraced [Libraries] (fuel : Nat) (name : String) (kind : SchemaKind)
    (parents : List String) : Reading Schema := do
  Reading.expect .leftBrace
  let docstring ← readDocstring
  readMembers fuel { Schema.ofKind name kind with parents := parents, docstring := docstring }

/-- Reads what follows the name of a schema. -/
def readSchemaBody [Libraries] (fuel : Nat) (name : String) : Reading Schema := do
  Reading.expect .colon
  let p ← Reading.position
  let word ← Reading.identifier
  match SchemaKind.ofWord? word with
  | none => Reading.invalid (.unknownKind word) p
  | some kind =>
      if ← Reading.accept (.keyword .inherits) then
        let first ← Reading.identifier
        readBraced fuel name kind (first :: (← readParents fuel))
      else readBraced fuel name kind []

theorem readSchema_eq [Libraries] : readSchema fuel =
    (do Reading.expect (.keyword .schema); readSchemaBody fuel (← Reading.identifier)) := rfl

/-- The body of a shape is read again in another text, and nothing behind it is seen. -/
theorem readShapeBody_repeats (hfuel : fuel ≤ fuel') :
    Repeats Unseen Anything (readShapeBody fuel name) (readShapeBody fuel' name) :=
  .bind (.accept rfl) fun _ => .bind (.expect rfl) fun _ =>
    readFields_repeats hfuel

theorem readShapeBody_name :
    Yields Always (fun shape => shape.name = name) (readShapeBody fuel name) :=
  .after fun _ => .after fun _ => readFields_name

/-- What stands in the braces of a schema is read again in another text. -/
theorem readBraced_repeats [Libraries] {kind : SchemaKind} {parents : List String}
    (hfuel : fuel ≤ fuel') :
    Repeats Unseen Anything (readBraced fuel name kind parents)
      (readBraced fuel' name kind parents) :=
  .bind (.expect rfl) fun _ => .bind readDocstring_repeats fun _ =>
    readMembers_repeats hfuel

theorem readBraced_name [Libraries] {kind : SchemaKind} {parents : List String} :
    Yields Always (fun schema => schema.name = name) (readBraced fuel name kind parents) :=
  .after fun _ => .after fun _ => readMembers_name

/-- The body of a schema is read again in another text, whatever stands before its braces. -/
theorem readSchemaBody_repeats [Libraries] (hfuel : fuel ≤ fuel') :
    Repeats Unseen Anything (readSchemaBody fuel name) (readSchemaBody fuel' name) := by
  unfold readSchemaBody
  refine .bind (.expect rfl) fun _ => .position fun p q => .bind .identifier fun word => ?_
  split
  · exact .invalid
  · refine .bind (.accept rfl) fun inherits => ?_
    split
    · refine .bind .identifier fun first => readParents_repeats hfuel ?_ ?_
      · exact fun names => readBraced_repeats hfuel
      · intro names s b u hrun hcomma
        obtain ⟨_, v, hexpect, -⟩ := run_bind.mp hrun
        have hbrace : Shows s .leftBrace := (expect_eq_ok hexpect nofun).1
        exact absurd (hcomma.symm.trans hbrace) nofun
    · exact readBraced_repeats hfuel

/-- The schema that is read has the name that it was announced with. -/
theorem readSchemaBody_name [Libraries] :
    Yields Always (fun schema => schema.name = name) (readSchemaBody fuel name) := by
  unfold readSchemaBody
  refine .after fun _ => .after fun p => .after fun word => ?_
  split
  · exact yields_invalid
  · refine .after fun inherits => ?_
    split
    · exact .after fun first => .after fun names => readBraced_name
    · exact readBraced_name

/-- A declaration is read again wherever it stands, if what follows its name is. -/
theorem announces_of_body [Libraries] {wrap : α → Entry} {body : Nat → String → Reading α} {a : α}
    (hentry : ∀ fuel, readEntry fuel (.keyword word) =
      (do Reading.expect (.keyword word); body fuel (← Reading.identifier)) >>= fun a =>
        pure (wrap a))
    (hbody : ∀ name extra, Repeats Unseen Anything (body fuel name) (body (fuel + extra) name))
    (hheading : ∀ name, Yields Always (fun a => ∀ rest,
      headings (.keyword word :: .identifier name :: rest) = (wrap a).heading :: headings rest)
      (body fuel name))
    (hword : introduces (.keyword word) = true) (hclosed : Closed failure (l :: ls))
    (hrun : (do Reading.expect (.keyword word); body fuel (← Reading.identifier))
      ⟨l :: ls, failure⟩ = .ok (a, u)) :
    ∃ front next back, ls = front ++ next :: back ∧ u = ⟨next :: back, failure⟩ ∧
      Announces fuel (.keyword word) (front.map Lexeme.token) (wrap a) := by
  obtain ⟨name, v, front, next, back, hrun, heq, hu, rest, hfront, hsilent, htakes⟩ :=
    readHeading_eq_ok hbody hclosed hrun
  refine ⟨front, next, back, heq, hu, hword, fun others => ?_, fun extra => ?_⟩
  · rw [hfront, List.cons_append, List.cons_append, hheading name v trivial a u hrun, hsilent]
  · rw [hfront, hentry]
    exact (htakes extra).bind_nil .pure

/-- An entry takes a piece of the text, which announces it in every other text. -/
theorem readEntry_eq_ok [Libraries] {entry : Entry} {t : Token} (hclosed : Closed failure (l :: ls))
    (hrun : readEntry fuel t ⟨l :: ls, failure⟩ = .ok (entry, u)) :
    ∃ front next back, ls = front ++ next :: back ∧ u = ⟨next :: back, failure⟩ ∧
      Announces fuel t (front.map Lexeme.token) entry := by
  unfold readEntry at hrun
  split at hrun
  · obtain ⟨shape, v, hrun, hpure⟩ := run_bind.mp hrun
    cases hpure
    rw [readShape_eq] at hrun
    refine announces_of_body (fun _ => rfl) (fun name extra => ?_) (fun name => ?_) rfl hclosed hrun
    · exact readShapeBody_repeats (Nat.le_add_right fuel extra)
    · intro v _ shape u hrun rest
      obtain rfl : shape.name = name := readShapeBody_name v trivial shape u hrun
      rfl
  · obtain ⟨schema, v, hrun, hpure⟩ := run_bind.mp hrun
    cases hpure
    rw [readSchema_eq] at hrun
    refine announces_of_body (fun _ => rfl) (fun name extra => ?_) (fun name => ?_) rfl hclosed hrun
    · exact readSchemaBody_repeats (Nat.le_add_right fuel extra)
    · intro v _ schema u hrun rest
      obtain rfl : schema.name = name := readSchemaBody_name v trivial schema u hrun
      rfl
  · contradiction

end Entries

end Declaration

/-! ## adding declarations -/

namespace Module

open Declaration

variable {m m' base : Module} {entry : Entry} {entries : List Entry} {heading : Heading}

/-- Adds a declaration. -/
def add (m : Module) : Entry → Except AssembleError Module
  | .schema schema => m.addSchema schema
  | .shape shape => m.addShape shape

/-- The headings of the declarations, those of schemas first. -/
def headings (m : Module) : List Heading :=
  m.registry.names.map .schema ++ m.shapes.map fun shape => .shape shape.name

/-- The declarations of both modules, with the docstring of the first one. -/
def append (first second : Module) : Module :=
  ⟨first.docstring, ⟨first.registry.schemas ++ second.registry.schemas⟩,
    first.shapes ++ second.shapes⟩

/-- The module of one declaration. -/
def only : Entry → Module
  | .schema schema => ⟨none, ⟨[schema]⟩, []⟩
  | .shape shape => ⟨none, .empty, [shape]⟩

theorem append_assoc (first second third : Module) :
    (first.append second).append third = first.append (second.append third) := by
  simp [append]

theorem append_empty (docstring : Option String) :
    m.append { empty with docstring := docstring } = m := by
  simp [append, empty, Registry.empty]

/-- The headings of joined modules are those of both. -/
theorem mem_headings_append {first second : Module} :
    heading ∈ (first.append second).headings ↔
      heading ∈ first.headings ∨ heading ∈ second.headings := by
  simp only [append, headings, Registry.names, List.map_append, List.mem_append]
  tauto

theorem headings_only : (only entry).headings = [entry.heading] := by
  cases entry <;> rfl

theorem contains_iff {name : String} :
    m.registry.contains name = true ↔ Heading.schema name ∈ m.headings := by
  rw [Registry.contains, Registry.get?, isSome_find?_iff]
  simp [headings, Registry.names]

theorem isSome_get?_iff {name : String} :
    (m.shapes.get? name).isSome = true ↔ Heading.shape name ∈ m.headings := by
  rw [Shapes.get?, isSome_find?_iff]
  simp [headings]

/-- A declaration is refused if its heading is taken. -/
theorem add_of_mem (h : entry.heading ∈ m.headings) :
    m.add entry = .error (.duplicateSchema entry.heading.name) := by
  cases entry with
  | schema schema =>
      rw [add, addSchema, Registry.register, if_pos (contains_iff.mpr h)]
      rfl
  | shape shape =>
      rw [add, addShape, if_pos (isSome_get?_iff.mpr h)]
      rfl

/-- Any other declaration is put behind the others. -/
theorem add_of_not_mem (h : entry.heading ∉ m.headings) :
    m.add entry = .ok (m.append (only entry)) := by
  cases entry with
  | schema schema =>
      rw [add, addSchema, Registry.register, if_neg (mt contains_iff.mp h), append, only,
        List.append_nil]
      rfl
  | shape shape =>
      rw [add, addShape, if_neg (mt isSome_get?_iff.mp h), append, only, Registry.empty,
        List.append_nil]

/-- What has been added had a heading that was free. -/
theorem add_eq_ok (h : m.add entry = .ok m') :
    entry.heading ∉ m.headings ∧ m' = m.append (only entry) := by
  by_cases hmem : entry.heading ∈ m.headings
  · rw [add_of_mem hmem] at h
    contradiction
  · rw [add_of_not_mem hmem] at h
    cases h
    exact ⟨hmem, rfl⟩

/-- Declarations that go to a module go to a larger one up to the first whose name is taken
there. -/
theorem foldlM_add_append (h : entries.foldlM add m = .ok m') (base : Module) :
    entries.foldlM add (base.append m) =
      match (entries.map Entry.heading).find? (· ∈ base.headings) with
      | some heading => .error (.duplicateSchema heading.name)
      | none => .ok (base.append m') := by
  induction entries generalizing m with
  | nil =>
      obtain rfl := pure_eq_ok.mp h
      rfl
  | cons entry entries ih =>
      rw [List.foldlM_cons, bind_eq_ok] at h
      obtain ⟨next, hadd, h⟩ := h
      obtain ⟨hnew, rfl⟩ := add_eq_ok hadd
      rw [List.foldlM_cons, List.map_cons, List.find?_cons]
      by_cases htaken : entry.heading ∈ base.headings
      · rw [add_of_mem (mem_headings_append.mpr (.inl htaken)), decide_eq_true htaken]
        rfl
      · have hfree : entry.heading ∉ (base.append m).headings := by
          simp [mem_headings_append, htaken, hnew]
        rw [add_of_not_mem hfree, decide_eq_false htaken, ok_bind, append_assoc, ih h]

/-- A module declares what has been added to it. -/
theorem mem_headings_of_foldlM (h : entries.foldlM add m = .ok m') :
    heading ∈ m'.headings ↔ heading ∈ m.headings ∨ heading ∈ entries.map Entry.heading := by
  induction entries generalizing m with
  | nil =>
      obtain rfl := pure_eq_ok.mp h
      simp
  | cons entry entries ih =>
      rw [List.foldlM_cons, bind_eq_ok] at h
      obtain ⟨next, hadd, h⟩ := h
      obtain ⟨-, rfl⟩ := add_eq_ok hadd
      rw [ih h, mem_headings_append, headings_only, List.mem_singleton, List.map_cons,
        List.mem_cons, or_assoc]

/-- Adding declarations keeps the docstring. -/
theorem docstring_of_foldlM (h : entries.foldlM add m = .ok m') : m'.docstring = m.docstring := by
  refine foldlM_preserves (P := fun other => other.docstring = m.docstring) ?_ rfl h
  intro entry _ other next hother hadd
  obtain ⟨-, rfl⟩ := add_eq_ok hadd
  exact hother

end Module

/-! ## reading declarations -/

namespace Declaration

/-- The tokens are these declarations, one behind the other. -/
inductive Outline [Libraries] : Nat → List Token → List Entry → Prop
  | nil {fuel : Nat} : Outline (fuel + 1) [] []
  | cons {fuel : Nat} {t : Token} {tokens rest : List Token} {entry : Entry} {entries : List Entry}
      (h : Announces fuel t tokens entry) (hrest : Outline fuel rest entries) :
      Outline (fuel + 1) (t :: tokens ++ rest) (entry :: entries)

section Outline

variable {fuel fuel' : Nat} {m m' : Module} {l next : Lexeme} {ls front back : List Lexeme}
  {u : Lexed} {failure : Option LexError} {p : Position} {tokens : List Token} {entry : Entry}
  {entries : List Entry}

/-- In front of a further declaration the reader adds it and goes on. -/
theorem readDeclarations_cons [Libraries] (hl : l.token ≠ .endOfInput) :
    readDeclarations (fuel + 1) m ⟨l :: ls, failure⟩ =
      (readEntry fuel l.token >>= fun entry =>
        adding l.position (m.add entry) >>= readDeclarations fuel) ⟨l :: ls, failure⟩ := by
  obtain ⟨t, p⟩ := l
  cases t
  case keyword word =>
    cases word
    case json =>
      simp only [readEntry, bind_assoc, pure_bind]
      rfl
    case schema =>
      simp only [readEntry, bind_assoc, pure_bind]
      rfl
    all_goals rfl
  case endOfInput => contradiction
  all_goals rfl

theorem adding_eq_ok {result : Except AssembleError Module} {s : Lexed}
    (h : adding p result s = .ok (m, u)) : result = .ok m ∧ u = s := by
  cases result with
  | ok m =>
      cases h
      exact ⟨rfl, rfl⟩
  | error e => contradiction

/-- A reader that succeeds hands its result to the next. -/
theorem run_of_eq_ok {α β : Type} {x : Reading α} {f : α → Reading β} {a : α} {s : Lexed}
    (h : x s = .ok (a, u)) : (x >>= f) s = f a u := by
  change (x s >>= fun r => f r.1 r.2) = _
  rw [h]
  rfl

/-- What is read to the end are declarations, added one after the other. -/
theorem readDeclarations_eq_ok [Libraries] (hclosed : Closed failure (l :: ls))
    (h : readDeclarations fuel m ⟨l :: ls, failure⟩ = .ok (m', u)) :
    ∃ front p back entries, l :: ls = front ++ ⟨.endOfInput, p⟩ :: back ∧
      Outline fuel (front.map Lexeme.token) entries ∧ entries.foldlM Module.add m = .ok m' := by
  induction fuel generalizing m l ls with
  | zero => contradiction
  | succ fuel ih =>
      by_cases hl : l.token = .endOfInput
      · obtain ⟨t, p⟩ := l
        obtain rfl : t = .endOfInput := hl
        cases h
        exact ⟨[], p, ls, [], rfl, .nil, rfl⟩
      · rw [readDeclarations_cons hl] at h
        obtain ⟨entry, v, hentry, hrun⟩ := run_bind.mp h
        obtain ⟨next, w, hadding, hrest⟩ := run_bind.mp hrun
        obtain ⟨hadd, rfl⟩ := adding_eq_ok hadding
        obtain ⟨front, l', ls', rfl, rfl, hannounces⟩ := readEntry_eq_ok hclosed hentry
        have hclosed : Closed failure ((l :: front) ++ l' :: ls') := hclosed
        obtain ⟨front', p, back, entries, heq, houtline, hfold⟩ := ih hclosed.of_append hrest
        refine ⟨l :: front ++ front', p, back, entry :: entries, ?_, ?_, ?_⟩
        · simp [heq]
        · rw [List.map_append]
          exact .cons hannounces houtline
        · rw [List.foldlM_cons, hadd]
          exact hfold

theorem Announces.mono [Libraries] {t : Token} (h : Announces fuel t tokens entry)
    (hfuel : fuel ≤ fuel') :
    Announces fuel' t tokens entry := by
  obtain ⟨more, rfl⟩ := Nat.exists_eq_add_of_le hfuel
  refine ⟨h.introducing, h.headings_append, fun extra => ?_⟩
  rw [Nat.add_assoc]
  exact h.takes (more + extra)

/-- Reading a declaration and going on behind it. -/
theorem Announces.read [Libraries] {t : Token} (h : Announces fuel t tokens entry)
    (hfront : front.map Lexeme.token = t :: tokens) (m : Module) (failure : Option LexError)
    (hback : back ≠ []) :
    ∃ p, readDeclarations (fuel + 1) m ⟨front ++ back, failure⟩ =
      (adding p (m.add entry) >>= readDeclarations fuel) ⟨back, failure⟩ := by
  obtain ⟨next, back, rfl⟩ := List.exists_cons_of_ne_nil hback
  cases front with
  | nil => contradiction
  | cons l front =>
      obtain rfl : l.token = t := (List.cons.inj hfront).1
      have hl : l.token ≠ .endOfInput := fun hl => by
        have hintroducing := h.introducing
        rw [hl] at hintroducing
        contradiction
      refine ⟨l.position, ?_⟩
      rw [List.cons_append, readDeclarations_cons hl]
      exact run_of_eq_ok (h.takes 0 (l :: front) back next failure hfront trivial)

namespace Outline

variable [Libraries]

theorem mono (h : Outline fuel tokens entries) (hfuel : fuel ≤ fuel') :
    Outline fuel' tokens entries := by
  induction h generalizing fuel' with
  | nil =>
      obtain ⟨fuel', rfl⟩ := Nat.exists_eq_add_of_lt hfuel
      exact .nil
  | cons h _ ih =>
      obtain ⟨fuel', rfl⟩ := Nat.exists_eq_add_of_lt hfuel
      exact .cons (h.mono (Nat.le_add_right _ fuel')) (ih (Nat.le_add_right _ fuel'))

/-- Outlines one behind the other are an outline, given fuel for both. -/
theorem append {bound : Nat} {others : List Token} {more : List Entry}
    (h : Outline fuel tokens entries) (hmore : Outline fuel' others more) (hfuel : fuel ≤ bound)
    (hbound : fuel' + entries.length ≤ bound) :
    Outline bound (tokens ++ others) (entries ++ more) := by
  induction h generalizing bound with
  | nil => exact hmore.mono hbound
  | @cons fuel t tokens rest entry entries h _ ih =>
      obtain ⟨bound, rfl⟩ : ∃ n, bound = n + 1 := ⟨bound - 1, by omega⟩
      rw [List.length_cons] at hbound
      rw [List.append_assoc]
      exact .cons (h.mono (by omega)) (ih (by omega) (by omega))

theorem length_le (h : Outline fuel tokens entries) : entries.length ≤ tokens.length := by
  induction h with
  | nil => exact Nat.le_refl 0
  | cons _ _ ih =>
      simp only [List.cons_append, List.length_cons, List.length_append]
      omega

/-- The headings among the tokens are those of the declarations, in their order. -/
theorem headings_eq (h : Outline fuel tokens entries) (rest : List Token) :
    headings (tokens ++ rest) = entries.map Entry.heading ++ headings rest := by
  induction h with
  | nil => rfl
  | cons h _ ih => rw [List.append_assoc, h.headings_append, ih, List.map_cons, List.cons_append]

/-- Declarations start with no string. -/
theorem headD_ne_string {t : Token} (h : Outline fuel tokens entries)
    (ht : ∀ text, t ≠ .string text) (text : String) : tokens.headD t ≠ .string text := by
  cases h with
  | nil => exact ht text
  | @cons _ t tokens _ _ _ h =>
      intro hstring
      obtain rfl : t = .string text := hstring
      cases h.introducing

/-- Declarations up to the end are added one after the other, or the first that cannot be added ends
the reading. -/
theorem read (h : Outline fuel tokens entries) (hfront : front.map Lexeme.token = tokens) :
    (∀ m', entries.foldlM Module.add m = .ok m' →
      readDeclarations fuel m ⟨front ++ [⟨.endOfInput, p⟩], failure⟩ =
        .ok (m', ⟨[⟨.endOfInput, p⟩], failure⟩)) ∧
    ∀ e, entries.foldlM Module.add m = .error e →
      ∃ q, readDeclarations fuel m ⟨front ++ [⟨.endOfInput, p⟩], failure⟩ =
        .error (.assemble e q) := by
  induction h generalizing front m with
  | nil =>
      rw [List.map_eq_nil_iff] at hfront
      subst hfront
      refine ⟨fun m' hadd => ?_, nofun⟩
      cases hadd
      rfl
  | @cons fuel t tokens rest entry entries h _ ih =>
      obtain ⟨first, second, rfl, hfirst, hsecond⟩ := List.map_eq_append_iff.mp hfront
      obtain ⟨q, hread⟩ := h.read hfirst m failure
        (List.append_ne_nil_of_right_ne_nil second (List.cons_ne_nil ⟨.endOfInput, p⟩ []))
      rw [List.append_assoc, hread, List.foldlM_cons]
      cases m.add entry with
      | ok next => exact ih hsecond
      | error e =>
          refine ⟨nofun, fun e' he => ?_⟩
          cases he
          exact ⟨q, rfl⟩

end Outline

end Outline

/-! ## docstrings -/

/-- A docstring that is read is the string in front, and a text without one is left as it is. -/
theorem readDocstring_eq_ok {l : Lexeme} {ls : List Lexeme} {u : Lexed}
    {failure : Option LexError} {docstring : Option String} (hclosed : Closed failure (l :: ls))
    (h : readDocstring ⟨l :: ls, failure⟩ = .ok (docstring, u)) :
    ∃ front next back, l :: ls = front ++ next :: back ∧ u = ⟨next :: back, failure⟩ ∧
      front.map Lexeme.token = docstring.toList.map .string := by
  unfold readDocstring at h
  obtain ⟨token, v, hcurrent, hrun⟩ := run_bind.mp h
  obtain ⟨rfl, htoken⟩ := current_eq_ok hcurrent
  have hl : l.token = token := htoken
  split at hrun
  · obtain ⟨_, v, hadvance, hpure⟩ := run_bind.mp hrun
    cases hpure
    obtain ⟨next, back, rfl, rfl⟩ := hclosed.advance (by simp [hl]) hadvance
    exact ⟨[l], next, back, rfl, rfl, congrArg (· :: []) hl⟩
  · cases hrun
    exact ⟨[], l, ls, rfl, rfl, rfl⟩

theorem silent_docstring (docstring : Option String) :
    Silent (docstring.toList.map .string) := by
  cases docstring with
  | none => exact .nil
  | some text => exact .singleton rfl

/-- A docstring is read, where no other string follows. -/
theorem takes_readDocstring (docstring : Option String) :
    Takes readDocstring (docstring.toList.map .string) docstring (∀ text, · ≠ .string text) := by
  cases docstring with
  | some text => exact .current_bind (Takes.advance.bind_nil .pure)
  | none =>
      refine .current_bind_nil fun t ht => ?_
      split
      · exact absurd rfl (ht _)
      · exact .pure

/-- A module that is read to the end is made up of a docstring and declarations. -/
theorem readModule_eq_ok [Libraries] {fuel : Nat} {l : Lexeme} {ls : List Lexeme} {u : Lexed}
    {m : Module} {failure : Option LexError} (hclosed : Closed failure (l :: ls))
    (h : readModule fuel ⟨l :: ls, failure⟩ = .ok (m, u)) :
    ∃ opening front p back entries,
      l :: ls = opening ++ front ++ ⟨.endOfInput, p⟩ :: back ∧
      opening.map Lexeme.token = m.docstring.toList.map .string ∧
      Outline fuel (front.map Lexeme.token) entries ∧
      entries.foldlM Module.add { Module.empty with docstring := m.docstring } = .ok m := by
  obtain ⟨docstring, v, hdocstring, hread⟩ := run_bind.mp h
  obtain ⟨opening, l', ls', heq, rfl, hopening⟩ := readDocstring_eq_ok hclosed hdocstring
  rw [heq] at hclosed ⊢
  obtain ⟨front, p, back, entries, heq', houtline, hadd⟩ :=
    readDeclarations_eq_ok hclosed.of_append hread
  obtain rfl : m.docstring = docstring := Module.docstring_of_foldlM hadd
  refine ⟨opening, front, p, back, entries, ?_, hopening, houtline, hadd⟩
  rw [heq', List.append_assoc]

end Declaration

/-! ## whole sources -/

/-- Where cutting fails the end of input is not reached. -/
theorem Lexed.ne_endOfInput_of_failure [Libraries] {fuel : Nat} {cursor : Cursor} {ls : List Lexeme}
    {e : LexError} (h : Lexed.ofCursor fuel cursor = ⟨ls, some e⟩) :
    ∀ l ∈ ls, l.token ≠ .endOfInput := by
  induction fuel generalizing cursor ls with
  | zero => cases h
  | succ fuel ih =>
      rw [Lexed.ofCursor] at h
      split at h
      · cases h
        exact List.forall_mem_nil _
      · split at h
        · cases h
        · next hl =>
            rw [Lexed.cons_eq_iff] at h
            obtain ⟨rest, hrest, rfl⟩ := h
            exact List.forall_mem_cons.mpr ⟨hl, ih hrest⟩

/-- A text that consists of pieces is cut without an error. -/
theorem Cuts.ofString_eq [Libraries] {source : String} {ls : List Lexeme}
    (h : Cuts .start source.toList ls) :
    Lexed.ofString source = ⟨ls, none⟩ :=
  h.ofCursor_eq (Nat.lt_succ_self _)

/-- The end of input is the last token and stands nowhere else. -/
theorem Cuts.closed [Libraries] {p : Position} {cs : List Char} {ls : List Lexeme}
    (h : Cuts p cs ls) :
    ∃ front q, ls = front ++ [⟨.endOfInput, q⟩] ∧ ∀ l ∈ front, l.token ≠ .endOfInput := by
  induction h with
  | @last p cs => exact ⟨[], p.after cs, rfl, nofun⟩
  | token _ htext _ ih =>
      obtain ⟨front, q, rfl, hfront⟩ := ih
      exact ⟨_ :: front, q, rfl, List.forall_mem_cons.mpr ⟨htext.token_ne, hfront⟩⟩

/-- The end of input is where it is first. -/
theorem eq_of_append_endOfInput {front middle back : List Lexeme} {p q : Position}
    (hfront : ∀ l ∈ front, l.token ≠ .endOfInput)
    (h : front ++ [⟨.endOfInput, p⟩] = middle ++ ⟨.endOfInput, q⟩ :: back) : front = middle := by
  rcases List.append_eq_append_iff.mp h with ⟨rest, rfl, hrest⟩ | ⟨rest, rfl, hrest⟩
  · have hlength := congrArg List.length hrest
    simp only [List.length_append, List.length_cons, List.length_nil] at hlength
    rw [List.eq_nil_of_length_eq_zero (l := rest) (by omega), List.append_nil]
  · cases rest with
    | nil => rw [List.append_nil]
    | cons l rest =>
        obtain rfl := (List.cons.inj hrest).1
        exact absurd rfl (hfront _ (List.mem_append_right middle List.mem_cons_self))

namespace Module

open Declaration

/-- The source is made up of the docstring and the declarations. -/
def Written [Libraries] (source : String) (docstring : Option String) (entries : List Entry) :
    Prop :=
  ∃ front p tokens, Cuts .start source.toList (front ++ [⟨.endOfInput, p⟩]) ∧
    (∀ l ∈ front, l.token ≠ .endOfInput) ∧
    front.map Lexeme.token = docstring.toList.map .string ++ tokens ∧
    Outline (3 * front.length + 6) tokens entries

variable {a b source : String} {m : Module} {docstring : Option String} {entries more : List Entry}

/-- Parsing a text is reading its tokens with enough fuel. -/
theorem parse_eq [Libraries] {front : List Lexeme} {p : Position}
    (h : Cuts .start source.toList (front ++ [⟨.endOfInput, p⟩])) :
    Module.parse source =
      (readModule (3 * front.length + 6) ⟨front ++ [⟨.endOfInput, p⟩], none⟩).map Prod.fst := by
  have hlength : (front ++ [(⟨.endOfInput, p⟩ : Lexeme)]).length = front.length + 1 :=
    List.length_append
  simp only [Module.parse, h.ofString_eq, hlength, Nat.mul_add]
  split
  · contradiction
  · cases readModule (3 * front.length + 6) ⟨front ++ [⟨.endOfInput, p⟩], none⟩ <;> rfl

/-- Without its end a source cannot be parsed. -/
theorem readModule_of_parse [Libraries] (h : Module.parse source = .ok m) :
    ∃ front p u, Cuts .start source.toList (front ++ [⟨.endOfInput, p⟩]) ∧
      (∀ l ∈ front, l.token ≠ .endOfInput) ∧
      readModule (3 * front.length + 6) ⟨front ++ [⟨.endOfInput, p⟩], none⟩ = .ok (m, u) := by
  unfold Module.parse at h
  generalize hlexed : Lexed.ofString source = lexed at h
  obtain ⟨ls, failure⟩ := lexed
  dsimp only at h
  split at h
  · simp at h
  · next hstart =>
      obtain ⟨⟨result, u⟩, hread, h⟩ := bind_eq_ok.mp h
      obtain rfl := pure_eq_ok.mp h
      cases failure with
      | none =>
          have hcuts : Cuts .start source.toList ls := .of_ofCursor (Nat.lt_succ_self _) hlexed
          obtain ⟨front, p, rfl, hfront⟩ := hcuts.closed
          refine ⟨front, p, u, hcuts, hfront, ?_⟩
          rwa [List.length_append, Nat.mul_add] at hread
      | some e =>
          cases ls with
          | nil => exact absurd rfl (hstart e rfl)
          | cons l ls =>
              have hclosed : Closed (some e) (l :: ls) := nofun
              obtain ⟨opening, front, p, back, entries, heq, -⟩ := readModule_eq_ok hclosed hread
              have hend : ⟨.endOfInput, p⟩ ∈ l :: ls := by simp [heq]
              exact absurd rfl (Lexed.ne_endOfInput_of_failure hlexed _ hend)

/-- A text that is parsed is written as a docstring and entries, which are added one by one. -/
theorem written_of_parse [Libraries] (h : Module.parse source = .ok m) :
    ∃ entries, Written source m.docstring entries ∧
      entries.foldlM add { empty with docstring := m.docstring } = .ok m := by
  obtain ⟨front, p, u, hcuts, hfront, hread⟩ := readModule_of_parse h
  obtain ⟨l, ls, hls⟩ := List.exists_cons_of_ne_nil
    (List.append_ne_nil_of_right_ne_nil front (List.cons_ne_nil (⟨.endOfInput, p⟩ : Lexeme) []))
  rw [hls] at hread
  obtain ⟨opening, middle, q, back, entries, heq, hopening, houtline, hadd⟩ :=
    readModule_eq_ok (fun _ => ⟨front, p, hls.symm⟩) hread
  obtain rfl := eq_of_append_endOfInput hfront (hls.trans heq)
  refine ⟨entries, ⟨opening ++ middle, p, middle.map Lexeme.token, hcuts, hfront, ?_, houtline⟩,
    hadd⟩
  rw [List.map_append, hopening]

namespace Written

variable [Libraries]

/-- A text below another adds its entries to it, unless it has a docstring. -/
theorem below (h : Written a docstring entries) (hmore : Written b none more) :
    Written (a ++ "\n" ++ b) docstring (entries ++ more) := by
  obtain ⟨front, p, tokens, hcuts, hfront, htokens, houtline⟩ := h
  obtain ⟨others, q, rest, hbelow, hothers, hrest, hmore⟩ := hmore
  have hlines := hcuts.stacked hbelow
  have hkept : front.filter (fun l => l.token ≠ .endOfInput) = front :=
    List.filter_eq_self.mpr (by simpa using hfront)
  rw [List.filter_append, hkept, List.map_append, List.append_assoc] at hlines
  have htoken : Lexeme.token ∘ Lexeme.down (1 + a.toList.count '\n') = Lexeme.token := rfl
  refine ⟨front ++ others.map (Lexeme.down (1 + a.toList.count '\n')),
    q.down (1 + a.toList.count '\n'), tokens ++ rest, ?_, ?_, ?_, ?_⟩
  · rw [List.append_assoc]
    exact hlines
  · rw [List.forall_mem_append, List.forall_mem_map]
    exact ⟨hfront, hothers⟩
  · rw [List.map_append, htokens, List.map_map, htoken, hrest]
    simp
  · have hentries := houtline.length_le
    have hlength := congrArg List.length htokens
    simp only [List.length_map, List.length_append] at hlength ⊢
    exact houtline.append hmore (by omega) (by omega)

/-- A text that is written as entries is parsed if they can be added, and refused if not. -/
theorem parse (h : Written source docstring entries) :
    (∀ m, entries.foldlM add { empty with docstring := docstring } = .ok m →
      Module.parse source = .ok m) ∧
    ∀ e, entries.foldlM add { empty with docstring := docstring } = .error e →
      ∃ p, Module.parse source = .error (.assemble e p) := by
  obtain ⟨front, p, tokens, hcuts, hfront, htokens, houtline⟩ := h
  obtain ⟨opening, middle, rfl, hopening, hmiddle⟩ := List.map_eq_append_iff.mp htokens
  have hdocstring : readDocstring ⟨opening ++ (middle ++ [⟨.endOfInput, p⟩]), none⟩ =
      .ok (docstring, ⟨middle ++ [⟨.endOfInput, p⟩], none⟩) := by
    have hstring := houtline.headD_ne_string (t := .endOfInput) nofun
    rw [← hmiddle] at hstring
    cases middle with
    | nil => exact takes_readDocstring docstring opening [] ⟨.endOfInput, p⟩ none hopening nofun
    | cons l middle => exact takes_readDocstring docstring opening _ l none hopening hstring
  have hparse : Module.parse source = (readDeclarations (3 * (opening ++ middle).length + 6)
      { empty with docstring := docstring } ⟨middle ++ [⟨.endOfInput, p⟩], none⟩).map Prod.fst := by
    rw [parse_eq hcuts, List.append_assoc]
    exact congrArg _ (run_of_eq_ok hdocstring)
  constructor
  · intro m hadd
    rw [hparse, (houtline.read hmiddle).1 m hadd]
    rfl
  · intro e hadd
    obtain ⟨q, hfail⟩ := (houtline.read hmiddle).2 e hadd
    exact ⟨q, by rw [hparse, hfail]; rfl⟩

/-- The headings of a text are those of its entries. -/
theorem headings_eq (h : Written source docstring entries) :
    ∃ ls, tokenize source = .ok ls ∧
      Declaration.headings (ls.map Lexeme.token) = entries.map Entry.heading := by
  obtain ⟨front, p, tokens, hcuts, hfront, htokens, houtline⟩ := h
  refine ⟨_, Cuts.iff_ofString.mp hcuts, ?_⟩
  rw [List.map_append, htokens, List.append_assoc, silent_docstring, houtline.headings_eq]
  simp [Declaration.headings]

end Written

/-- **One source below another declares what both declare.** The docstring is that of the first
source, and its declarations come before those of the second one, if the two have no names of
schemas and no names of shapes in common. Otherwise the first heading of the second source whose
name is taken is an error. -/
theorem parse_below [Libraries] {first second : Module} (ha : Module.parse a = .ok first)
    (hb : Module.parse b = .ok second) (hdocstring : second.docstring = none) :
    (first.headings.Disjoint second.headings →
      Module.parse (a ++ "\n" ++ b) = .ok ⟨first.docstring,
        ⟨first.registry.schemas ++ second.registry.schemas⟩, first.shapes ++ second.shapes⟩) ∧
    (¬first.headings.Disjoint second.headings →
      ∃ ls heading p, tokenize b = .ok ls ∧
        (∀ other, other ∈ Declaration.headings (ls.map Lexeme.token) ↔ other ∈ second.headings) ∧
        (Declaration.headings (ls.map Lexeme.token)).find? (· ∈ first.headings) = some heading ∧
        Module.parse (a ++ "\n" ++ b) = .error (.assemble (.duplicateSchema heading.name) p)) := by
  obtain ⟨entries, hwritten, hadd⟩ := written_of_parse ha
  obtain ⟨more, hmore, haddMore⟩ := written_of_parse hb
  rw [hdocstring] at hmore haddMore
  obtain ⟨ls, hls, hheadings⟩ := hmore.headings_eq
  have hmem : ∀ other, other ∈ more.map Entry.heading ↔ other ∈ second.headings := by
    intro other
    rw [mem_headings_of_foldlM haddMore]
    exact ⟨.inr, fun h => h.resolve_left nofun⟩
  have hfold := foldlM_add_append haddMore first
  have hjoined := (hwritten.below hmore).parse
  rw [append_empty] at hfold
  rw [List.foldlM_append, hadd, ok_bind, hfold] at hjoined
  cases hfind : (more.map Entry.heading).find? (· ∈ first.headings) with
  | none =>
      rw [hfind] at hjoined
      have hdisjoint : first.headings.Disjoint second.headings := by
        intro other hfirst hsecond
        have hfree := List.find?_eq_none.mp hfind other ((hmem other).mpr hsecond)
        simp [hfirst] at hfree
      exact ⟨fun _ => hjoined.1 _ rfl, fun h => absurd hdisjoint h⟩
  | some heading =>
      rw [hfind] at hjoined
      have htaken : heading ∈ first.headings := by simpa using List.find?_some hfind
      have hagain : heading ∈ second.headings := (hmem heading).mp (List.mem_of_find?_eq_some hfind)
      obtain ⟨p, hfail⟩ := hjoined.2 _ rfl
      rw [← hheadings] at hmem hfind
      exact ⟨fun h => (h htaken hagain).elim, fun _ => ⟨ls, heading, p, hls, hmem, hfind, hfail⟩⟩

/-- A text below another, and one whose headings are partly taken. -/
theorem parse_below_shop :
    ∃ first second third, Module.parse "'Shop' json Tag {} schema Base: item {}" = .ok first ∧
      Module.parse "schema Page: item extends Base {} json Base array {}" = .ok second ∧
      Module.parse "json Page {} schema Base: list {} json Tag {}" = .ok third ∧
      first.headings = [.schema "Base", .shape "Tag"] ∧
      second.headings = [.schema "Page", .shape "Base"] ∧
      third.headings = [.schema "Base", .shape "Page", .shape "Tag"] ∧
      Module.parse ("'Shop' json Tag {} schema Base: item {}" ++ "\n" ++
        "schema Page: item extends Base {} json Base array {}") = .ok ⟨first.docstring,
          ⟨first.registry.schemas ++ second.registry.schemas⟩, first.shapes ++ second.shapes⟩ ∧
      ∃ p, Module.parse ("'Shop' json Tag {} schema Base: item {}" ++ "\n" ++
        "json Page {} schema Base: list {} json Tag {}") =
          .error (.assemble (.duplicateSchema "Base") p) := by
  have hparse : ∀ source headings docstring, (Module.parse source).toOption.map
      (fun m => (m.docstring, m.headings)) = some (docstring, headings) →
      ∃ m, Module.parse source = .ok m ∧ m.docstring = docstring ∧ m.headings = headings := by
    intro source headings docstring h
    cases hm : Module.parse source with
    | error e => simp [hm, Except.toOption] at h
    | ok m =>
        simp only [hm, Except.toOption, Option.map_some, Option.some.injEq, Prod.mk.injEq] at h
        exact ⟨m, rfl, h⟩
  obtain ⟨first, hfirst, -, hfirsts⟩ := hparse "'Shop' json Tag {} schema Base: item {}"
    [.schema "Base", .shape "Tag"] (some "Shop") (by decide +kernel)
  obtain ⟨second, hsecond, hplain, hseconds⟩ :=
    hparse "schema Page: item extends Base {} json Base array {}"
      [.schema "Page", .shape "Base"] none (by decide +kernel)
  obtain ⟨third, hthird, hbare, hthirds⟩ := hparse "json Page {} schema Base: list {} json Tag {}"
    [.schema "Base", .shape "Page", .shape "Tag"] none (by decide +kernel)
  have hclash : ¬first.headings.Disjoint third.headings := by
    rw [hfirsts, hthirds]
    exact fun h => h List.mem_cons_self List.mem_cons_self
  obtain ⟨ls, heading, p, hls, -, hfind, hfail⟩ := (parse_below hfirst hthird hbare).2 hclash
  have hheading : (tokenize "json Page {} schema Base: list {} json Tag {}").toOption.map
      (fun ls => (Declaration.headings (ls.map Lexeme.token)).find?
        (· ∈ [Heading.schema "Base", .shape "Tag"])) = some (some (.schema "Base")) := by
    decide +kernel
  rw [hls, ← hfirsts] at hheading
  obtain rfl : heading = .schema "Base" :=
    Option.some.inj (hfind.symm.trans (Option.some.inj hheading))
  refine ⟨first, second, third, hfirst, hsecond, hthird, hfirsts, hseconds, hthirds, ?_, p, hfail⟩
  refine (parse_below hfirst hsecond hplain).1 ?_
  rw [hfirsts, hseconds]
  simp

end Module

end Extractor
