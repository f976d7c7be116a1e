/-!
# Extractor.SchemaKind

The kinds of schemas and the reserved hook members that give them their
structure.
-/

namespace Extractor

/-! ## hooks -/

/-- Reserved members of a schema. -/
inductive Hook where
  /-- Checks the document before anything is extracted. -/
  | preValidate
  /-- Splits the document into the elements that are parsed one by one. -/
  | splitDoc
  /-- The key of an entry. -/
  | key
  /-- The value of an entry. -/
  | value
  /-- One item of a flat list. -/
  | item
  deriving DecidableEq, Repr, Inhabited

namespace Hook

/-- All hooks, in the order in which a struct holds them. -/
def all : List Hook := [preValidate, splitDoc, key, value, item]

/-- The member name of the hook. -/
def name : Hook → String
  | preValidate => "__PRE_VALIDATE__"
  | splitDoc => "__SPLIT_DOC__"
  | key => "__KEY__"
  | value => "__VALUE__"
  | item => "__ITEM__"

/-- The hook of the given member name. -/
def ofName? (name : String) : Option Hook := all.find? (·.name == name)

/-- Whether a default makes no sense for the hook. -/
def forbidsDefault : Hook → Bool
  | preValidate | splitDoc => true
  | _ => false

end Hook

/-! ## kinds -/

/-- The kind of a schema: what its result looks like and which hooks it needs. -/
inductive SchemaKind where
  /-- One record of named fields. -/
  | item
  /-- One record for each element of the split document. -/
  | list
  /-- A mapping with one entry for each element of the split document. -/
  | dict
  /-- One value for each element of the split document. -/
  | flatList
  /-- Lists of strings, accumulated without repetition. -/
  | accUniqueList
  deriving DecidableEq, Repr, Inhabited

namespace SchemaKind

/-- The name of the kind in programs and messages. -/
def name : SchemaKind → String
  | item => "ITEM"
  | list => "LIST"
  | dict => "DICT"
  | flatList => "FLAT_LIST"
  | accUniqueList => "ACC_UNIQUE_LIST"

/-- The kind that a declaration calls by the given word. -/
def ofWord? : String → Option SchemaKind
  | "item" => some item
  | "list" => some list
  | "dict" => some dict
  | "flat_list" => some flatList
  | "acc_list" => some accUniqueList
  | "acc_unique_list" => some accUniqueList
  | _ => none

/-- The message for a word that is no kind. -/
def unknownWord (word : String) : String :=
  s!"unknown schema kind '{word}' (expected item, list, dict, flat_list or acc_list)"

/-- The hooks that a schema of this kind must have. -/
def requiredHooks : SchemaKind → List Hook
  | item | accUniqueList => []
  | list => [.splitDoc]
  | dict => [.splitDoc, .key, .value]
  | flatList => [.splitDoc, .item]

/-- Whether the kind uses the hook: the required ones and, for every kind, validation. -/
def allowsHook (k : SchemaKind) (h : Hook) : Bool :=
  h = .preValidate || h ∈ k.requiredHooks

/-- Whether records of this kind are made of named fields. -/
def hasNamedFields : SchemaKind → Bool
  | item | list | accUniqueList => true
  | dict | flatList => false

/-- Whether the result of this kind is a sequence. -/
def isSequence : SchemaKind → Bool
  | list | flatList => true
  | _ => false

end SchemaKind

/-- The member that replaces the generated signature of a schema. -/
def signatureMember : String := "__SIGNATURE__"

/-- The member that lists the fields left out of the generated signature. -/
def excludeSignatureMember : String := "__EXCLUDE_SIGNATURE__"

end Extractor
