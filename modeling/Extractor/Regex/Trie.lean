/-!
# Extractor.Regex.Trie

A tree of words in which an earlier word has priority: what is inserted behind
the end of a word does not join what was there before it. The tree decides how
many states the alternatives of a pattern share.
-/

namespace Extractor.Regex

/-- A tree of words: the edges that leave its root and, between them, the marks where a word
ends. -/
inductive Trie where
  | nil
  | edge (byte : UInt8) (child rest : Trie)
  | mark (rest : Trie)
  deriving Repr, Inhabited

namespace Trie

/-- The tree of one word. -/
def ofWord : List UInt8 → Trie
  | [] => .mark .nil
  | b :: bs => .edge b (ofWord bs) .nil

/-- Whether a word ends at the root. -/
def hasMark : Trie → Bool
  | nil => false
  | edge _ _ rest => rest.hasMark
  | mark _ => true

/-- Inserts a word behind what is there. Only edges behind the last mark are shared; a second mark
right behind the first changes nothing if no edge leaves the root. -/
def insert (passedEdge : Bool) (word : List UInt8) : Trie → Trie
  | nil => ofWord word
  | mark rest =>
      match passedEdge, word, rest with
      | false, [], .nil => mark .nil
      | _, _, _ => mark (insert passedEdge word rest)
  | edge b child rest =>
      match word with
      | c :: cs =>
          if c = b && !rest.hasMark then edge b (insert false cs child) rest
          else edge b child (insert true word rest)
      | [] => edge b child (insert true word rest)

/-- The tree of words in the order of their priority. -/
def ofWords (words : List (List UInt8)) : Trie := words.foldl (fun t w => t.insert false w) .nil

/-- Whether no edge leaves the root. -/
def isLeaf : Trie → Bool
  | nil => true
  | edge .. => false
  | mark rest => rest.isLeaf

end Trie

end Extractor.Regex
