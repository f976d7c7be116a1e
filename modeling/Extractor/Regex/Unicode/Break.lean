import Extractor.Regex.Unicode.Binary
import Extractor.Regex.Unicode.Script

/-!
# Extractor.Regex.Unicode.Break

Where a text may be broken: what the characters are to the boundaries of grapheme
clusters, words and sentences. All of this is derived from other properties.
-/

namespace Extractor.Regex.Unicode

/-- The characters of a script that there is. -/
def inScript (code : String) : Text.Ranges := (script? code).getD []

/-! ## grapheme clusters -/

/-- What extends a cluster. -/
def clusterExtend : Text.Ranges :=
  (graphemeExtend.union emojiModifier).difference [(0x200d, 0x200d)]

/-- What stands at the start of a cluster. -/
def clusterPrepend : Text.Ranges :=
  prependedConcatenationMark.union [
    (0xd4e, 0xd4e), (0x111c2, 0x111c3), (0x113d1, 0x113d1), (0x1193f, 0x1193f),
    (0x11941, 0x11941), (0x11a3a, 0x11a3a), (0x11a84, 0x11a89), (0x11d46, 0x11d46),
    (0x11f02, 0x11f02)]

/-- What stands in a cluster of its own. -/
def clusterControl : Text.Ranges :=
  ((ofCategories ["zl", "zp", "cc", "cf"]).union
    ((ofCategories ["cn"]).intersection Text.defaultIgnorable)).difference
    ((clusterExtend.union clusterPrepend).union [(0xa, 0xa), (0xd, 0xd), (0x200c, 0x200d)])

/-- The marks with a width that do not break a cluster. -/
def clusterSpacingMark : Text.Ranges :=
  ((ofCategories ["mc"]).union [(0xe33, 0xe33), (0xeb3, 0xeb3)]).difference
    (clusterExtend.union [
      (0x102b, 0x102c), (0x1038, 0x1038), (0x1062, 0x1064), (0x1067, 0x106d), (0x1083, 0x1083),
      (0x1087, 0x108c), (0x108f, 0x108f), (0x109a, 0x109c), (0x1a61, 0x1a61), (0x1a63, 0x1a64),
      (0xaa7b, 0xaa7b), (0xaa7d, 0xaa7d), (0x11720, 0x11721)])

/-- The syllables of Hangul, in blocks of those that start alike: the code points between two places
of each block. -/
def hangulBlocks (first last : Nat) : Text.Ranges :=
  (List.range 399).map fun block => (0xac00 + 28 * block + first, 0xac00 + 28 * block + last)

/-- What the characters are to the boundaries of clusters. -/
def clusterBreaks : PropertyTable := [
  (["cn", "control"], clusterControl), (["cr"], [(0xd, 0xd)]), (["ex", "extend"], clusterExtend),
  (["l"], [(0x1100, 0x115f), (0xa960, 0xa97c)]), (["lf"], [(0xa, 0xa)]),
  (["lv"], hangulBlocks 0 0), (["lvt"], hangulBlocks 1 27), (["pp", "prepend"], clusterPrepend),
  (["ri", "regionalindicator"], regionalIndicator), (["sm", "spacingmark"], clusterSpacingMark),
  (["t"], [(0x11a8, 0x11ff), (0xd7cb, 0xd7fb)]),
  (["v"], [(0x1160, 0x11a7), (0xd7b0, 0xd7c6), (0x16d63, 0x16d63), (0x16d67, 0x16d6a)]),
  (["zwj"], [(0x200d, 0x200d)])]

/-! ## words -/

/-- What extends the character before it in a word. -/
def wordExtend : Text.Ranges :=
  ((graphemeExtend.union (ofCategories ["mc"])).union emojiModifier).difference
    [(0x200d, 0x200d)]

/-- The letters of Hebrew. -/
def wordHebrewLetter : Text.Ranges := (inScript "hebr").intersection (ofCategories ["lo"])

/-- The letters of Katakana. -/
def wordKatakana : Text.Ranges :=
  (inScript "kana").union
    [(0x3031, 0x3035), (0x309b, 0x309c), (0x30a0, 0x30a0), (0x30fc, 0x30fc), (0xff70, 0xff70)]

/-- The scripts that are written without spaces between words. -/
def unspacedScripts : Text.Ranges :=
  .ofRanges (["hira", "thai", "laoo", "mymr", "khmr", "tale", "talu", "lana", "tavt",
    "ahom"].flatMap inScript)

/-- The other letters of words. -/
def wordLetter : Text.Ranges :=
  (alphabetic.union [
    (0x2c2, 0x2c5), (0x2d2, 0x2d7), (0x2de, 0x2df), (0x2e5, 0x2eb), (0x2ed, 0x2ed),
    (0x2ef, 0x2ff), (0x55a, 0x55c), (0x55e, 0x55e), (0x58a, 0x58a), (0x5f3, 0x5f3),
    (0x70f, 0x70f), (0xa708, 0xa716), (0xa720, 0xa721), (0xa789, 0xa78a),
    (0xab5b, 0xab5b)]).difference
    ((ideographic.union unspacedScripts).union
      ((wordExtend.union wordHebrewLetter).union wordKatakana))

/-- What the characters are to the boundaries of words. -/
def wordBreaks : PropertyTable := [
  (["le", "aletter"], wordLetter), (["cr"], [(0xd, 0xd)]), (["dq", "doublequote"], [(0x22, 0x22)]),
  (["extend"], wordExtend),
  (["ex", "extendnumlet"], (ofCategories ["pc"]).union [(0x202f, 0x202f)]),
  (["fo", "format"],
    (ofCategories ["cf"]).difference (wordExtend.union [(0x70f, 0x70f), (0x200b, 0x200d)])),
  (["hl", "hebrewletter"], wordHebrewLetter), (["ka", "katakana"], wordKatakana),
  (["lf"], [(0xa, 0xa)]),
  (["ml", "midletter"], [
    (0x3a, 0x3a), (0xb7, 0xb7), (0x387, 0x387), (0x55f, 0x55f), (0x5f4, 0x5f4),
    (0x2027, 0x2027), (0xfe13, 0xfe13), (0xfe55, 0xfe55), (0xff1a, 0xff1a)]),
  (["mn", "midnum"], [
    (0x2c, 0x2c), (0x3b, 0x3b), (0x37e, 0x37e), (0x589, 0x589), (0x60c, 0x60d), (0x66c, 0x66c),
    (0x7f8, 0x7f8), (0x2044, 0x2044), (0xfe10, 0xfe10), (0xfe14, 0xfe14), (0xfe50, 0xfe50),
    (0xfe54, 0xfe54), (0xff0c, 0xff0c), (0xff1b, 0xff1b)]),
  (["mb", "midnumlet"], [
    (0x2e, 0x2e), (0x2018, 0x2019), (0x2024, 0x2024), (0xfe52, 0xfe52), (0xff07, 0xff07),
    (0xff0e, 0xff0e)]),
  (["nl", "newline"], [(0xb, 0xc), (0x85, 0x85), (0x2028, 0x2029)]),
  (["nu", "numeric"], (ofCategories ["nd"]).union [(0x66b, 0x66b)]),
  (["ri", "regionalindicator"], regionalIndicator), (["sq", "singlequote"], [(0x27, 0x27)]),
  (["wsegspace"],
    (ofCategories ["zs"]).difference [(0xa0, 0xa0), (0x2007, 0x2007), (0x202f, 0x202f)]),
  (["zwj"], [(0x200d, 0x200d)])]

/-! ## sentences -/

/-- What extends the character before it in a sentence. -/
def sentenceExtend : Text.Ranges :=
  (graphemeExtend.union (ofCategories ["mc"])).union [(0x200d, 0x200d)]

/-- The lower case of a sentence. -/
def sentenceLower : Text.Ranges :=
  lowercase.difference (graphemeExtend.union [(0x10d0, 0x10fa), (0x10fd, 0x10ff)])

/-- The upper case of a sentence. -/
def sentenceUpper : Text.Ranges :=
  ((ofCategories ["lt"]).union uppercase).difference [(0x1c90, 0x1cba), (0x1cbd, 0x1cbf)]

/-- The full stops, which may also stand inside a sentence. -/
def sentenceStop : Text.Ranges :=
  [(0x2e, 0x2e), (0x2024, 0x2024), (0xfe52, 0xfe52), (0xff0e, 0xff0e)]

/-- What the characters are to the boundaries of sentences. -/
def sentenceBreaks : PropertyTable := [
  (["at", "aterm"], sentenceStop), (["cr"], [(0xd, 0xd)]),
  (["cl", "close"],
    ((ofCategories ["ps", "pe", "pi", "pf"]).union [
      (0x22, 0x22), (0x27, 0x27), (0x275b, 0x2760), (0x2e00, 0x2e01), (0x2e06, 0x2e08),
      (0x2e0b, 0x2e0b), (0x1f676, 0x1f678)]).difference sentenceTerminal),
  (["ex", "extend"], sentenceExtend),
  (["fo", "format"], (ofCategories ["cf"]).difference (sentenceExtend.union [(0x200c, 0x200d)])),
  (["lf"], [(0xa, 0xa)]), (["lo", "lower"], sentenceLower),
  (["nu", "numeric"], (ofCategories ["nd"]).union [(0x66b, 0x66c)]),
  (["le", "oletter"],
    (alphabetic.union [(0x5f3, 0x5f3)]).difference
      ((sentenceLower.union sentenceUpper).union sentenceExtend)),
  (["sc", "scontinue"], [
    (0x2c, 0x2d), (0x3a, 0x3a), (0x55d, 0x55d), (0x60c, 0x60d), (0x7f8, 0x7f8),
    (0x1802, 0x1802), (0x1808, 0x1808), (0x2013, 0x2014), (0x3001, 0x3001), (0xfe10, 0xfe11),
    (0xfe13, 0xfe13), (0xfe31, 0xfe32), (0xfe50, 0xfe51), (0xfe55, 0xfe55), (0xfe58, 0xfe58),
    (0xfe63, 0xfe63), (0xff0c, 0xff0d), (0xff1a, 0xff1a), (0xff64, 0xff64)]),
  (["st", "sterm"], sentenceTerminal.difference sentenceStop),
  (["se", "sep"], [(0x85, 0x85), (0x2028, 0x2029)]),
  (["sp"], Text.blank.difference [(0xa, 0xa), (0xd, 0xd), (0x85, 0x85), (0x2028, 0x2029)]),
  (["up", "upper"], sentenceUpper)]

end Extractor.Regex.Unicode
