import Extractor.Regex.Unicode.Category
import Extractor.Text.Alphabetic
import Extractor.Text.Blank
import Extractor.Text.Printable
import Extractor.Text.Word

/-!
# Extractor.Regex.Unicode.Binary

The properties that a character has or has not. Most of them are derived, as the
standard does it, from the general categories and a list of further characters; the
lists are properties of their own.
-/

namespace Extractor.Regex.Unicode

/-! ## lists -/

/-- The digits of hexadecimal numbers in ASCII. -/
def asciiHexDigit : Text.Ranges := [(0x30, 0x39), (0x41, 0x46), (0x61, 0x66)]

/-- The digits of hexadecimal numbers. -/
def hexDigit : Text.Ranges := [
  (0x30, 0x39), (0x41, 0x46), (0x61, 0x66), (0xff10, 0xff19), (0xff21, 0xff26), (0xff41, 0xff46)]

/-- The controls of the direction of writing. -/
def bidiControl : Text.Ranges := [
  (0x61c, 0x61c), (0x200e, 0x200f), (0x202a, 0x202e), (0x2066, 0x2069)]

/-- What is mirrored where the direction of writing is. -/
def bidiMirrored : Text.Ranges := .ofLengths [
  40, 2, 18, 1, 1, 1, 28, 1, 1, 1, 29, 1, 1, 1, 45, 1, 15, 1, 3710, 4, 1885, 2, 2460, 2, 10, 2, 54,
  2, 14, 2, 177, 1, 192, 4, 3, 6, 3, 1, 3, 2, 3, 4, 1, 4, 1, 1, 1, 1, 4, 9, 5, 1, 1, 18, 5, 4, 9,
  2, 1, 1, 1, 8, 1, 32, 2, 4, 5, 1, 9, 2, 2, 19, 5, 2, 9, 5, 2, 2, 4, 24, 2, 16, 8, 4, 20, 2, 7, 2,
  1085, 14, 74, 1, 2, 4, 1, 2, 1, 3, 5, 4, 5, 3, 3, 14, 403, 22, 2, 6, 1, 14, 8, 1, 7, 6, 3, 1, 4,
  5, 1, 2, 2, 5, 4, 1, 1, 3, 2, 2, 10, 6, 2, 2, 12, 19, 1, 4, 2, 1, 1, 1, 2, 1, 1, 4, 5, 2, 6, 3,
  24, 2, 11, 2, 4, 4, 1, 2, 2, 2, 4, 43, 2, 8, 1, 40, 5, 1, 1, 1, 3, 5, 5, 3, 4, 1, 3, 5, 1, 1,
  256, 1, 515, 4, 3, 2, 1, 2, 14, 2, 2, 10, 43, 8, 427, 10, 2, 8, 52797, 6, 5, 2, 162, 2, 18, 1, 1,
  1, 28, 1, 1, 1, 29, 1, 1, 1, 1, 2, 1, 2, 55159, 1, 57, 1, 57, 1, 57, 1, 57, 1]

/-- What should not be used any more. -/
def deprecated : Text.Ranges := [
  (0x149, 0x149), (0x673, 0x673), (0xf77, 0xf77), (0xf79, 0xf79), (0x17a3, 0x17a4),
  (0x206a, 0x206f), (0x2329, 0x232a), (0xe0001, 0xe0001)]

/-- What changes the character beside it. -/
def diacritic : Text.Ranges := .ofLengths [
  94, 1, 1, 1, 71, 1, 6, 1, 4, 1, 2, 2, 503, 159, 1, 8, 5, 6, 17, 2, 4, 1, 9, 2, 253, 5, 209, 1,
  55, 45, 1, 1, 1, 2, 1, 2, 1, 1, 131, 8, 4, 2, 134, 2, 4, 2, 3, 3, 67, 27, 91, 11, 58, 11, 34, 2,
  126, 8, 41, 10, 16, 28, 61, 1, 16, 1, 3, 4, 28, 1, 74, 1, 16, 1, 110, 1, 16, 1, 110, 1, 16, 1,
  47, 3, 60, 1, 16, 1, 7, 1, 119, 1, 110, 1, 16, 1, 110, 1, 16, 1, 109, 2, 16, 1, 124, 1, 111, 1,
  12, 6, 1, 1, 107, 1, 13, 5, 75, 2, 27, 1, 1, 1, 1, 1, 4, 2, 66, 3, 1, 2, 62, 1, 112, 1, 1, 2, 40,
  2, 4, 5, 25, 7, 1, 1, 10, 2, 705, 3, 948, 2, 30, 1, 148, 11, 9, 1, 347, 3, 292, 1, 20, 8, 2, 1,
  48, 15, 2, 11, 104, 1, 15, 1, 38, 9, 54, 2, 58, 1, 11, 2, 66, 2, 64, 6, 82, 25, 4, 1, 6, 1, 2, 3,
  50, 63, 48, 36, 5, 12, 37, 11, 445, 1, 1, 3, 11, 3, 13, 3, 13, 3, 13, 2, 3312, 3, 317, 1, 506, 6,
  105, 4, 95, 1, 30066, 1, 12, 2, 1, 1, 28, 2, 82, 2, 14, 34, 102, 3, 109, 2, 12, 1, 37, 1, 151, 1,
  27, 18, 57, 4, 36, 1, 95, 1, 12, 1, 36, 1, 149, 3, 65, 4, 51, 1, 100, 5, 9, 3, 128, 2, 20272, 1,
  769, 16, 270, 1, 1, 1, 47, 1, 45, 2, 67, 1, 764, 1, 1183, 6, 1, 42, 1, 9, 637, 3, 4, 1, 165, 2,
  571, 6, 38, 1, 26, 5, 399, 3, 70, 11, 49, 4, 192, 1, 41, 1, 72, 2, 120, 2, 62, 1, 76, 1, 9, 3,
  104, 2, 178, 2, 80, 2, 16, 1, 24, 7, 3, 5, 89, 3, 1, 2, 13, 2, 95, 1, 3, 1, 123, 2, 251, 2, 126,
  1, 118, 2, 115, 1, 269, 2, 258, 2, 4, 1, 156, 1, 83, 1, 18, 1, 81, 1, 421, 1, 258, 1, 1, 2, 81,
  1, 425, 2, 23, 1, 5356, 15, 11481, 1, 2496, 5, 59, 7, 564, 2, 546, 17, 80, 2, 16382, 4, 1, 7, 1,
  2, 7937, 46, 2, 23, 544, 3, 3, 6, 8, 8, 2, 7, 30, 4, 3714, 62, 194, 7, 375, 1, 61, 4, 766, 2,
  736, 7, 109, 3, 1, 3]

/-- The emoji. -/
def emoji : Text.Ranges := .ofLengths [
  35, 1, 6, 1, 5, 10, 111, 1, 4, 1, 8077, 1, 12, 1, 216, 1, 22, 1, 90, 6, 15, 2, 367, 2, 12, 1,
  166, 1, 25, 11, 4, 3, 199, 1, 231, 2, 10, 1, 9, 1, 58, 4, 1, 5, 9, 1, 2, 1, 2, 2, 2, 1, 4, 1, 2,
  1, 1, 2, 2, 1, 3, 1, 3, 2, 8, 3, 5, 1, 1, 1, 5, 12, 11, 2, 2, 1, 1, 2, 1, 1, 18, 1, 2, 2, 18, 6,
  1, 1, 1, 2, 3, 2, 5, 1, 2, 2, 4, 2, 11, 2, 5, 2, 2, 1, 5, 2, 1, 1, 1, 2, 20, 2, 5, 6, 1, 4, 2, 1,
  4, 1, 2, 1, 2, 6, 1, 1, 2, 1, 1, 1, 1, 1, 6, 1, 3, 1, 6, 1, 10, 2, 15, 1, 2, 1, 4, 1, 1, 1, 4, 3,
  1, 1, 11, 2, 48, 3, 9, 1, 14, 1, 14, 1, 372, 2, 463, 3, 19, 2, 51, 1, 4, 1, 1242, 1, 12, 1, 601,
  1, 1, 1, 114026, 1, 202, 1, 160, 2, 12, 2, 14, 1, 2, 10, 75, 26, 1, 2, 23, 1, 20, 1, 2, 9, 21, 2,
  174, 34, 2, 112, 2, 2, 1, 3, 2, 83, 2, 3, 1, 263, 1, 63, 11, 6, 1, 24, 7, 2, 2, 8, 12, 1, 2, 4,
  2, 1, 4, 2, 13, 2, 2, 1, 8, 2, 9, 1, 5, 3, 12, 3, 8, 3, 2, 1, 1, 1, 4, 1, 6, 1, 3, 1, 6, 86, 48,
  70, 5, 8, 2, 3, 4, 10, 3, 1, 1, 2, 3, 1, 2, 10, 227, 12, 4, 1, 283, 47, 1, 10, 1, 185, 112, 13,
  3, 10, 5, 56, 7, 15, 2, 11, 6, 9]

/-- The parts of emoji. -/
def emojiComponent : Text.Ranges := [
  (0x23, 0x23), (0x2a, 0x2a), (0x30, 0x39), (0x200d, 0x200d), (0x20e3, 0x20e3), (0xfe0f, 0xfe0f),
  (0x1f1e6, 0x1f1ff), (0x1f3fb, 0x1f3ff), (0x1f9b0, 0x1f9b3), (0xe0020, 0xe007f)]

/-- What modifies an emoji. -/
def emojiModifier : Text.Ranges := [(0x1f3fb, 0x1f3ff)]

/-- The emoji that can be modified. -/
def emojiModifierBase : Text.Ranges := .ofLengths [
  9757, 1, 219, 1, 16, 4, 117879, 1, 60, 3, 2, 1, 2, 3, 117, 2, 2, 11, 21, 19, 3, 1, 4, 3, 1, 3, 7,
  1, 1, 1, 24, 1, 201, 2, 4, 1, 21, 1, 4, 2, 174, 3, 3, 5, 83, 1, 16, 3, 9, 1, 11, 1, 575, 1, 2, 1,
  8, 8, 6, 1, 9, 10, 2, 3, 56, 1, 61, 2, 1, 2, 1, 1, 17, 3, 1, 13, 229, 3, 42, 9]

/-- What is shown as an emoji. -/
def emojiPresentation : Text.Ranges := .ofLengths [
  8986, 2, 205, 4, 3, 1, 2, 1, 521, 2, 21, 2, 50, 12, 43, 1, 19, 1, 13, 1, 8, 2, 17, 2, 5, 2, 8, 1,
  5, 1, 21, 1, 7, 2, 1, 1, 4, 1, 2, 1, 7, 1, 4, 2, 28, 1, 35, 1, 1, 1, 4, 3, 1, 1, 61, 3, 24, 1,
  14, 1, 859, 2, 51, 1, 4, 1, 115886, 1, 202, 1, 190, 1, 2, 10, 75, 26, 1, 1, 24, 1, 20, 1, 2, 5,
  1, 3, 21, 2, 174, 33, 12, 9, 1, 70, 1, 22, 12, 43, 4, 5, 12, 17, 3, 1, 3, 71, 1, 1, 1, 187, 2,
  63, 13, 4, 1, 24, 18, 1, 26, 2, 13, 1, 86, 85, 48, 70, 6, 1, 3, 3, 2, 3, 4, 4, 11, 2, 7, 9, 227,
  12, 4, 1, 283, 47, 1, 10, 1, 185, 112, 13, 3, 10, 5, 56, 7, 15, 2, 11, 6, 9]

/-- The pictographs, with those that may become emoji. -/
def extendedPictographic : Text.Ranges := .ofLengths [
  169, 1, 4, 1, 8077, 1, 12, 1, 216, 1, 22, 1, 90, 6, 15, 2, 367, 2, 12, 1, 166, 1, 25, 11, 4, 3,
  199, 1, 231, 2, 10, 1, 9, 1, 58, 4, 1, 5, 9, 1, 2, 1, 2, 2, 2, 1, 4, 1, 2, 1, 1, 2, 2, 1, 3, 1,
  3, 2, 8, 3, 5, 1, 1, 1, 5, 12, 11, 2, 2, 1, 1, 2, 1, 1, 18, 1, 2, 2, 18, 6, 1, 1, 1, 2, 3, 2, 5,
  1, 2, 2, 4, 2, 11, 2, 5, 2, 2, 1, 5, 2, 1, 1, 1, 2, 20, 2, 5, 6, 1, 4, 2, 1, 4, 1, 2, 1, 2, 6, 1,
  1, 2, 1, 1, 1, 1, 1, 6, 1, 3, 1, 6, 1, 10, 2, 15, 1, 2, 1, 4, 1, 1, 1, 4, 3, 1, 1, 11, 2, 48, 3,
  9, 1, 14, 1, 14, 1, 372, 2, 463, 3, 19, 2, 51, 1, 4, 1, 1242, 1, 12, 1, 601, 1, 1, 1, 114026, 1,
  39, 4, 100, 12, 15, 2, 15, 1, 14, 2, 37, 10, 112, 2, 12, 2, 14, 1, 2, 10, 19, 56, 27, 15, 10, 1,
  20, 1, 2, 9, 1, 4, 9, 23, 6, 188, 2, 112, 2, 2, 1, 3, 2, 83, 2, 3, 1, 4, 5, 254, 1, 63, 11, 6, 1,
  24, 7, 2, 2, 8, 12, 1, 2, 4, 2, 1, 4, 2, 13, 2, 2, 1, 8, 2, 9, 1, 5, 3, 12, 3, 8, 3, 2, 1, 1, 1,
  4, 1, 6, 1, 3, 1, 6, 86, 48, 70, 5, 8, 2, 3, 1, 13, 3, 1, 1, 6, 2, 13, 218, 38, 12, 4, 56, 8, 10,
  6, 40, 8, 30, 2, 12, 4, 2, 14, 9, 39, 12, 47, 1, 10, 1, 185, 88, 8, 14, 28, 1, 3, 1, 57, 1, 4, 1,
  28, 1, 4, 1, 16, 256, 1022]

/-- What lengthens the character before it. -/
def extender : Text.Ranges := .ofLengths [
  183, 1, 536, 2, 878, 1, 441, 1, 630, 1, 137, 1, 89, 1, 752, 1, 127, 1, 2371, 1, 56, 1, 611, 1,
  398, 1, 68, 1, 5001, 1, 43, 5, 103, 2, 93, 3, 28438, 1, 1526, 1, 962, 1, 22, 1, 137, 1, 108, 1,
  21, 2, 21627, 1, 2064, 2, 1483, 1, 27, 1, 4, 1, 1223, 1, 293, 1, 116, 2, 498, 3, 1231, 1, 20649,
  2, 1180, 2, 1, 1, 29016, 2, 1201, 1, 852, 3]

/-- The hyphens. -/
def hyphen : Text.Ranges := [
  (0x2d, 0x2d), (0xad, 0xad), (0x58a, 0x58a), (0x1806, 0x1806), (0x2010, 0x2011), (0x2e17, 0x2e17),
  (0x30fb, 0x30fb), (0xfe63, 0xfe63), (0xff0d, 0xff0d), (0xff65, 0xff65)]

/-- What binds consonants together. -/
def graphemeLink : Text.Ranges := .ofLengths [
  2381, 1, 127, 1, 127, 1, 127, 1, 127, 1, 127, 1, 127, 1, 127, 1, 109, 2, 16, 1, 124, 1, 111, 1,
  127, 1, 201, 1, 180, 2, 1753, 2, 30, 1, 157, 1, 653, 1, 227, 1, 101, 2, 70, 2, 4491, 1, 31366, 1,
  37, 1, 151, 1, 142, 1, 108, 1, 309, 1, 246, 1, 24145, 1, 1542, 1, 41, 1, 14, 1, 57, 1, 121, 2,
  139, 1, 116, 1, 180, 1, 98, 1, 128, 3, 113, 1, 127, 1, 252, 1, 127, 1, 118, 1, 116, 1, 269, 1,
  259, 2, 161, 1, 83, 1, 18, 1, 81, 1, 421, 1, 260, 2, 81, 1, 425, 2, 16876, 1]

/-- The operators that describe an ideograph by two parts. -/
def idsBinaryOperator : Text.Ranges := [(0x2ff0, 0x2ff1), (0x2ff4, 0x2ffd), (0x31ef, 0x31ef)]

/-- The operators that describe an ideograph by three parts. -/
def idsTrinaryOperator : Text.Ranges := [(0x2ff2, 0x2ff3)]

/-- The operators that describe an ideograph by one part. -/
def idsUnaryOperator : Text.Ranges := [(0x2ffe, 0x2fff)]

/-- The symbols of mathematics that may start an identifier. -/
def idCompatMathStart : Text.Ranges := [
  (0x2202, 0x2202), (0x2207, 0x2207), (0x221e, 0x221e), (0x1d6c1, 0x1d6c1), (0x1d6db, 0x1d6db),
  (0x1d6fb, 0x1d6fb), (0x1d715, 0x1d715), (0x1d735, 0x1d735), (0x1d74f, 0x1d74f),
  (0x1d76f, 0x1d76f), (0x1d789, 0x1d789), (0x1d7a9, 0x1d7a9), (0x1d7c3, 0x1d7c3)]

/-- The symbols of mathematics that may only go on with an identifier. -/
def idCompatMathMore : Text.Ranges := [
  (0xb2, 0xb3), (0xb9, 0xb9), (0x2070, 0x2070), (0x2074, 0x207e), (0x2080, 0x208e)]

/-- The ideographs. -/
def ideographic : Text.Ranges := .ofLengths [
  12294, 2, 25, 9, 14, 3, 965, 6592, 64, 20992, 22784, 366, 2, 106, 29962, 1, 27, 6136, 8, 1238,
  41, 10, 9319, 396, 19716, 42720, 32, 4154, 6, 222, 2, 5762, 14, 7473, 15, 622, 2466, 542, 1506,
  4939, 5, 4192]

/-- The ideographs of Chinese, Japanese and Korean. -/
def unifiedIdeograph : Text.Ranges := [
  (0x3400, 0x4dbf), (0x4e00, 0x9fff), (0xfa0e, 0xfa0f), (0xfa11, 0xfa11), (0xfa13, 0xfa14),
  (0xfa1f, 0xfa1f), (0xfa21, 0xfa21), (0xfa23, 0xfa24), (0xfa27, 0xfa29), (0x20000, 0x2a6df),
  (0x2a700, 0x2b739), (0x2b740, 0x2b81d), (0x2b820, 0x2cea1), (0x2ceb0, 0x2ebe0),
  (0x2ebf0, 0x2ee5d), (0x30000, 0x3134a), (0x31350, 0x323af)]

/-- The controls of the joining of letters. -/
def joinControl : Text.Ranges := [(0x200c, 0x200d)]

/-- The vowels that are written before the consonant they follow. -/
def logicalOrderException : Text.Ranges := [
  (0xe40, 0xe44), (0xec0, 0xec4), (0x19b5, 0x19b7), (0x19ba, 0x19ba), (0xaab5, 0xaab6),
  (0xaab9, 0xaab9), (0xaabb, 0xaabc)]

/-- The marks that are put first among their kind. -/
def modifierCombiningMark : Text.Ranges := [
  (0x654, 0x655), (0x658, 0x658), (0x6dc, 0x6dc), (0x6e3, 0x6e3), (0x6e7, 0x6e8), (0x8ca, 0x8cb),
  (0x8cd, 0x8cf), (0x8d3, 0x8d3), (0x8f3, 0x8f3)]

/-- The code points that are never characters. -/
def noncharacter : Text.Ranges := [
  (0xfdd0, 0xfdef), (0xfffe, 0xffff), (0x1fffe, 0x1ffff), (0x2fffe, 0x2ffff), (0x3fffe, 0x3ffff),
  (0x4fffe, 0x4ffff), (0x5fffe, 0x5ffff), (0x6fffe, 0x6ffff), (0x7fffe, 0x7ffff),
  (0x8fffe, 0x8ffff), (0x9fffe, 0x9ffff), (0xafffe, 0xaffff), (0xbfffe, 0xbffff),
  (0xcfffe, 0xcffff), (0xdfffe, 0xdffff), (0xefffe, 0xeffff), (0xffffe, 0xfffff),
  (0x10fffe, 0x10ffff)]

/-- What the syntax of patterns is kept free for. -/
def patternSyntax : Text.Ranges := .ofLengths [
  33, 15, 10, 7, 26, 4, 1, 1, 26, 4, 34, 7, 1, 1, 1, 2, 1, 1, 1, 2, 4, 1, 4, 1, 3, 1, 23, 1, 31, 1,
  7960, 24, 8, 15, 2, 19, 1, 10, 305, 720, 160, 630, 30, 1132, 512, 128, 385, 3, 4, 25, 15, 1,
  52493, 2, 261, 2]

/-- The white space of patterns. -/
def patternWhiteSpace : Text.Ranges := [
  (0x9, 0xd), (0x20, 0x20), (0x85, 0x85), (0x200e, 0x200f), (0x2028, 0x2029)]

/-- The marks that stand before the digits they span. -/
def prependedConcatenationMark : Text.Ranges := [
  (0x600, 0x605), (0x6dd, 0x6dd), (0x70f, 0x70f), (0x890, 0x891), (0x8e2, 0x8e2),
  (0x110bd, 0x110bd), (0x110cd, 0x110cd)]

/-- The quotation marks. -/
def quotationMark : Text.Ranges := [
  (0x22, 0x22), (0x27, 0x27), (0xab, 0xab), (0xbb, 0xbb), (0x2018, 0x201f), (0x2039, 0x203a),
  (0x2e42, 0x2e42), (0x300c, 0x300f), (0x301d, 0x301f), (0xfe41, 0xfe44), (0xff02, 0xff02),
  (0xff07, 0xff07), (0xff62, 0xff63)]

/-- The radicals of ideographs. -/
def radical : Text.Ranges := [(0x2e80, 0x2e99), (0x2e9b, 0x2ef3), (0x2f00, 0x2fd5)]

/-- The letters of which flags are made. -/
def regionalIndicator : Text.Ranges := [(0x1f1e6, 0x1f1ff)]

/-- What ends a sentence. -/
def sentenceTerminal : Text.Ranges := .ofLengths [
  33, 1, 12, 1, 16, 1, 1353, 1, 147, 3, 180, 1, 43, 3, 246, 1, 61, 1, 1, 1, 3, 2, 293, 2, 1764, 2,
  790, 1, 4, 2, 773, 1, 198, 2, 157, 2, 45, 1, 5, 1, 314, 2, 354, 4, 162, 2, 10, 2, 2, 2, 29, 3,
  187, 2, 65, 2, 932, 1, 23, 2, 9, 3, 3247, 3, 306, 1, 13, 1, 22, 2, 429, 1, 29948, 1, 270, 2, 227,
  1, 3, 1, 382, 2, 86, 2, 95, 1, 152, 2, 147, 3, 144, 2, 249, 1, 21030, 1, 2, 2, 59, 1, 3, 2, 169,
  1, 12, 1, 16, 1, 65, 1, 2804, 2, 1277, 5, 44, 4, 189, 2, 117, 4, 127, 3, 129, 2, 6, 1, 16, 2, 88,
  2, 1, 2, 108, 1, 298, 2, 117, 2, 373, 2, 5, 15, 105, 2, 249, 3, 517, 1, 1, 1, 251, 2, 87, 2, 420,
  2, 692, 2, 74, 2, 19241, 2, 133, 1, 65, 2, 11, 1, 553, 2, 296, 1, 19974, 1, 7656, 1]

/-- The letters whose dot goes away under an accent. -/
def softDotted : Text.Ranges := .ofLengths [
  105, 2, 196, 1, 281, 1, 30, 1, 52, 1, 20, 1, 320, 1, 98, 1, 1, 1, 6409, 1, 51, 1, 13, 1, 3, 1,
  132, 1, 157, 1, 421, 1, 214, 2, 2866, 1, 108453, 2, 50, 2, 50, 2, 50, 2, 50, 2, 50, 2, 50, 2, 50,
  2, 50, 2, 50, 2, 50, 2, 50, 2, 50, 2, 2182, 1, 305, 2, 26, 1]

/-- What chooses between the shapes of a character. -/
def variationSelector : Text.Ranges := [
  (0x180b, 0x180d), (0x180f, 0x180f), (0xfe00, 0xfe0f), (0xe0100, 0xe01ef)]

/-! ## derived properties -/

/-- What counts as lower case without being a letter of it. -/
def otherLowercase : Text.Ranges := .ofLengths [
  170, 1, 15, 1, 501, 9, 7, 2, 30, 5, 96, 1, 52, 1, 3457, 1, 3119, 63, 13, 1, 34, 37, 689, 1, 13,
  1, 16, 13, 211, 16, 848, 26, 1938, 2, 31262, 2, 210, 1, 129, 3, 3, 2, 866, 4, 9, 1, 23574, 1, 2,
  3, 1, 42, 1, 9, 55413, 62]

/-- The lower case. -/
def lowercase : Text.Ranges := (ofCategories ["ll"]).union otherLowercase

/-- What counts as upper case without being a letter of it. -/
def otherUppercase : Text.Ranges := [
  (0x2160, 0x216f), (0x24b6, 0x24cf), (0x1f130, 0x1f149), (0x1f150, 0x1f169), (0x1f170, 0x1f189)]

/-- The upper case. -/
def uppercase : Text.Ranges := (ofCategories ["lu"]).union otherUppercase

/-- What has a case. -/
def cased : Text.Ranges := (lowercase.union uppercase).union (ofCategories ["lt"])

/-- What is ignored around a letter with a case, beside whole categories. -/
def otherCaseIgnorable : Text.Ranges := [
  (0x27, 0x27), (0x2e, 0x2e), (0x3a, 0x3a), (0xb7, 0xb7), (0x387, 0x387), (0x55f, 0x55f),
  (0x5f4, 0x5f4), (0x2018, 0x2019), (0x2024, 0x2024), (0x2027, 0x2027), (0xfe13, 0xfe13),
  (0xfe52, 0xfe52), (0xfe55, 0xfe55), (0xff07, 0xff07), (0xff0e, 0xff0e), (0xff1a, 0xff1a)]

/-- What is ignored around a letter with a case. -/
def caseIgnorable : Text.Ranges :=
  (ofCategories ["mn", "me", "cf", "lm", "sk"]).union otherCaseIgnorable

/-- What is alphabetic. -/
def alphabetic : Text.Ranges := Text.alphabetic.difference Text.latest

/-- What counts as alphabetic without being a letter, and some symbols that have a case as well. -/
def otherAlphabetic : Text.Ranges :=
  (alphabetic.difference ((lowercase.union uppercase).union
    (ofCategories ["lt", "lm", "lo", "nl"]))).union
    [(0x345, 0x345), (0x24b6, 0x24e9), (0x1f130, 0x1f149), (0x1f150, 0x1f169), (0x1f170, 0x1f189)]

/-- The letters of upper and of title case that have no lower case. -/
def lowercaseFixed : Text.Ranges := .ofLengths [
  978, 3, 7469, 1, 4, 1, 3, 3, 2, 3, 2, 1, 3, 5, 6, 1, 3, 1, 3, 2, 2, 2, 1, 1, 10, 2, 5, 1, 111290,
  26, 26, 26, 26, 26, 26, 1, 1, 2, 2, 1, 2, 2, 2, 4, 1, 8, 26, 26, 26, 2, 1, 4, 2, 8, 1, 7, 27, 2,
  1, 4, 1, 5, 1, 1, 3, 7, 27, 26, 26, 26, 26, 26, 26, 26, 26, 26, 26, 26, 30, 25, 33, 25, 33, 25,
  33, 25, 33, 25, 33, 1]

/-- What changes in lower case. -/
def changesWhenLowercased : Text.Ranges :=
  ((ofCategories ["lu", "lt"]).difference lowercaseFixed).union
    [(0x2160, 0x216f), (0x24b6, 0x24cf)]

/-- The letters of lower case that have no upper case. -/
def uppercaseFixed : Text.Ranges := .ofLengths [
  312, 1, 84, 1, 28, 2, 14, 1, 3, 1, 98, 1, 18, 6, 27, 1, 2, 1, 1, 1, 2, 3, 2, 1, 4, 1, 5, 2, 1, 1,
  2, 2, 1, 7, 1, 2, 1, 1, 2, 3, 6, 5, 1, 1, 1, 8, 2, 17, 332, 1, 355, 1, 39, 1, 6007, 44, 63, 13,
  2, 3, 1, 16, 1, 12, 257, 2, 1, 1, 618, 1, 3, 2, 3, 1, 27, 1, 4, 1, 4, 1, 2, 2, 8, 4, 2855, 1, 2,
  1, 2, 5, 104, 1, 31307, 2, 63, 8, 21, 1, 6, 1, 25, 1, 74, 1, 821, 35, 1, 7, 5, 9, 75953, 26, 26,
  7, 1, 18, 26, 26, 26, 4, 1, 1, 1, 7, 1, 11, 26, 26, 26, 26, 26, 26, 26, 26, 26, 26, 26, 26, 26,
  26, 26, 26, 26, 28, 28, 25, 1, 6, 26, 25, 1, 6, 26, 25, 1, 6, 26, 25, 1, 6, 26, 25, 1, 6, 1, 1,
  1844, 10, 1, 20, 6, 6]

/-- What changes in upper case. -/
def changesWhenUppercased : Text.Ranges :=
  ((ofCategories ["ll"]).difference uppercaseFixed).union [
    (0x1c5, 0x1c5), (0x1c8, 0x1c8), (0x1cb, 0x1cb), (0x1f2, 0x1f2), (0x345, 0x345),
    (0x1f88, 0x1f8f), (0x1f98, 0x1f9f), (0x1fa8, 0x1faf), (0x1fbc, 0x1fbc), (0x1fcc, 0x1fcc),
    (0x1ffc, 0x1ffc), (0x2170, 0x217f), (0x24d0, 0x24e9)]

/-- What changes in title case. -/
def changesWhenTitlecased : Text.Ranges :=
  (changesWhenUppercased.difference [
    (0x1c5, 0x1c5), (0x1c8, 0x1c8), (0x1cb, 0x1cb), (0x1f2, 0x1f2), (0x10d0, 0x10fa),
    (0x10fd, 0x10ff), (0x1f88, 0x1f8f), (0x1f98, 0x1f9f), (0x1fa8, 0x1faf), (0x1fbc, 0x1fbc),
    (0x1fcc, 0x1fcc), (0x1ffc, 0x1ffc)]).union
    [(0x1c4, 0x1c4), (0x1c7, 0x1c7), (0x1ca, 0x1ca), (0x1f1, 0x1f1)]

/-- What changes where case is folded. -/
def changesWhenCasefolded : Text.Ranges :=
  (changesWhenLowercased.difference [(0x13a0, 0x13f5)]).union (.ofLengths [
    181, 1, 41, 1, 105, 1, 53, 1, 453, 1, 124, 1, 13, 2, 3, 2, 25, 2, 3, 1, 401, 1, 3696, 6, 2178,
    9, 529, 2, 228, 8, 8, 8, 8, 8, 10, 3, 2, 1, 10, 3, 2, 1, 42, 3, 2, 1, 35704, 80, 20288, 7, 12,
    5])

/-- What changes in another case. -/
def changesWhenCasemapped : Text.Ranges :=
  (changesWhenLowercased.union changesWhenUppercased).union changesWhenTitlecased

/-- The dashes. -/
def dash : Text.Ranges :=
  (ofCategories ["pd"]).union
    [(0x2053, 0x2053), (0x207b, 0x207b), (0x208b, 0x208b), (0x2212, 0x2212)]

/-- What is not drawn, beside controls and selectors. -/
def otherDefaultIgnorable : Text.Ranges := [
  (0x34f, 0x34f), (0x115f, 0x1160), (0x17b4, 0x17b5), (0x2065, 0x2065), (0x3164, 0x3164),
  (0xffa0, 0xffa0), (0xfff0, 0xfff8), (0xe0000, 0xe0000), (0xe0002, 0xe001f),
  (0xe0080, 0xe00ff), (0xe01f0, 0xe0fff)]

/-- What attaches to the character before it, beside the marks without width. -/
def otherGraphemeExtend : Text.Ranges := .ofLengths [
  2494, 1, 24, 1, 358, 1, 24, 1, 102, 1, 24, 1, 232, 1, 1, 1, 4, 2, 1, 2, 9, 2, 103, 1, 24, 1, 119,
  1, 15, 1, 2357, 1, 30, 1, 1024, 1, 5, 1, 1, 1, 5, 2, 101, 1, 71, 2, 1048, 1, 4129, 2, 31011, 1,
  108, 1, 21981, 2, 4640, 1, 116, 1, 264, 1, 14, 1, 9, 1, 96, 1, 9, 1, 2, 1, 1, 3, 5, 1, 224, 1,
  12, 1, 241, 1, 262, 1, 633, 1, 12, 1, 1539, 1, 20654, 2, 24947, 2, 6, 6, 798381, 96]

/-- What attaches to the character before it. -/
def graphemeExtend : Text.Ranges := (ofCategories ["me", "mn"]).union otherGraphemeExtend

/-- What others attach to. -/
def graphemeBase : Text.Ranges :=
  ((ofCategories ["cc", "cf", "cn", "co", "zl", "zp"]).union graphemeExtend).complement

/-- What may start an identifier, beside letters. -/
def otherIdStart : Text.Ranges :=
  [(0x1885, 0x1886), (0x2118, 0x2118), (0x212e, 0x212e), (0x309b, 0x309c)]

/-- What may start an identifier. -/
def idStart : Text.Ranges :=
  ((ofCategories ["lu", "ll", "lt", "lm", "lo", "nl"]).union otherIdStart).difference patternSyntax

/-- What may go on with an identifier, beside marks, digits and connectors. -/
def otherIdContinue : Text.Ranges := [
  (0xb7, 0xb7), (0x387, 0x387), (0x1369, 0x1371), (0x19da, 0x19da), (0x200c, 0x200d),
  (0x30fb, 0x30fb), (0xff65, 0xff65)]

/-- What may go on with an identifier. -/
def idContinue : Text.Ranges :=
  ((idStart.union (ofCategories ["mn", "mc", "nd", "pc"])).union otherIdContinue).difference
    patternSyntax

/-- What may start an identifier, and does so in its normal form. -/
def xidStart : Text.Ranges := idStart.difference [
  (0x37a, 0x37a), (0xe33, 0xe33), (0xeb3, 0xeb3), (0x309b, 0x309c), (0xfc5e, 0xfc63),
  (0xfdfa, 0xfdfb), (0xfe70, 0xfe70), (0xfe72, 0xfe72), (0xfe74, 0xfe74), (0xfe76, 0xfe76),
  (0xfe78, 0xfe78), (0xfe7a, 0xfe7a), (0xfe7c, 0xfe7c), (0xfe7e, 0xfe7e), (0xff9e, 0xff9f)]

/-- What may go on with an identifier, and does so in its normal form. -/
def xidContinue : Text.Ranges := idContinue.difference [
  (0x37a, 0x37a), (0x309b, 0x309c), (0xfc5e, 0xfc63), (0xfdfa, 0xfdfb), (0xfe70, 0xfe70),
  (0xfe72, 0xfe72), (0xfe74, 0xfe74), (0xfe76, 0xfe76), (0xfe78, 0xfe78), (0xfe7a, 0xfe7a),
  (0xfe7c, 0xfe7c), (0xfe7e, 0xfe7e)]

/-- What is used in mathematics, beside its symbols. -/
def otherMath : Text.Ranges := .ofLengths [
  94, 1, 881, 3, 2, 1, 26, 2, 2, 2, 7200, 1, 27, 3, 11, 1, 32, 4, 24, 2, 14, 2, 65, 13, 4, 1, 3, 2,
  4, 5, 18, 1, 4, 1, 2, 10, 1, 1, 3, 5, 6, 1, 3, 2, 2, 2, 1, 3, 1, 6, 3, 4, 5, 5, 75, 5, 2, 4, 1,
  2, 1, 2, 1, 1, 1, 5, 2, 2, 4, 2, 4, 18, 2, 2, 1, 1, 1, 7, 1, 1, 6, 2, 290, 4, 168, 2, 1, 1, 24,
  1, 17, 1, 445, 2, 12, 9, 5, 5, 5, 2, 2, 2, 3, 5, 14, 1, 1, 1, 2, 6, 24, 2, 57, 1, 1, 1, 29, 4, 9,
  2, 342, 2, 31, 10, 403, 22, 63, 4, 32, 2, 54371, 1, 1, 1, 4, 1, 211, 1, 1, 1, 54465, 85, 1, 71,
  1, 2, 2, 1, 2, 2, 2, 4, 1, 12, 1, 1, 1, 7, 1, 65, 1, 4, 2, 8, 1, 7, 1, 28, 1, 4, 1, 5, 1, 1, 3,
  7, 1, 340, 2, 25, 1, 25, 1, 31, 1, 25, 1, 31, 1, 25, 1, 31, 1, 25, 1, 31, 1, 25, 1, 8, 2, 50,
  5632, 4, 1, 27, 1, 2, 1, 1, 2, 1, 1, 10, 1, 4, 1, 1, 1, 1, 6, 1, 4, 1, 1, 1, 1, 1, 1, 3, 1, 2, 1,
  1, 2, 1, 1, 1, 1, 1, 1, 1, 1, 1, 1, 2, 1, 1, 2, 4, 1, 7, 1, 4, 1, 4, 1, 1, 1, 10, 1, 17, 5, 3, 1,
  5, 1, 17]

/-- What is used in mathematics. -/
def math : Text.Ranges := (ofCategories ["sm"]).union otherMath

/-- What ends a part of a text. -/
def terminalPunctuation : Text.Ranges := sentenceTerminal.union (.ofLengths [
    44, 1, 13, 2, 834, 1, 8, 1, 571, 1, 72, 1, 14, 1, 231, 8, 1, 1, 235, 1, 55, 6, 2, 1, 1, 3, 33,
    1, 1531, 2, 172, 1, 4, 6, 1102, 1, 1, 4, 900, 3, 232, 1, 3, 1, 39, 1, 1, 2, 2, 1, 852, 1, 223,
    3, 4609, 1, 10, 1, 1, 2, 433, 1, 29948, 1, 270, 1, 230, 3, 720, 1, 279, 1, 21360, 2, 2, 2, 182,
    1, 13, 2, 72, 1, 1082, 1, 48, 1, 1158, 1, 199, 1, 464, 6, 68, 6, 89, 4, 1196, 5, 492, 1, 530,
    1, 12, 2, 360, 2, 1243, 2, 416, 1, 45, 1, 2046, 5, 18116, 1, 861, 1, 27631, 1, 1, 2])

/-! ## names -/

/-- The loose names of properties, with the characters of each. -/
abbrev PropertyTable := List (List String × Text.Ranges)

/-- The characters of the property of a name. -/
def PropertyTable.chars? (table : PropertyTable) (name : String) : Option Text.Ranges :=
  (table.find? (·.1.contains name)).map Prod.snd

/-- The properties with their names. -/
def binaryProperties : PropertyTable := [
  (["ahex", "asciihexdigit"], asciiHexDigit), (["alpha", "alphabetic"], alphabetic),
  (["bidic", "bidicontrol"], bidiControl), (["bidim", "bidimirrored"], bidiMirrored),
  (["ci", "caseignorable"], caseIgnorable), (["cased"], cased),
  (["cwcf", "changeswhencasefolded"], changesWhenCasefolded),
  (["cwcm", "changeswhencasemapped"], changesWhenCasemapped),
  (["cwl", "changeswhenlowercased"], changesWhenLowercased),
  (["cwt", "changeswhentitlecased"], changesWhenTitlecased),
  (["cwu", "changeswhenuppercased"], changesWhenUppercased), (["dash"], dash),
  (["di", "defaultignorablecodepoint"], Text.defaultIgnorable),
  (["dep", "deprecated"], deprecated), (["dia", "diacritic"], diacritic), (["emoji"], emoji),
  (["ecomp", "emojicomponent"], emojiComponent), (["emod", "emojimodifier"], emojiModifier),
  (["ebase", "emojimodifierbase"], emojiModifierBase),
  (["epres", "emojipresentation"], emojiPresentation),
  (["extpict", "extendedpictographic"], extendedPictographic), (["ext", "extender"], extender),
  (["grbase", "graphemebase"], graphemeBase), (["grext", "graphemeextend"], graphemeExtend),
  (["grlink", "graphemelink"], graphemeLink), (["hex", "hexdigit"], hexDigit),
  (["hyphen"], hyphen), (["idsb", "idsbinaryoperator"], idsBinaryOperator),
  (["idst", "idstrinaryoperator"], idsTrinaryOperator),
  (["idsu", "idsunaryoperator"], idsUnaryOperator),
  (["idcompatmathcontinue"], idCompatMathStart.union idCompatMathMore),
  (["idcompatmathstart"], idCompatMathStart), (["idc", "idcontinue"], idContinue),
  (["ids", "idstart"], idStart), (["ideo", "ideographic"], ideographic),
  (["joinc", "joincontrol"], joinControl),
  (["loe", "logicalorderexception"], logicalOrderException), (["lower", "lowercase"], lowercase),
  (["math"], math), (["mcm", "modifiercombiningmark"], modifierCombiningMark),
  (["nchar", "noncharactercodepoint"], noncharacter),
  (["oalpha", "otheralphabetic"], otherAlphabetic),
  (["odi", "otherdefaultignorablecodepoint"], otherDefaultIgnorable),
  (["ogrext", "othergraphemeextend"], otherGraphemeExtend),
  (["oidc", "otheridcontinue"], otherIdContinue), (["oids", "otheridstart"], otherIdStart),
  (["olower", "otherlowercase"], otherLowercase), (["omath", "othermath"], otherMath),
  (["oupper", "otheruppercase"], otherUppercase), (["patsyn", "patternsyntax"], patternSyntax),
  (["patws", "patternwhitespace"], patternWhiteSpace),
  (["pcm", "prependedconcatenationmark"], prependedConcatenationMark),
  (["qmark", "quotationmark"], quotationMark), (["radical"], radical),
  (["ri", "regionalindicator"], regionalIndicator),
  (["sterm", "sentenceterminal"], sentenceTerminal), (["sd", "softdotted"], softDotted),
  (["term", "terminalpunctuation"], terminalPunctuation),
  (["uideo", "unifiedideograph"], unifiedIdeograph), (["upper", "uppercase"], uppercase),
  (["vs", "variationselector"], variationSelector),
  (["wspace", "whitespace", "space"], Text.blank), (["xidc", "xidcontinue"], xidContinue),
  (["xids", "xidstart"], xidStart)]

end Extractor.Regex.Unicode
