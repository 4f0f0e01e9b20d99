import TopicFeed.Unicode.Property
/-! The kinds of characters by which texts are broken into graphemes, words and sentences. -/
namespace TopicFeed
namespace Unicode

open Category

/-- The joiner of zero width, which has a kind of its own. -/
def joiner : CharSet := .run 0x200D 0x200D

namespace GraphemeBreak

/-- What belongs to the character after it. -/
def prepend : CharSet :=
  .ofTable ("16o 5 60 0 1e 0 ap 1 29 0 vg 0 1f8v 0 g 0 6t 1 em 0 12m 0 2 0 8z 5 jh 0 cc 0")

/-- What belongs to the character before it. -/
def extend : CharSet := (graphemeExtend.union emojiModifier).diff joiner

/-- What stands for itself without being shown. -/
def control : CharSet :=
  ((CharSet.unions [charsOf [.lineSeparator, .paragraphSeparator, .control, .format],
    unassigned.chars.inter defaultIgnorable]).diff
      (.unions [.ofCodes [0xA, 0xD, 0x200C, 0x200D], prependedConcatenationMark, graphemeExtend]))

def apart : CharSet :=
  ⟨[(0x102B, 0x102C), (0x1038, 0x1038), (0x1062, 0x1064), (0x1067, 0x106D), (0x1083, 0x1083),
      (0x1087, 0x108C), (0x108F, 0x108F), (0x109A, 0x109C), (0x1A61, 0x1A61), (0x1A63, 0x1A64),
      (0xAA7B, 0xAA7B), (0xAA7D, 0xAA7D), (0x11720, 0x11721)]⟩

def spacing : CharSet :=
  ((spacingMark.chars.union (.ofCodes [0xE33, 0xEB3])).diff extend).diff apart

/-- Leading consonants, vowels and trailing consonants of Hangul. -/
def leading : CharSet := ⟨[(0x1100, 0x115F), (0xA960, 0xA97C)]⟩

def vowel : CharSet :=
  ⟨[(0x1160, 0x11A7), (0xD7B0, 0xD7C6), (0x16D63, 0x16D63), (0x16D67, 0x16D6A)]⟩

def trailing : CharSet := ⟨[(0x11A8, 0x11FF), (0xD7CB, 0xD7FB)]⟩

/-- Syllables without a trailing consonant, which stand before those with each of the 27. -/
def openSyllable : CharSet := .ofCodes ((List.range 399).map fun k => 0xAC00 + 28 * k)

def closedSyllable : CharSet := (CharSet.run 0xAC00 0xD7A3).diff openSyllable

def kinds : List (List String × CharSet) :=
  [(["CN", "Control"], control),
    (["CR"], .run 0xD 0xD),
    (["EX", "Extend"], extend),
    (["L"], leading),
    (["LF"], .run 0xA 0xA),
    (["LV"], openSyllable),
    (["LVT"], closedSyllable),
    (["PP", "Prepend"], prepend),
    (["RI", "Regional_Indicator"], regionalIndicator),
    (["SM", "SpacingMark"], spacing),
    (["T"], trailing),
    (["V"], vowel),
    (["ZWJ"], joiner)]

end GraphemeBreak

namespace WordBreak

def hebrewLetter : CharSet := .ofTable "15c q 5 3 1cff 0 2 9 2 c 2 4 2 0 2 1 *1 2 9"

/-- Letters, but for those of scripts without blanks between words. -/
def letter : CharSet :=
  .ofTable ("1t p 7 p 1c 0 b 0 5 0 6 m 2 u 2 db 7 x 35 4 2 1 3 3 2 0 7 0 2 2 2 0 2 j 2 2a 2 " ++
      "3u 9 4l 2 11 3 3 2 0 2 14 2 0 2x 0 19 16 10 1 2 2q 2 0 g 1 8 1 b 2 3 0 g 1 2 t u 2g c " ++
      "0 p w a 1 5 0 6 l 5 0 a 0 4 0 o o 8 a 6 n 2 5 i 15 1n 1h 4 0 j 0 8 9 g f 5 7 3 1 3 l " ++
      "2 6 2 0 4 3 4 0 h 0 e 1 2 2 f 1 b 0 9 5 5 1 3 l 2 6 2 1 *2 w 3 2 0 k 2 h 8 2 2 2 l 2 " ++
      "6 2 1 2 4 4 0 j 0 g 1 o 0 c 7 3 1 3 l 2 6 2 1 2 4 4 0 v 1 2 2 g 0 i 0 2 5 4 2 2 3 4 1 " ++
      "2 0 2 1 4 1 4 2 4 b n 0 1h 7 2 2 2 m 2 f 4 0 r 2 3 0 3 1 v 0 5 7 2 2 2 m 2 9 2 4 4 0 " ++
      "w 1 2 1 g 1 i 8 2 2 2 14 3 0 h 0 6 2 9 2 p 5 6 h 4 n 2 8 2 0 3 6 8q 0 1s 7 2 z s 4 7o " ++
      "11 2 0 6 0 3 16 2 98 2 3 3 6 2 0 2 3 3 14 2 3 3 w 2 3 3 6 2 0 2 3 3 e 2 1k 2 3 3 1u " ++
      "12 f h 2d 3 5 4 h7 3 g 2 p 6 22 4 a 8 h e i f h f c 2 2 4w 2g 8 4 3 x 2 0 6 1x b u 6a " ++
      "m 6n 1a i 7 1j t e 1 b 17 r z 16 2 b z 3 a 6 16 3 2 16 3 2 5 2 1 4 0 6 5b 1t 7p 3 5 3 " ++
      "11 3 5 3 7 2 0 *2 2 u 3 1g 2 6 2 0 4 2 2 6 4 3 3 5 5 c 6 2 2 6 39 0 e 0 h c 2u 0 5 0 " ++
      "3 9 2 0 4 4 7 0 2 0 *1 2 3 2 a 3 3 6 4 5 0 i 14 mm 1f 1ef 6c 7 3 4 1 d 11 2 0 6 0 3 " ++
      "1j 8 0 h m a 6 2 6 *6 29 0 d2 0 1i 1 5l 16 2 2l i v ls1 wc 1w 19 3 7g 4 f b 1 l 1a h " ++
      "u 3 27 p 5h 3 1 2 0 2 7 m f 2 2 2 3 2 m u 1f f 1d 1r 5 4 0 2 1 c r b m q s 8 1a t 0 " ++
      "1d 14 o 2 2 7 45 a 8 2 d 5 3 5 *1 a 6 2 6 2 1l 7 36 u 8mb d m 5 1c 6x1 6 d 4 1l 2p y " ++
      "a2 j 1r 3 1h 15 b 39 4 2 3q 11 p 7 p 1y u 4 5 3 5 *1 3 2 10 b 2 p 2 i 2 1 2 e 3 d z " ++
      "3e 1y 1g 7g s 4 1c 1c v e t 6 11 b t 3 z 5 7 2 4 17 4d j z 5 z 5 13 9 1f d a 2 e 2 6 " ++
      "2 1 2 a 2 e 2 6 2 1 4 1f d 8m a l b 7 p 5 2 15 2 8 1y 5 3 0 2 17 2 1 4 0 3 m b m a u " ++
      "1u i 2 1 b l b p 1z 1j 7 1 1t 0 g 3 2 2 2 s 17 s 4 s 10 7 2 r s 1h b l b i e h 33 20 " ++
      "1k 1e e 1e e z 13 r a m 6z 15 7 1 h 2 1o s b 0 9 l 17 h 1b k s m d 1g 1m 1 3 0 e 18 x " ++
      "o r z u 0 3 0 9 y 4 0 d 1b f 3 m 0 2 0 10 h 2 o k 1 1s 6 2 0 2 3 2 e 2 9 8 1a 13 7 3 " ++
      "1 3 l 2 6 2 1 2 4 4 0 j 0 d 4 v 9 2 0 3 0 2 11 2 0 q 0 2 0 19 1g j 3 l 2 v 1b l 1 2 0 " ++
      "55 1a 16 3 11 1b l 0 1o 16 e 0 94 17 39 1r w 7 3 0 3 7 2 1 2 n g 0 2 0 2n 7 3 12 h 0 " ++
      "2 0 t 0 b 13 8 0 m 0 c 19 k 0 j 20 5k w w 8 2 10 i 0 1e t 35 6 2 1 2 11 m 0 q 5 2 1 2 " ++
      "v f 0 94 i g 0 2 c 2 x 3h 0 28 pl 2v 32 i 5f 219 2o g tr i 5 q 32y 6 g6 5a2 t 1cz fs " ++
      "8 u i 26 i t j 1b h 3 w k 6 i c1 18 5w 1r 3l 22 6 0 1v c 1t 1 2 0 f19 2y 6 c 4 8 8 9 " ++
      "4mf 2c 2 1y 2 1 3 0 3 1 3 3 2 b 2 0 2 6 2 1s 2 3 3 7 2 6 2 r 2 3 2 4 2 0 4 6 2 9f 3 o " ++
      "2 o 2 u 2 o 2 u 2 o 2 u 2 o 2 u 2 o 2 7 1f9 u 7 5 7a 1p 43 18 b 6 h 0 8y t j 17 dh r " ++
      "6d t 3 0 ds 6 2 3 2 1 2 e 2 5g 1o 1v 8 0 xh 3 2 q 2 1 2 0 3 0 2 9 2 3 2 0 *1 7 0 5 0 " ++
      "2 0 *1 2 2 2 1 2 0 3 0 2 0 *3 2 1 2 0 3 3 2 6 2 3 *1 2 0 2 9 2 g 6 2 2 4 2 g hh p 7 p " ++
      "*1")

def katakana : CharSet :=
  .ofTable ("9ip 4 2u 1 4 2i 2 3 6p f 5t 1a 2 2f 14b3 1j ytv 3 2 6 2 1 2 0 80 2 1f 0 f 3")

def midNum : CharSet :=
  .ofTable ("18 0 f 0 n7 0 ej 0 3n 1 2n 0 b0 0 4ss 0 17t8 0 4 0 1o 0 4 0 54 0 f 0")

/-- What joins letters, digits and Katakana. -/
def extendNumLet : CharSet :=
  ⟨[(0x5F, 0x5F), (0x202F, 0x202F), (0x203F, 0x2040), (0x2054, 0x2054), (0xFE33, 0xFE34),
      (0xFE4D, 0xFE4F), (0xFF3F, 0xFF3F)]⟩

def newline : CharSet := ⟨[(0xB, 0xC), (0x85, 0x85), (0x2028, 0x2029)]⟩

/-- Blanks of which any number make one word. -/
def segmentBlank : CharSet :=
  ⟨[(0x20, 0x20), (0x1680, 0x1680), (0x2000, 0x2006), (0x2008, 0x200A), (0x205F, 0x205F),
      (0x3000, 0x3000)]⟩

/-- Digits, signs around digits, and the Arabic decimal point. -/
def numeric : CharSet :=
  (CharSet.unions [decimalNumber.chars, prependedConcatenationMark, .ofCodes [0x66B, 0x19DA]]).diff
    (.run 0x70F 0x70F)

def extend : CharSet :=
  (CharSet.unions [graphemeExtend, spacingMark.chars, emojiModifier]).diff joiner

def format : CharSet :=
  Category.format.chars.diff
    (.unions [.run 0x200B 0x200D, .run 0xE0020 0xE007F, prependedConcatenationMark])

def kinds : List (List String × CharSet) :=
  [(["LE", "ALetter"], letter),
    (["CR"], .run 0xD 0xD),
    (["DQ", "Double_Quote"], .run 0x22 0x22),
    (["Extend"], extend),
    (["EX", "ExtendNumLet"], extendNumLet),
    (["FO", "Format"], format),
    (["HL", "Hebrew_Letter"], hebrewLetter),
    (["KA", "Katakana"], katakana),
    (["LF"], .run 0xA 0xA),
    (["ML", "MidLetter"], midLetter),
    (["MN", "MidNum"], midNum),
    (["MB", "MidNumLet"], midNumLet),
    (["NL", "Newline"], newline),
    (["NU", "Numeric"], numeric),
    (["RI", "Regional_Indicator"], regionalIndicator),
    (["SQ", "Single_Quote"], singleQuote),
    (["WSegSpace"], segmentBlank),
    (["ZWJ"], joiner)]

end WordBreak

namespace SentenceBreak

/-- Points, which end sentences or not. -/
def ambiguousTerminator : CharSet :=
  ⟨[(0x2E, 0x2E), (0x2024, 0x2024), (0xFE52, 0xFE52), (0xFF0E, 0xFF0E)]⟩

def goingOn : CharSet :=
  .ofTable ("18 1 d 1 n7 0 db 0 4v 1 dn 0 362 0 6 0 1l7 1 359 0 14pb 1 2 1 t 1 u 1 3 1 3 0 b " ++
      "0 4p 1 d 1 21 0")

def close : CharSet :=
  .ofTable ("y 0 5 2 1e 0 2 0 u 0 2 0 1a 0 g 0 2v3 3 1ge 1 1vg 7 q 1 b 1 1j 1 f 1 hm 3 u 1 " ++
      "tt 5 8 d 28 1 w 9 b8 l 1s 3 x 1 sj d f 1 3 9 p 0 j 7 bw 9 3 7 2 2 14in 1 60 1 t f 3 1 " ++
      "h 5 4q 1 1e 0 2 0 u 0 2 0 2 1 *1 1csz 2")

def separator : CharSet := ⟨[(0x85, 0x85), (0x2028, 0x2029)]⟩

/-- The letters of Georgian in both cases, which do not tell where a sentence begins. -/
def georgian : CharSet :=
  ⟨[(0x10D0, 0x10FA), (0x10FD, 0x10FF), (0x1C90, 0x1CBA), (0x1CBD, 0x1CBF)]⟩

def extend : CharSet := .unions [graphemeExtend, spacingMark.chars, joiner]

def format : CharSet := WordBreak.format.union (.ofCodes [0x70F, 0x200B])

def lower : CharSet := (lowercase.diff graphemeExtend).diff georgian

def upper : CharSet := (uppercase.union titlecaseLetter.chars).diff georgian

def otherLetter : CharSet :=
  (alphabetic.union (.run 0x5F3 0x5F3)).diff (.unions [lower, upper, extend])

def numeric : CharSet := WordBreak.numeric.union (.run 0x66C 0x66C)

def space : CharSet := CharSet.blank.diff (separator.union (.ofCodes [0xA, 0xD]))

def terminator : CharSet := sentenceTerminal.diff ambiguousTerminator

def kinds : List (List String × CharSet) :=
  [(["AT", "ATerm"], ambiguousTerminator),
    (["CR"], .run 0xD 0xD),
    (["CL", "Close"], close),
    (["EX", "Extend"], extend),
    (["FO", "Format"], format),
    (["LF"], .run 0xA 0xA),
    (["LO", "Lower"], lower),
    (["NU", "Numeric"], numeric),
    (["LE", "OLetter"], otherLetter),
    (["SC", "SContinue"], goingOn),
    (["ST", "STerm"], terminator),
    (["SE", "Sep"], separator),
    (["SP", "Sp"], space),
    (["UP", "Upper"], upper)]

end SentenceBreak

def kind? (kinds : List (List String × CharSet)) (loose : String) : Option CharSet :=
  (kinds.find? fun k => isNamed loose k.1).map (·.2)

end Unicode
end TopicFeed
