import TopicFeed.Unicode.Category
/-! Properties that a character has or has not. Most are listed; the others are put together from
categories and from lists of what the categories leave out. -/
namespace TopicFeed
namespace Unicode

open Category

def asciiHexDigit : CharSet := ⟨[(0x30, 0x39), (0x41, 0x46), (0x61, 0x66)]⟩

/-- Hexadecimal digits, wide ones too. -/
def hexDigit : CharSet :=
  ⟨[(0x30, 0x39), (0x41, 0x46), (0x61, 0x66), (0xFF10, 0xFF19), (0xFF21, 0xFF26),
      (0xFF41, 0xFF46)]⟩

def bidiControl : CharSet :=
  ⟨[(0x61C, 0x61C), (0x200E, 0x200F), (0x202A, 0x202E), (0x2066, 0x2069)]⟩

/-- Characters that are mirrored when written from right to left. -/
def bidiMirrored : CharSet :=
  .ofTable ("14 1 j 0 2 0 t 0 2 0 u 0 2 0 1a 0 g 0 2v3 3 1ge 1 1wd 1 b 1 1j 1 f 1 4y 0 5d 3 " ++
      "4 5 4 0 4 1 4 3 2 3 2 0 *1 5 8 6 0 2 h 6 3 a 1 2 0 2 7 2 v 3 3 6 0 a 1 3 i 6 1 a 4 3 " ++
      "1 5 n 3 f 9 3 l 1 8 1 u6 d 23 0 3 3 2 1 2 2 6 3 6 2 4 d b8 l 3 5 2 d 9 0 8 5 4 0 5 4 " ++
      "2 1 3 4 5 0 2 2 3 1 b 5 3 1 d i 2 3 3 0 2 0 3 0 2 3 6 1 7 2 p 1 c 1 5 3 2 1 3 1 5 16 " ++
      "3 7 2 13 6 0 2 0 4 4 6 2 5 0 4 4 2 0 75 0 ec 3 4 1 2 1 f 1 3 9 18 7 bw 9 3 7 14qm 5 6 " ++
      "1 4j 1 j 0 2 0 t 0 2 0 u 0 2 0 2 1 *1 16k8 0 1m 0 *3")

def dash : CharSet :=
  .ofTable ("19 0 125 0 1g 0 2te 0 sm 0 1l6 5 1q 0 14 0 g 0 av 0 2dh 0 3 0 w 1 5 0 t 0 cf 0 k 0 " ++
      "34 0 14lt 1 12 0 b 0 4q 0 2u9 0 8v 0")

def hyphen : CharSet :=
  ⟨[(0x2D, 0x2D), (0xAD, 0xAD), (0x58A, 0x58A), (0x1806, 0x1806), (0x2010, 0x2011),
      (0x2E17, 0x2E17), (0x30FB, 0x30FB), (0xFE63, 0xFE63), (0xFF0D, 0xFF0D), (0xFF65, 0xFF65)]⟩

def quotationMark : CharSet :=
  ⟨[(0x22, 0x22), (0x27, 0x27), (0xAB, 0xAB), (0xBB, 0xBB), (0x2018, 0x201F), (0x2039, 0x203A),
      (0x2E42, 0x2E42), (0x300C, 0x300F), (0x301D, 0x301F), (0xFE41, 0xFE44), (0xFF02, 0xFF02),
      (0xFF07, 0xFF07), (0xFF62, 0xFF63)]⟩

def terminalPunctuation : CharSet :=
  .ofTable ("x 0 b 0 2 0 c 1 4 0 n3 0 9 0 ea 0 1m 0 21 0 f 0 2 2 51 0 18 a 2 0 6k 1 1j 5 2 7 " ++
      "w 0 7a 1 z9 1 4t 0 5 5 8o 1 ly 7 li 0 3h 2 20 1 4e 2 4 0 14 3 3 1 8r 1 9v 3 4j 1 b 1 " ++
      "2 2 u 2 58 4 1r 1 px 0 o 1 a 2 2i8 2 8j 0 e 0 5 0 b 0 2 1 4 1 bx 1 n3w 1 7i 2 6c 4 an " ++
      "1 2f 1 2o 0 48 2 44 2 3k 0 h 1 6y 0 g87 0 3 1 1m 2 2 3 4q 0 b 0 2 0 c 1 4 0 1u 0 3 0 " ++
      "u3 0 1d 0 w7 0 5k 0 8n 1 49 5 1x 5 2i 3 qh 4 19 3 5a 6 35 3 3k 2 3m 1 7 0 h 1 2h 4 31 " ++
      "0 8b 1 3a 2 d 1 9z 3 4 e 2y 1 6y 2 ee 0 2 0 70 1 2g 1 5 1 bj 2 1a 0 hy 1 23 1 10s 4 " ++
      "dtm 1 3q 0 1u 2 b 0 fe 1 88 1 fev 0 5wo 3")

def sentenceTerminal : CharSet :=
  .ofTable ("x 0 d 0 h 0 11m 0 44 2 51 0 18 2 6v 0 1q 0 2 0 4 1 86 1 1d1 1 lz 0 5 1 li 0 5j " ++
      "1 4e 1 1a 0 6 0 8r 1 9v 3 4j 1 b 1 3 1 u 2 58 1 1u 1 px 0 o 1 a 2 2i8 2 8j 0 e 0 n 1 " ++
      "by 0 n3x 0 7j 1 6c 0 4 0 an 1 2f 1 2o 0 49 1 44 2 41 1 6y 0 g87 0 3 1 1o 0 4 1 4q 0 d " ++
      "0 h 0 1u 0 25x 1 zi 4 19 3 5a 1 3a 3 3k 2 3m 1 7 0 h 1 2h 1 2 1 31 0 8b 1 3a 1 ae 1 6 " ++
      "e 2y 1 6y 2 ee 0 2 0 70 1 2g 1 bp 1 j9 1 23 1 eui 1 3q 0 1u 1 c 0 fe 1 89 0 fev 0 5wp " ++
      "0")

/-- Characters that should not be used any more. -/
def deprecated : CharSet :=
  ⟨[(0x149, 0x149), (0x673, 0x673), (0xF77, 0xF77), (0xF79, 0xF79), (0x17A3, 0x17A4),
      (0x206A, 0x206F), (0x2329, 0x232A), (0xE0001, 0xE0001)]⟩

def diacritic : CharSet :=
  .ofTable ("2m 0 2 0 20 0 7 0 5 0 3 1 e0 4e 2 7 6 5 i 1 5 0 a 1 72 4 5u 0 1k 18 2 0 2 1 *1 2 0 " ++
      "3o 7 5 1 3r 1 5 1 4 2 1w q 2k a 1n a z 1 3j 7 16 9 h r 1q 0 h 0 4 3 t 0 23 0 h 0 33 " ++
      "0 h 0 33 0 h 0 1c 2 1p 0 h 0 8 0 3c 0 33 0 h 0 33 0 h 0 32 1 h 0 3h 0 34 0 d 5 2 0 " ++
      "30 0 e 4 24 1 s 0 2 0 *1 5 1 1v 2 2 1 1r 0 35 0 2 1 15 1 5 4 q 6 2 0 b 1 jm 2 qd 1 v " ++
      "0 45 a a 0 9o 2 85 0 l 7 3 0 1d e 3 a 2x 0 g 0 13 8 1j 1 1n 0 c 1 1v 1 1t 5 2b o 5 0 " ++
      "7 0 3 2 1f 1q 1d z 6 b 12 a ce 0 2 2 c 2 e 2 *1 e 1 2k1 2 8u 0 e3 5 2y 3 2o 0 n77 0 " ++
      "d 1 2 0 t 1 2b 1 f x 2v 2 32 1 d 0 12 0 48 0 s h 1m 3 11 0 2o 0 d 0 11 0 46 2 1u 3 " ++
      "1g 0 2t 4 a 2 3l 1 fn5 0 le f 7j 0 2 0 1c 0 1a 1 1w 0 l9 0 ww 5 2 15 2 8 hq 2 5 0 4m " ++
      "1 fw 5 13 0 r 4 b4 2 1z a 1e 3 5d 0 16 0 21 1 3d 1 1r 0 25 0 a 2 2x 1 4z 1 29 1 h 0 " ++
      "p 6 4 4 2i 2 2 1 e 1 2o 0 4 0 3g 1 70 1 3j 0 3b 1 38 0 7i 1 77 1 5 0 4d 0 2c 0 j 0 " ++
      "2a 0 bq 0 77 0 2 1 2a 0 bu 1 o 0 44t e 8uy 0 1xd 4 1o 6 fp 1 f7 g 29 1 cn3 3 2 6 2 1 " ++
      "64i 19 3 m f5 2 4 5 9 7 3 6 v 3 2v7 1p 5f 6 ag 0 1q 3 lb 1 kh 6 32 2 2 2")

def extender : CharSet :=
  .ofTable ("53 0 ex 1 of 0 ca 0 hj 0 3u 0 2i 0 kx 0 3k 0 1tw 0 1l 0 h0 0 b3 0 1x 0 3uy 0 18 " ++
      "4 2w 1 2m 2 lxz 0 16f 0 qr 0 n 0 3u 0 31 0 m 1 gos 0 1ld 1 158 0 s 0 5 0 y0 0 86 0 39 " ++
      "1 dv 2 y8 0 fxm 1 wt 1 2 0 me1 1 xe 0 np 2")

def softDotted : CharSet :=
  .ofTable ("2x 1 5h 0 7u 0 v 0 1h 0 l 0 8x 0 2r 0 2 0 4y2 0 1g 0 e 0 4 0 3p 0 4e 0 bq 0 5z " ++
      "1 27n 0 2bom 1 1f 1 *b 1on 0 8i 1 r 0")

def graphemeLink : CharSet :=
  .ofTable ("1u5 0 3k 0 *6 32 1 h 0 3h 0 34 0 3k 0 5m 0 51 1 1cq 1 v 0 4e 0 i6 0 6c 0 2u 1 1z 1 " ++
      "3gs 0 o7b 0 12 0 48 0 3z 0 31 0 8m 0 6v 0 imq 0 16v 0 16 0 f 0 1m 0 3e 1 3w 0 39 0 " ++
      "51 0 2r 0 3l 2 36 0 3k 0 71 0 3k 0 3b 0 39 0 7i 0 78 1 4i 0 2c 0 j 0 2a 0 bq 0 79 1 " ++
      "2a 0 bu 1 d0t 0")

def modifierCombiningMark : CharSet :=
  ⟨[(0x654, 0x655), (0x658, 0x658), (0x6DC, 0x6DC), (0x6E3, 0x6E3), (0x6E7, 0x6E8),
      (0x8CA, 0x8CB), (0x8CD, 0x8CF), (0x8D3, 0x8D3), (0x8F3, 0x8F3)]⟩

def emoji : CharSet :=
  .ofTable ("z 0 7 0 6 9 34 0 5 0 68e 0 d 0 61 0 n 0 2j 5 g 1 a8 1 d 0 4n 0 q a 5 2 5k 0 6g " ++
      "1 b 0 a 0 1n 3 2 4 a 0 3 0 3 1 3 0 5 0 3 0 2 1 3 0 4 0 4 1 9 2 6 0 2 0 6 b c 1 3 0 2 " ++
      "1 2 0 j 0 3 1 j 5 2 0 2 1 4 1 6 0 3 1 5 1 c 1 6 1 3 0 6 1 2 0 2 1 l 1 6 5 2 3 3 0 5 0 " ++
      "3 0 3 5 2 0 3 0 2 0 *1 7 0 4 0 7 0 b 1 g 0 3 0 5 0 2 0 5 2 2 0 c 1 1d 2 a 0 f 0 *1 ad " ++
      "1 cw 2 k 1 1g 0 5 0 yj 0 d 0 gq 0 2 0 2fzf 0 5n 0 4h 1 d 1 f 0 3 9 24 p 2 1 o 0 l 0 3 " ++
      "8 m 1 4v x 3 33 3 1 2 2 3 2a 3 2 2 7a 2 1q c 5 2 n 8 1 3 7 d 0 3 3 3 0 5 1 e 1 3 0 9 " ++
      "1 a 0 6 2 d 2 9 2 3 0 2 0 5 0 7 0 4 0 7 2d 1d 1x 6 7 3 2 5 9 4 0 2 1 4 0 3 9 6c b 5 0 " ++
      "7w 1a 2 9 2 54 35 c 4 9 6 1j 8 e 3 a 7 8")

def emojiComponent : CharSet :=
  ⟨[(0x23, 0x23), (0x2A, 0x2A), (0x30, 0x39), (0x200D, 0x200D), (0x20E3, 0x20E3),
      (0xFE0F, 0xFE0F), (0x1F1E6, 0x1F1FF), (0x1F3FB, 0x1F3FF), (0x1F9B0, 0x1F9B3),
      (0xE0020, 0xE007F)]⟩

def emojiModifier : CharSet := .run 0x1F3FB 0x1F3FF

def emojiModifierBase : CharSet :=
  .ofTable ("7j1 0 64 0 h 3 2iyg 0 1p 2 3 0 3 2 3a 1 3 a m i 4 0 5 2 2 2 8 0 2 0 p 0 5m 1 5 " ++
      "0 m 0 5 1 4v 2 4 4 2c 0 h 2 a 0 c 0 g0 0 3 0 9 7 7 0 a 9 3 2 1l 0 1q 1 2 1 2 0 i 2 2 " ++
      "c 6e 2 17 8")

/-- Characters shown as emoji unless told otherwise. -/
def emojiPresentation : CharSet :=
  .ofTable ("6xm 1 5q 3 4 0 3 0 ei 1 m 1 1f b 18 0 k 0 e 0 9 1 i 1 6 1 9 0 6 0 m 0 8 1 2 0 5 " ++
      "0 3 0 8 0 5 1 t 0 10 0 2 0 5 2 2 0 1q 2 p 0 f 0 nw 1 1g 0 5 0 2hf3 0 5n 0 5b 0 3 9 24 " ++
      "p 2 0 p 0 l 0 3 4 2 2 m 1 4v w d 8 2 1x 2 l d 16 5 4 d g 4 0 4 1y 2 0 2 56 3 1q e 3 2 " ++
      "n j 0 r 1 e 0 2f 2c 1d 1x 7 0 4 2 3 2 5 3 c 1 8 8 6c b 5 0 7w 1a 2 9 2 54 35 c 4 9 6 " ++
      "1j 8 e 3 a 7 8")

/-- Pictographs, those to come as well. -/
def extendedPictographic : CharSet :=
  .ofTable ("4p 0 5 0 68e 0 d 0 61 0 n 0 2j 5 g 1 a8 1 d 0 2o 0 1z 0 q a 5 2 5k 0 6g 1 b 0 a " ++
      "0 1n 3 2 5 2 b 2 35 b 39 3 a 2 0 *1 7 0 4 0 7 0 b 1 g 0 3 0 5 0 2 0 5 2 2 0 c 4 1a 2 " ++
      "a 0 f 0 *1 ad 1 cw 2 k 1 1g 0 5 0 yj 0 d 0 gq 0 2 0 2fzb 73 e 2 w 0 1p 5 d 1 f 0 3 9 " ++
      "j 1k s e b 0 l 0 3 8 2 3 a c1 6 8t 9 7d 1d 3j 39 b 2e 16 d 3 1l 7 b 5 15 7 v 29 d 1a " ++
      "2 9 2 c8 75 sd")

/-- Letters of which two make a flag. -/
def regionalIndicator : CharSet := .run 0x1F1E6 0x1F1FF

def ideographic : CharSet :=
  .ofTable ("9hi 1 q 8 f 2 qu 533 1t g73 hkx a5 3 2x n4b 0 s 4qf 9 yd 16 9 76w az f7p wyn x " ++
      "37d 7 65 3 4g1 f 5rk g h9 1wj f1 15v 3t6 6 38f")

def unifiedIdeograph : CharSet :=
  .ofTable ("a9s 533 1t g73 hsf 1 2 0 2 1 b 0 2 0 2 1 3 2 1fpz wyn x 37d 7 65 3 4g1 f 5rk g h9 " ++
      "3hf 3t6 6 38f")

def radical : CharSet := ⟨[(0x2E80, 0x2E99), (0x2E9B, 0x2EF3), (0x2F00, 0x2FD5)]⟩

/-- Operators that describe an ideograph by one, two or three others. -/
def idsUnary : CharSet := .run 0x2FFE 0x2FFF

def idsBinary : CharSet := ⟨[(0x2FF0, 0x2FF1), (0x2FF4, 0x2FFD), (0x31EF, 0x31EF)]⟩

def idsTrinary : CharSet := .run 0x2FF2 0x2FF3

def joinControl : CharSet := .run 0x200C 0x200D

/-- Vowels written before the consonant they follow. -/
def logicalOrderException : CharSet :=
  ⟨[(0xE40, 0xE44), (0xEC0, 0xEC4), (0x19B5, 0x19B7), (0x19BA, 0x19BA), (0xAAB5, 0xAAB6),
      (0xAAB9, 0xAAB9), (0xAABB, 0xAABC)]⟩

/-- Code points that will never be assigned. -/
def noncharacter : CharSet := .ofTable "1e4w v en 1 1ekf 1 *f"

def patternSyntax : CharSet :=
  .ofTable ("x e b 6 r 3 2 0 r 3 z 6 2 0 2 1 2 0 2 1 5 0 *1 4 0 o 0 w 0 655 n 9 e 3 i 2 9 8i jz " ++
      "4h hh v vf e9 3j aq 2 5 o g 0 14i6 1 7a 1")

def patternBlank : CharSet :=
  ⟨[(0x9, 0xD), (0x20, 0x20), (0x85, 0x85), (0x200E, 0x200F), (0x2028, 0x2029)]⟩

def prependedConcatenationMark : CharSet :=
  ⟨[(0x600, 0x605), (0x6DD, 0x6DD), (0x70F, 0x70F), (0x890, 0x891), (0x8E2, 0x8E2),
      (0x110BD, 0x110BD), (0x110CD, 0x110CD)]⟩

def variationSelector : CharSet :=
  ⟨[(0x180B, 0x180D), (0x180F, 0x180F), (0xFE00, 0xFE0F), (0xE0100, 0xE01EF)]⟩

/-- Mathematical signs that may begin an identifier in profiles for mathematics, and those that may
follow. -/
def compatMathStart : CharSet :=
  ⟨[(0x2202, 0x2202), (0x2207, 0x2207), (0x221E, 0x221E), (0x1D6C1, 0x1D6C1), (0x1D6DB, 0x1D6DB),
      (0x1D6FB, 0x1D6FB), (0x1D715, 0x1D715), (0x1D735, 0x1D735), (0x1D74F, 0x1D74F),
      (0x1D76F, 0x1D76F), (0x1D789, 0x1D789), (0x1D7A9, 0x1D7A9), (0x1D7C3, 0x1D7C3)]⟩

def compatMathContinue : CharSet :=
  .ofTable ("4y 1 6 0 69j 0 4 a 2 e ac 0 5 0 n 0 2e8z 0 q 0 w 0 q 0 w 0 q 0 w 0 q 0 w 0 q 0")

def changesWhenLowercased : CharSet :=
  .ofTable ("1t p 2u m 2 6 y 0 2 0 *q 3 0 2 0 *6 3 0 2 0 *l 2 1 2 0 *1 4 1 2 0 2 1 2 2 3 3 2 " ++
      "1 2 2 4 1 2 1 2 0 *1 2 1 2 0 3 0 2 1 2 2 2 0 2 1 4 0 8 1 2 1 *1 2 0 *7 3 0 2 0 *7 3 1 " ++
      "2 0 2 2 2 0 *s 8 1 2 1 3 0 2 3 2 0 *3 82 0 2 0 4 0 9 0 7 0 2 2 2 0 2 1 2 g 2 8 10 0 9 " ++
      "0 2 0 *a 6 0 3 0 2 1 3 1e 1d 0 2 0 *f a 0 2 0 *p 2 1 2 0 *5 3 0 2 0 *1a 3 11 28a 11 2 " ++
      "0 6 0 k3 2d 1p0 0 7 16 3 2 8x 0 2 0 *21 a 0 2 0 *1b a 7 9 5 b 7 9 7 9 5 c 0 2 0 *2 9 " ++
      "7 p 7 9 7 *1 9 4 c 4 c 3 d 4 c 4 8a 0 4 1 7 0 1a f k 0 mr p 1f5 1b 1d 0 2 2 3 0 2 0 " ++
      "*1 2 3 2 0 3 0 9 2 2 0 *1c 9 0 2 0 5 0 nym 0 2 0 *l k 0 2 0 *c 3s 0 2 0 *5 4 0 2 0 *t " ++
      "b 0 2 0 2 1 2 0 *3 5 0 2 0 3 0 2 0 4 0 2 0 *8 2 4 *1 2 0 *6 2 3 2 0 2 1 4 0 6 0 2 0 " ++
      "*2 p 0 h7w p xy 13 3t z 4d a 2 e 2 6 2 1 1d7 1e 4e l 27v v gw1 v o81 x")

def changesWhenUppercased : CharSet :=
  .ofTable ("2p p 1n 0 16 n 2 7 2 0 *r 3 0 2 0 *5 2 1 2 0 *m 3 0 2 0 2 2 3 0 2 0 3 0 4 0 6 0 " ++
      "3 0 4 2 3 0 *1 2 0 *1 3 0 5 0 3 0 4 0 2 0 3 0 4 0 2 0 6 1 2 1 *1 2 0 *6 2 1 2 0 *7 2 " ++
      "1 *1 2 0 4 0 2 0 *i 4 0 2 0 *7 9 0 3 1 2 0 5 0 2 0 *2 2 5 2 1 2 0 2 1 4 1 2 3 2 4 3 0 " ++
      "2 1 3 0 8 0 3 0 2 1 4 5 6 0 b 1 4n 0 18 0 2 0 4 0 4 2 j 0 s y 2 1 4 2 2 0 *a 2 4 2 0 " ++
      "3 0 *1 1h 1b 2 0 *g a 0 2 0 *p 3 0 2 0 *4 2 1 2 0 *1b 1e 12 289 16 3 2 l5 5 1oj 8 2 0 " ++
      "6n 0 4 0 h 0 37 0 2 0 *20 2 6 6 0 2 0 *19 2 8 9 5 b 7 9 7 9 5 b 7 9 7 9 d 3 1g 2 1 5 " ++
      "0 2 0 4 2 2 1 5 0 4 3 3 1 9 7 b 2 2 1 5 0 9e 0 y f 5 0 ng p 1fr 1b 2 0 4 1 2 0 *2 7 0 " ++
      "3 0 b 0 2 0 *1c 9 0 2 0 5 0 d 11 2 0 6 0 nx0 0 2 0 *l k 0 2 0 *c 3s 0 2 0 *5 4 0 2 0 " ++
      "*t b 0 2 0 3 0 2 0 *3 5 0 *1 2 1 3 0 2 0 *8 c 0 2 0 *6 5 0 2 0 3 0 4 0 6 0 2 0 *1 r 0 " ++
      "nx 0 t 27 fnl 6 d 4 tm p y6 13 3t z 4c a 2 e 2 6 2 1 1dw 1e 3i l 27v v gw1 v o83 x")

def changesWhenTitlecased : CharSet :=
  .ofTable ("2p p 1n 0 16 n 2 7 2 0 *r 3 0 2 0 *5 2 1 2 0 *m 3 0 2 0 2 2 3 0 2 0 3 0 4 0 6 0 " ++
      "3 0 4 2 3 0 *1 2 0 *1 3 0 5 0 3 0 4 0 2 0 3 0 4 0 2 0 5 0 2 1 *1 2 0 *7 2 1 2 0 *7 2 " ++
      "2 2 0 *1 4 0 2 0 *i 4 0 2 0 *7 9 0 3 1 2 0 5 0 2 0 *2 2 5 2 1 2 0 2 1 4 1 2 3 2 4 3 0 " ++
      "2 1 3 0 8 0 3 0 2 1 4 5 6 0 b 1 4n 0 18 0 2 0 4 0 4 2 j 0 s y 2 1 4 2 2 0 *a 2 4 2 0 " ++
      "3 0 *1 1h 1b 2 0 *g a 0 2 0 *p 3 0 2 0 *4 2 1 2 0 *1b 1e 12 2up 5 1oj 8 2 0 6n 0 4 0 " ++
      "h 0 37 0 2 0 *20 2 6 6 0 2 0 *19 2 8 9 5 b 7 9 7 9 5 b 7 9 7 9 d 3 7 9 7 *1 9 4 2 1 7 " ++
      "0 4 2 2 1 9 3 3 1 9 7 b 2 2 1 9j 0 y f 5 0 ng p 1fr 1b 2 0 4 1 2 0 *2 7 0 3 0 b 0 2 0 " ++
      "*1c 9 0 2 0 5 0 d 11 2 0 6 0 nx0 0 2 0 *l k 0 2 0 *c 3s 0 2 0 *5 4 0 2 0 *t b 0 2 0 3 " ++
      "0 2 0 *3 5 0 *1 2 1 3 0 2 0 *8 c 0 2 0 *6 5 0 2 0 3 0 4 0 6 0 2 0 *1 r 0 nx 0 t 27 " ++
      "fnl 6 d 4 tm p y6 13 3t z 4c a 2 e 2 6 2 1 1dw 1e 3i l 27v v gw1 v o83 x")

def changesWhenCasefolded : CharSet :=
  .ofTable ("1t p 2j 0 b m 2 7 x 0 2 0 *q 3 0 2 0 *6 2 1 2 0 *l 2 1 2 0 *2 2 1 2 0 2 1 2 2 3 " ++
      "3 2 1 2 2 4 1 2 1 2 0 *1 2 1 2 0 3 0 2 1 2 2 2 0 2 1 4 0 8 1 2 1 *1 2 0 *7 3 0 2 0 *7 " ++
      "3 1 2 0 2 2 2 0 *s 8 1 2 1 3 0 2 3 2 0 *3 6v 0 17 0 2 0 4 0 9 0 7 0 2 2 2 0 2 1 2 g 2 " ++
      "8 n 0 d 2 4 1 2 0 *b 2 1 3 1 2 0 2 1 3 1e 1d 0 2 0 *f a 0 2 0 *p 2 1 2 0 *5 3 0 2 0 " ++
      "*1a 3 11 1d 0 26x 11 2 0 6 0 mj 5 1oj 9 7 16 3 2 8x 0 2 0 *21 6 1 3 0 2 0 *1b a 7 9 5 " ++
      "b 7 9 7 9 5 c 0 2 0 *2 9 7 h 1b 3 2 3 5 6 2 3 5 c 3 d 4 6 2 3 5 8a 0 4 1 7 0 1a f k 0 " ++
      "mr p 1f5 1b 1d 0 2 2 3 0 2 0 *1 2 3 2 0 3 0 9 2 2 0 *1c 9 0 2 0 5 0 nym 0 2 0 *l k 0 " ++
      "2 0 *c 3s 0 2 0 *5 4 0 2 0 *t b 0 2 0 2 1 2 0 *3 5 0 2 0 3 0 2 0 4 0 2 0 *8 2 4 *1 2 " ++
      "0 *6 2 3 2 0 2 1 4 0 6 0 2 0 *2 p 0 or 27 fnl 6 d 4 sq p xy 13 3t z 4d a 2 e 2 6 2 1 " ++
      "1d7 1e 4e l 27v v gw1 v o81 x")

/-- Alphabetic characters that are neither letters nor letter numbers. -/
def otherAlphabetic : CharSet :=
  .ofTable ("n9 0 u c g1 d 2 0 2 1 *1 2 0 21 a 1d c 2 6 h 0 2u 6 5 3 3 1 5 0 10 0 v f 2v a " ++
      "2u 1 4 8 2 2 2 3 2z 0 1p b 4 6 7 j 1j 1 3 e 2 1 6 2 b 1 u 2 1n 6 3 1 *1 b 0 b 1 u 2 " ++
      "1n 4 5 1 3 1 5 0 v 1 4 0 c 2 1n 7 2 2 2 1 m 1 n 2 5 2 1n 6 3 1 *1 a 1 b 1 v 0 1o 4 4 " ++
      "2 2 2 b 0 15 4 1m 6 2 2 *1 9 1 c 1 u 2 1n 6 2 2 *1 9 1 c 1 g 0 d 3 1n 6 2 2 *1 b 0 b " ++
      "1 u 2 24 5 2 0 2 7 j 1 1q 0 3 6 j 0 2s 0 3 5 2 1 h 0 4k i a a 2 z 33 b 2 0 3 3 o 3 5 " ++
      "2 2 2 3 6 4 3 e b 2 0 b 3 19x 1 v 1 *2 1v i 59 1 z 0 3b b 5 8 67 4 1m 9 3 j 23 1 c 2 " ++
      "1e 4 1d e 1p 2 v 8 3 1 1m a 1f i bh x 1c2 1f 1rr v nsl 7 z 1 9v 0 9 0 o 4 2h 1 1f f 2 " ++
      "0 1m 0 13 4 t b 1a 3 1d b 12 0 1w d d 0 9 1 1a 2 1f 0 2 2 3 1 6 0 19 4 6 0 6m 7 fn8 0 " ++
      "1nc 4 1af 2 2 1 6 3 lx 3 1u 0 8y 1 28 0 78 2 1i d 1a 1 c 2 1a 8 a 0 1q 2 11 b j 1 1m " ++
      "2 1d c f 1 2l 8 3 0 7 0 3 0 4e 9 o 3 1n 6 3 1 *1 b 0 b 1 2d 8 2 0 3 0 2 3 2 1 2w c 2 " ++
      "2 2z h 6m 6 3 6 u 1 2b e 2 0 2z a 2w d 76 c 6w 5 2 1 3 1 4 0 2 0 3z 6 3 5 5 0 t 9 17 " ++
      "4 2 3 j a 1b d bc 7 2 6 2c l 2 d 3f 5 4 0 2 1 2 2 2 0 4 0 1v 4 2 1 2 3 9p 3 a 1 2 0 " ++
      "1d 6 4 2 d0e g 2sh 0 2 1i 8 3 2m 1 f59 0 6zm 6 2 g 3 6 2 1 2 4 2t 0 1q0 0 1k9 p 7 p *1")

/-- Lowercase characters that are no lowercase letters. -/
def otherLowercase : CharSet :=
  .ofTable ("4q 0 g 0 dy 8 8 1 v 4 2p 0 1h 0 2o2 0 2eo 1q e 0 z 10 j6 0 e 0 h c 5w f nl p 1hv 1 " ++
      "o4f 1 5v 0 3m 2 4 1 o3 3 a 0 i6v 0 3 2 2 15 2 8 16ra 1p")

/-- Uppercase characters that are no uppercase letters. -/
def otherUppercase : CharSet := .ofTable "6lc f nb p 2ixt p 7 p *1"

/-- Mathematical characters that are no mathematical symbols. -/
def otherMath : CharSet :=
  .ofTable ("2m 0 oi 2 3 0 r 1 3 1 5k1 0 s 2 c 0 x 3 p 1 f 1 1u c 5 0 4 1 5 4 j 0 5 0 3 9 2 " ++
      "0 4 4 7 0 4 1 3 1 2 2 2 5 4 3 6 4 24 4 3 3 2 1 *1 2 0 2 4 3 1 5 1 5 h 3 1 2 0 2 6 2 0 " ++
      "7 1 83 3 4p 1 2 0 p 0 i 0 ce 1 d 8 6 4 6 1 3 1 4 4 f 0 2 0 3 5 p 1 1m 0 2 0 u 3 a 1 " ++
      "9j 1 w 9 b8 l 1s 3 x 1 15yc 0 2 0 5 0 5w 0 2 0 160y 2c 2 1y 2 1 3 0 3 1 3 3 2 b 2 0 2 " ++
      "6 2 1s 2 3 3 7 2 6 2 r 2 3 2 4 2 0 4 6 2 9f 3 o 2 o 2 u 2 o 2 u 2 o 2 u 2 o 2 u 2 o 2 " ++
      "7 3 1d 4ch 3 2 q 2 1 2 0 3 0 2 9 2 3 2 0 *1 7 0 5 0 2 0 *1 2 2 2 1 2 0 3 0 2 0 *3 2 1 " ++
      "2 0 3 3 2 6 2 3 *1 2 0 2 9 2 g 6 2 2 4 2 g")

/-- Characters that begin identifiers as they did before. -/
def otherIdStart : CharSet :=
  ⟨[(0x1885, 0x1886), (0x2118, 0x2118), (0x212E, 0x212E), (0x309B, 0x309C)]⟩

/-- Characters that go on in identifiers as they did before. -/
def otherIdContinue : CharSet :=
  ⟨[(0xB7, 0xB7), (0x387, 0x387), (0x1369, 0x1371), (0x19DA, 0x19DA), (0x200C, 0x200D),
      (0x30FB, 0x30FB), (0xFF65, 0xFF65)]⟩

/-- Characters that are not shown, apart from format characters and variation selectors. -/
def otherDefaultIgnorable : CharSet :=
  ⟨[(0x34F, 0x34F), (0x115F, 0x1160), (0x17B4, 0x17B5), (0x2065, 0x2065), (0x3164, 0x3164),
      (0xFFA0, 0xFFA0), (0xFFF0, 0xFFF8), (0xE0000, 0xE0000), (0xE0002, 0xE001F),
      (0xE0080, 0xE00FF), (0xE01F0, 0xE0FFF)]⟩

/-- Characters that belong to the one before them without being nonspacing marks. -/
def otherGraphemeExtend : CharSet :=
  .ofTable ("1xa 0 p 0 9z 0 p 0 2v 0 p 0 6h 0 2 0 5 1 2 1 a 1 2w 0 p 0 3c 0 g 0 1ti 0 v 0 sh " ++
      "0 6 0 2 0 6 1 2u 0 20 1 t5 0 36q 1 nxg 0 31 0 gym 1 3kx 0 39 0 7d 0 f 0 a 0 2p 0 a 0 " ++
      "3 0 2 2 6 0 69 0 d 0 6q 0 7b 0 hm 0 d 0 16s 0 fxr 1 j90 1 7 5 h41a 2n")

/-- Characters that do not begin identifiers which stay identifiers when normalised. -/
def notXidStart : CharSet := .ofTable "oq 0 249 0 3k 0 6p4 1 148y 5 bb 1 39 0 2 0 *6 80 1"

/-- Characters that do not go on in such identifiers. -/
def notXidContinue : CharSet := .ofTable "oq 0 8wx 1 148y 5 bb 1 39 0 2 0 *6"

/-- Punctuation within words, and between letters or digits. -/
def midLetter : CharSet :=
  ⟨[(0x3A, 0x3A), (0xB7, 0xB7), (0x387, 0x387), (0x55F, 0x55F), (0x5F4, 0x5F4), (0x2027, 0x2027),
      (0xFE13, 0xFE13), (0xFE55, 0xFE55), (0xFF1A, 0xFF1A)]⟩

def midNumLet : CharSet :=
  ⟨[(0x2E, 0x2E), (0x2018, 0x2019), (0x2024, 0x2024), (0xFE52, 0xFE52), (0xFF07, 0xFF07),
      (0xFF0E, 0xFF0E)]⟩

def singleQuote : CharSet := .run 0x27 0x27

def lowercase : CharSet := lowercaseLetter.chars.union otherLowercase

def uppercase : CharSet := uppercaseLetter.chars.union otherUppercase

def cased : CharSet := .unions [lowercase, uppercase, titlecaseLetter.chars]

def alphabetic : CharSet := .unions [charsOf letters, letterNumber.chars, otherAlphabetic]

def math : CharSet := mathSymbol.chars.union otherMath

/-- Letters, marks, digits, connecting punctuation and joiners. -/
def word : CharSet :=
  .unions [alphabetic, charsOf marks, decimalNumber.chars, connectorPunctuation.chars, joinControl]

/-- What belongs to the character before it. -/
def graphemeExtend : CharSet :=
  .unions [enclosingMark.chars, nonspacingMark.chars, otherGraphemeExtend]

def graphemeBase : CharSet :=
  (CharSet.unions [graphemeExtend, charsOf [.control, .format, .surrogate, .privateUse,
    .unassigned, .lineSeparator, .paragraphSeparator]]).complement

/-- What is not shown where it is not understood. -/
def defaultIgnorable : CharSet :=
  (CharSet.unions [otherDefaultIgnorable, Category.format.chars, variationSelector]).diff
    (.unions [.run 0xFFF9 0xFFFB, .run 0x13430 0x13440, prependedConcatenationMark])

def caseIgnorable : CharSet :=
  .unions [charsOf [.nonspacingMark, .enclosingMark, .format, .modifierLetter, .modifierSymbol],
    midLetter, midNumLet, singleQuote]

def changesWhenCasemapped : CharSet :=
  .unions [changesWhenLowercased, changesWhenUppercased, changesWhenTitlecased]

def idStart : CharSet :=
  (CharSet.unions [charsOf letters, letterNumber.chars, otherIdStart]).diff
    (patternSyntax.union patternBlank)

def idContinue : CharSet :=
  (CharSet.unions [idStart, otherIdContinue,
    charsOf [.nonspacingMark, .spacingMark, .decimalNumber, .connectorPunctuation]]).diff
    (patternSyntax.union patternBlank)

def xidStart : CharSet := idStart.diff notXidStart

def xidContinue : CharSet := idContinue.diff notXidContinue

def properties : List (List String × CharSet) :=
  [(["AHex", "ASCII_Hex_Digit"], asciiHexDigit),
    (["Alpha", "Alphabetic"], alphabetic),
    (["Bidi_C", "Bidi_Control"], bidiControl),
    (["Bidi_M", "Bidi_Mirrored"], bidiMirrored),
    (["CI", "Case_Ignorable"], caseIgnorable),
    (["Cased"], cased),
    (["CWCF", "Changes_When_Casefolded"], changesWhenCasefolded),
    (["CWCM", "Changes_When_Casemapped"], changesWhenCasemapped),
    (["CWL", "Changes_When_Lowercased"], changesWhenLowercased),
    (["CWT", "Changes_When_Titlecased"], changesWhenTitlecased),
    (["CWU", "Changes_When_Uppercased"], changesWhenUppercased),
    (["Dash"], dash),
    (["DI", "Default_Ignorable_Code_Point"], defaultIgnorable),
    (["Dep", "Deprecated"], deprecated),
    (["Dia", "Diacritic"], diacritic),
    (["Emoji"], emoji),
    (["EComp", "Emoji_Component"], emojiComponent),
    (["EMod", "Emoji_Modifier"], emojiModifier),
    (["EBase", "Emoji_Modifier_Base"], emojiModifierBase),
    (["EPres", "Emoji_Presentation"], emojiPresentation),
    (["ExtPict", "Extended_Pictographic"], extendedPictographic),
    (["Ext", "Extender"], extender),
    (["Gr_Base", "Grapheme_Base"], graphemeBase),
    (["Gr_Ext", "Grapheme_Extend"], graphemeExtend),
    (["Gr_Link", "Grapheme_Link"], graphemeLink),
    (["Hex", "Hex_Digit"], hexDigit),
    (["Hyphen"], hyphen),
    (["IDSB", "IDS_Binary_Operator"], idsBinary),
    (["IDST", "IDS_Trinary_Operator"], idsTrinary),
    (["IDSU", "IDS_Unary_Operator"], idsUnary),
    (["ID_Compat_Math_Continue"], compatMathContinue),
    (["ID_Compat_Math_Start"], compatMathStart),
    (["IDC", "ID_Continue"], idContinue),
    (["IDS", "ID_Start"], idStart),
    (["Ideo", "Ideographic"], ideographic),
    (["Join_C", "Join_Control"], joinControl),
    (["LOE", "Logical_Order_Exception"], logicalOrderException),
    (["Lower", "Lowercase"], lowercase),
    (["Math"], math),
    (["MCM", "Modifier_Combining_Mark"], modifierCombiningMark),
    (["NChar", "Noncharacter_Code_Point"], noncharacter),
    (["OAlpha", "Other_Alphabetic"], otherAlphabetic),
    (["ODI", "Other_Default_Ignorable_Code_Point"], otherDefaultIgnorable),
    (["OGr_Ext", "Other_Grapheme_Extend"], otherGraphemeExtend),
    (["OIDC", "Other_ID_Continue"], otherIdContinue),
    (["OIDS", "Other_ID_Start"], otherIdStart),
    (["OLower", "Other_Lowercase"], otherLowercase),
    (["OMath", "Other_Math"], otherMath),
    (["OUpper", "Other_Uppercase"], otherUppercase),
    (["Pat_Syn", "Pattern_Syntax"], patternSyntax),
    (["Pat_WS", "Pattern_White_Space"], patternBlank),
    (["PCM", "Prepended_Concatenation_Mark"], prependedConcatenationMark),
    (["QMark", "Quotation_Mark"], quotationMark),
    (["Radical"], radical),
    (["RI", "Regional_Indicator"], regionalIndicator),
    (["STerm", "Sentence_Terminal"], sentenceTerminal),
    (["SD", "Soft_Dotted"], softDotted),
    (["Term", "Terminal_Punctuation"], terminalPunctuation),
    (["UIdeo", "Unified_Ideograph"], unifiedIdeograph),
    (["Upper", "Uppercase"], uppercase),
    (["VS", "Variation_Selector"], variationSelector),
    (["WSpace", "White_Space", "space"], .blank),
    (["XIDC", "XID_Continue"], xidContinue),
    (["XIDS", "XID_Start"], xidStart)]

/-- The characters with the property of a name in its loose spelling. -/
def property? (loose : String) : Option CharSet :=
  (properties.find? fun p => isNamed loose p.1).map (·.2)

end Unicode
end TopicFeed
