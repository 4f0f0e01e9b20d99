import TopicFeed.Unicode.CharSet
import TopicFeed.Unicode.Name
/-! Scripts, and the characters that several of them share. -/
namespace TopicFeed
namespace Unicode

/-- A script: its names, the code before all, and the table of its characters. -/
structure Script where
  code : String
  names : List String
  table : String

namespace Script

def all : List Script :=
  [⟨"Adlm", ["Adlam"], "2olc 23 5 9 5 1"⟩,
    ⟨"Aghb", ["Caucasian_Albanian"], "1flc 1f c 0"⟩,
    ⟨"Ahom", ["Ahom"], "1j40 q 3 e 5 m"⟩,
    ⟨"Arab", ["Arabic"],
      "16o 4 2 5 2 d 2 2 2 v 2 9 c p 2 2z 2 x 29 1b 6p u 2 1 6 22 2 s 1bv5 36 h a2 3 27 3 " ++
        "1h 8 0 x f 35 4 2 3q 31g u 1w 2 1k 3 181t 3 2 q 2 1 2 0 3 0 2 9 2 3 2 0 *1 7 0 5 0 2 " ++
        "0 *1 2 2 2 1 2 0 3 0 2 0 *3 2 1 2 0 3 3 2 6 2 3 *1 2 0 2 9 2 g 6 2 2 4 2 g 1h 1"⟩,
    ⟨"Armi", ["Imperial_Aramaic"], "1g74 l 2 8"⟩,
    ⟨"Armn", ["Armenian"], "10x 11 3 1d 3 2 1chw 4"⟩,
    ⟨"Avst", ["Avestan"], "1gqo 1h 4 6"⟩,
    ⟨"Bali", ["Balinese"], "5c0 24 2 1d"⟩,
    ⟨"Bamu", ["Bamum"], "www 2f 124p fs"⟩,
    ⟨"Bass", ["Bassa_Vah"], "1zo0 t 3 5"⟩,
    ⟨"Batk", ["Batak"], "5hc 1f 9 3"⟩,
    ⟨"Beng", ["Bengali"], "1vk 3 2 7 3 1 3 l 2 6 2 0 4 3 3 8 3 1 3 3 9 0 5 1 2 4 3 o"⟩,
    ⟨"Bhks", ["Bhaiksuki"], "1k3k 8 2 18 2 d b s"⟩,
    ⟨"Bopo", ["Bopomofo"], "kq 1 93u 16 35 v"⟩,
    ⟨"Brah", ["Brahmi"], "1hq8 25 5 z a 0"⟩,
    ⟨"Brai", ["Braille"], "7wg 73"⟩,
    ⟨"Bugi", ["Buginese"], "54w r 3 1"⟩,
    ⟨"Buhd", ["Buhid"], "4lc j"⟩,
    ⟨"Cakm", ["Chakma"], "1hxc 1g 2 h"⟩,
    ⟨"Cans", ["Canadian_Aboriginal"], "3y8 hr fl 1x 1ewr f"⟩,
    ⟨"Cari", ["Carian"], "1f34 1c"⟩,
    ⟨"Cham", ["Cham"], "xkw 1i a d 3 9 3 3"⟩,
    ⟨"Cher", ["Cherokee"], "3vk 2d 3 5 twz 27"⟩,
    ⟨"Chrs", ["Chorasmian"], "1ho0 r"⟩,
    ⟨"Copt", ["Coptic", "Qaac"], "rm d 80h 37 6 6"⟩,
    ⟨"Cpmn", ["Cypro_Minoan"], "1nyo 2q"⟩,
    ⟨"Cprt", ["Cypriot"], "1g5c 5 3 0 2 17 2 1 4 0 3 0"⟩,
    ⟨"Cyrl", ["Cyrillic"], "sg 3o 3 4o 4lt a 4h 0 25 0 38o v nr5 2n han 1 18n5 1p y 0"⟩,
    ⟨"Deva", ["Devanagari"], "1s0 28 5 e 3 p vhd v mip 9"⟩,
    ⟨"Diak", ["Dives_Akuru"], "1ji8 6 3 0 3 7 2 1 2 t 2 1 3 b a 9"⟩,
    ⟨"Dogr", ["Dogra"], "1jb4 1n"⟩,
    ⟨"Dsrt", ["Deseret"], "1fcw 27"⟩,
    ⟨"Dupl", ["Duployan"], "2fpc 2y 6 c 4 8 8 9 3 3"⟩,
    ⟨"Egyp", ["Egyptian_Hieroglyphs"], "1o1s ut b 32y"⟩,
    ⟨"Elba", ["Elbasan"], "1fk0 13"⟩,
    ⟨"Elym", ["Elymaic"], "1hpc m"⟩,
    ⟨"Ethi", ["Ethiopic"],
      "3k0 20 2 3 3 6 2 0 2 3 3 14 2 3 3 w 2 3 3 6 2 0 2 3 3 e 2 1k 2 3 3 1u 3 v 4 p 547 m " ++
        "a 6 2 6 *6 opv 5 3 5 *1 a 6 2 6 1qk2 6 2 3 2 1 2 e"⟩,
    ⟨"Gara", ["Garay"], "1h6o 11 4 s 9 1"⟩,
    ⟨"Geor", ["Georgian"], "3a8 11 2 0 6 0 3 16 2 3 2a9 16 3 2 37l 11 2 0 6 0"⟩,
    ⟨"Glag", ["Glagolitic"], "8ow 2n 2e1t 6 2 g 3 6 2 1 2 4"⟩,
    ⟨"Gong", ["Gunjala_Gondi"], "1kdc 5 2 1 2 10 2 1 2 5 8 9"⟩,
    ⟨"Gonm", ["Masaram_Gondi"], "1kao 6 2 1 2 17 4 0 2 1 2 8 9 9"⟩,
    ⟨"Goth", ["Gothic"], "1f74 q"⟩,
    ⟨"Gran", ["Grantha"], "1ibk 3 2 7 3 1 3 l 2 6 2 1 2 4 3 8 3 1 3 2 3 0 7 0 6 6 3 6 4 4"⟩,
    ⟨"Grek", ["Greek"],
      "og 3 2 2 3 3 2 0 5 0 2 0 2 2 2 0 2 j 2 1q f f 4yv 4 1f 4 5 4 2d 0 8x l 3 5 3 11 3 5 " ++
        "3 7 2 0 *2 2 u 3 1g 2 e 2 d 3 5 2 i 3 2 2 8 88 0 rb3 0 gyj 26 i 0 155s 1x"⟩,
    ⟨"Gujr", ["Gujarati"], "22p 2 2 8 2 2 2 l 2 6 2 1 2 4 3 9 2 2 *1 3 0 g 3 3 b 8 6"⟩,
    ⟨"Gukh", ["Gurung_Khema"], "1xq8 1l"⟩,
    ⟨"Guru", ["Gurmukhi"], "1z5 2 2 5 5 1 3 l 2 6 2 1 *2 3 0 2 4 5 1 3 2 4 0 8 3 2 0 8 g"⟩,
    ⟨"Hang", ["Hangul"],
      "3cw 73 5yn 1 76 2l 36 u 1u u nhe s hw 8mb d m 5 1c 7tx u 4 5 3 5 *1 3 2"⟩,
    ⟨"Hani", ["Han"],
      "96o p 2 2g d 5x 1c 0 2 0 q 8 f 3 qt 533 1t g73 hkx a5 3 2x n49 1 d 1 sgf wyn x 37d 7 " ++
        "65 3 4g1 f 5rk g h9 1wj f1 15v 3t6 6 38f"⟩,
    ⟨"Hano", ["Hanunoo"], "4kg k"⟩,
    ⟨"Hatr", ["Hatran"], "1gbk i 2 1 6 4"⟩,
    ⟨"Hebr", ["Hebrew"], "13l 1i 9 q 5 5 1cfd p 2 4 2 0 2 1 *1 2 9"⟩,
    ⟨"Hira", ["Hiragana"], "9j5 2d 7 2 23qa 7y j 0 u 2 cry 0"⟩,
    ⟨"Hluw", ["Anatolian_Hieroglyphs"], "1s00 g6"⟩,
    ⟨"Hmng", ["Pahawh_Hmong"], "1zpc 1x b 9 2 6 2 k 6 i"⟩,
    ⟨"Hmnp", ["Nyiakeng_Puachue_Hmong"], "2n0g 18 4 d 3 9 5 1"⟩,
    ⟨"Hung", ["Old_Hungarian"], "1h1c 1e e 1e 8 5"⟩,
    ⟨"Ital", ["Old_Italic"], "1f5s z a 2"⟩,
    ⟨"Java", ["Javanese"], "xhc 25 3 9 5 1"⟩,
    ⟨"Kali", ["Kayah_Li"], "xds 19 2 0"⟩,
    ⟨"Kana", ["Katakana"],
      "9lt 2h 3 2 6p f 5t 1a 2 2f 14b3 9 2 18 ytv 3 2 6 2 1 2 0 80 2 1f 0 f 3"⟩,
    ⟨"Kawi", ["Kawi"], "1kow g 2 14 4 s"⟩,
    ⟨"Khar", ["Kharoshthi"], "1gjk 3 2 1 6 7 2 2 2 s 3 2 5 9 8 8"⟩,
    ⟨"Khmr", ["Khmer"], "4n4 2l 3 9 7 9 dj v"⟩,
    ⟨"Khoj", ["Khojki"], "1i4g h 2 1a"⟩,
    ⟨"Kits", ["Khitan_Small_Script"], "20o4 0 5cs d1 16 0"⟩,
    ⟨"Knda", ["Kannada"], "2gw c 2 2 2 m 2 9 2 4 3 8 2 2 2 3 8 1 7 1 2 3 3 9 2 2"⟩,
    ⟨"Krai", ["Kirat_Rai"], "205c 1l"⟩,
    ⟨"Kthi", ["Kaithi"], "1hts 1u b 0"⟩,
    ⟨"Lana", ["Tai_Tham"], "55s 1q 2 s 3 a 7 9 7 d"⟩,
    ⟨"Laoo", ["Lao"], "2v5 1 2 0 2 4 2 n 2 0 2 m 3 4 2 0 2 6 2 9 3 3"⟩,
    ⟨"Latn", ["Latin"],
      "1t p 7 p 1c 0 g 0 6 m 2 u 2 cg 14 4 55o 11 7 1c 6 3 6 c 2 1x 1u 73 aa 0 e 0 h c 3y 1 " ++
        "7 0 s 0 i 14 254 v o83 2t 4 1u 3 1 2 0 2 7 m d mp 16 2 8 2 3 fpz 6 t7 p 7 p 1ly 5 2 " ++
        "15 2 8 16iu u 7 5"⟩,
    ⟨"Lepc", ["Lepcha"], "5j4 1j 4 e 4 2"⟩,
    ⟨"Limb", ["Limbu"], "4xs u 2 b 5 b 5 0 4 b"⟩,
    ⟨"Lina", ["Linear_A"], "1fr4 8m a l b 7"⟩,
    ⟨"Linb", ["Linear_B"], "1ekg b 2 p 2 i 2 1 2 e 3 d z 3e"⟩,
    ⟨"Lisu", ["Lisu"], "wk0 1b o8h 0"⟩,
    ⟨"Lyci", ["Lycian"], "1f28 s"⟩,
    ⟨"Lydi", ["Lydian"], "1gdc p 6 0"⟩,
    ⟨"Mahj", ["Mahajani"], "1hzk 12"⟩,
    ⟨"Maka", ["Makasar"], "1ko0 o"⟩,
    ⟨"Mand", ["Mandaic"], "1mo r 3 0"⟩,
    ⟨"Mani", ["Manichaean"], "1gow 12 5 b"⟩,
    ⟨"Marc", ["Marchen"], "1k6o v 3 l 2 d"⟩,
    ⟨"Medf", ["Medefaidrin"], "20cg 2i"⟩,
    ⟨"Mend", ["Mende_Kikakui"], "2oe8 5g 3 f"⟩,
    ⟨"Merc", ["Meroitic_Cursive"], "1ggw n 5 j 3 19"⟩,
    ⟨"Mero", ["Meroitic_Hieroglyphs"], "1gg0 v"⟩,
    ⟨"Mlym", ["Malayalam"], "2kg c 2 2 2 1e 2 2 2 5 5 f 3 p"⟩,
    ⟨"Modi", ["Modi"], "1iww 1w c 9"⟩,
    ⟨"Mong", ["Mongolian"], "4qo 1 3 0 2 j 7 2g 8 16 1e46 c"⟩,
    ⟨"Mroo", ["Mro"], "1zk0 u 2 9 5 1"⟩,
    ⟨"Mtei", ["Meetei_Mayek"], "xr4 m 5m 19 3 9"⟩,
    ⟨"Mult", ["Multani"], "1i80 6 2 0 2 3 2 e 2 a"⟩,
    ⟨"Mymr", ["Myanmar"], "35s 4f u9t u 2q v le9 j"⟩,
    ⟨"Nagm", ["Nag_Mundari"], "2nrk 15"⟩,
    ⟨"Nand", ["Nandinagari"], "1jmo 7 3 19 3 a"⟩,
    ⟨"Narb", ["Old_North_Arabian"], "1gn4 v"⟩,
    ⟨"Nbat", ["Nabataean"], "1g8w u 9 8"⟩,
    ⟨"Newa", ["Newa"], "1iio 2j 2 4"⟩,
    ⟨"Nkoo", ["Nko"], "1j4 1m 3 2"⟩,
    ⟨"Nshu", ["Nushu"], "20o1 0 cy7 az"⟩,
    ⟨"Ogam", ["Ogham"], "4g0 s"⟩,
    ⟨"Olck", ["Ol_Chiki"], "5lc 1b"⟩,
    ⟨"Onao", ["Ol_Onal"], "2nyo 16 5 0"⟩,
    ⟨"Orkh", ["Old_Turkic"], "1gxs 20"⟩,
    ⟨"Orya", ["Oriya"], "269 2 2 7 3 1 3 l 2 6 2 1 2 4 3 8 3 1 3 2 8 2 5 1 2 4 3 h"⟩,
    ⟨"Osge", ["Osage"], "1fhs z 5 z"⟩,
    ⟨"Osma", ["Osmanya"], "1fgg t 3 9"⟩,
    ⟨"Ougr", ["Old_Uyghur"], "1hm8 p"⟩,
    ⟨"Palm", ["Palmyrene"], "1g80 v"⟩,
    ⟨"Pauc", ["Pau_Cin_Hau"], "1juo 1k"⟩,
    ⟨"Perm", ["Old_Permic"], "1f80 16"⟩,
    ⟨"Phag", ["Phags_Pa"], "x8g 1j"⟩,
    ⟨"Phli", ["Inscriptional_Pahlavi"], "1gtc i 6 7"⟩,
    ⟨"Phlp", ["Psalter_Pahlavi"], "1gu8 h 8 3 d 6"⟩,
    ⟨"Phnx", ["Phoenician"], "1gcg r 4 0"⟩,
    ⟨"Plrd", ["Miao"], "20hs 22 5 1k 8 g"⟩,
    ⟨"Prti", ["Inscriptional_Parthian"], "1gsg l 3 7"⟩,
    ⟨"Rjng", ["Rejang"], "xf4 z c 0"⟩,
    ⟨"Rohg", ["Hanifi_Rohingya"], "1h4w 13 9 9"⟩,
    ⟨"Runr", ["Runic"], "4gw 22 4 a"⟩,
    ⟨"Samr", ["Samaritan"], "1kw 19 3 e"⟩,
    ⟨"Sarb", ["Old_South_Arabian"], "1gm8 v"⟩,
    ⟨"Saur", ["Saurashtra"], "xa8 1x 9 b"⟩,
    ⟨"Sgnw", ["SignWriting"], "2l8g i3 g 4 2 e"⟩,
    ⟨"Shaw", ["Shavian"], "1ff4 1b"⟩,
    ⟨"Shrd", ["Sharada"], "1i0w 2n"⟩,
    ⟨"Sidd", ["Siddham"], "1itc 1h 3 11"⟩,
    ⟨"Sind", ["Khudawadi"], "1i9c 1m 6 9"⟩,
    ⟨"Sinh", ["Sinhala"], "2o1 2 2 h 4 n 2 8 2 0 3 6 4 0 5 5 2 0 2 7 7 9 3 2 1fcd j"⟩,
    ⟨"Sogd", ["Sogdian"], "1hkg 15"⟩,
    ⟨"Sogo", ["Old_Sogdian"], "1hj4 13"⟩,
    ⟨"Sora", ["Sora_Sompeng"], "1hw0 o 8 9"⟩,
    ⟨"Soyo", ["Soyombo"], "1jrk 2a"⟩,
    ⟨"Sund", ["Sundanese"], "5fk 1r 75 7"⟩,
    ⟨"Sunu", ["Sunuwar"], "1k1s x f 9"⟩,
    ⟨"Sylo", ["Syloti_Nagri"], "x6o 18"⟩,
    ⟨"Syrc", ["Syriac"], "1ds d 2 1n 3 2 7l a"⟩,
    ⟨"Tagb", ["Tagbanwa"], "4m8 c 2 2 2 1"⟩,
    ⟨"Takr", ["Takri"], "1j0g 1l 7 9"⟩,
    ⟨"Tale", ["Tai_Le"], "500 t 3 4"⟩,
    ⟨"Talu", ["New_Tai_Lue"], "51c 17 5 p 7 a 4 1"⟩,
    ⟨"Taml", ["Tamil"],
      "29u 1 2 5 4 2 2 3 4 1 2 0 2 1 4 1 4 2 4 b 5 4 4 2 2 3 3 0 7 0 f k 1ih2 1d e 0"⟩,
    ⟨"Tang", ["Tangut"], "20o0 0 w 4qf 9 lb e9 8"⟩,
    ⟨"Tavt", ["Tai_Viet"], "xog 1u p 4"⟩,
    ⟨"Telu", ["Telugu"], "2dc c 2 2 2 m 2 f 3 8 2 2 2 3 8 1 2 2 3 0 3 3 3 9 8 8"⟩,
    ⟨"Tfng", ["Tifinagh"], "8xc 1j 8 1 f 0"⟩,
    ⟨"Tglg", ["Tagalog"], "4jk l a 0"⟩,
    ⟨"Thaa", ["Thaana"], "1hc 1d"⟩,
    ⟨"Thai", ["Thai"], "2rl 1l 6 r"⟩,
    ⟨"Tibt", ["Tibetan"], "2yo 1z 2 z 5 12 2 z 2 e 2 6 5 1"⟩,
    ⟨"Tirh", ["Tirhuta"], "1im8 1z 9 9"⟩,
    ⟨"Tnsa", ["Tangsa"], "1zlc 26 2 9"⟩,
    ⟨"Todr", ["Todhri"], "1fpc 1f"⟩,
    ⟨"Toto", ["Toto"], "2nbk u"⟩,
    ⟨"Tutg", ["Tulu_Tigalari"], "1if4 9 2 0 3 0 2 11 2 9 2 0 3 0 2 3 2 9 2 1 9 1"⟩,
    ⟨"Ugar", ["Ugaritic"], "1f9c t 2 0"⟩,
    ⟨"Vaii", ["Vai"], "wlc 8b"⟩,
    ⟨"Vith", ["Vithkuqi"], "1fn4 a 2 e 2 6 2 1 2 a 2 e 2 6 2 1"⟩,
    ⟨"Wara", ["Warang_Citi"], "1jfk 2a d 0"⟩,
    ⟨"Wcho", ["Wancho"], "2ncw 1l 6 0"⟩,
    ⟨"Xpeo", ["Old_Persian"], "1fa8 z 5 d"⟩,
    ⟨"Xsux", ["Cuneiform"], "1kw0 pl 2v 32 2 4 c 5f"⟩,
    ⟨"Yezi", ["Yezidi"], "1hfk 15 2 2 3 1"⟩,
    ⟨"Yiii", ["Yi"], "vls wc 4 1i"⟩,
    ⟨"Zanb", ["Zanabazar_Square"], "1jpc 1z"⟩,
    ⟨"Zinh", ["Inherited", "Qaai"],
      "lc 33 7q 1 cl a r 0 kh 3 3fg u ea 2 2 c 2 6 5 0 7 0 4 1 5j 1r el 1 5f w 30a 3 30 1 " ++
        "14km f h d r4 0 6b 0 38b 0 1139 19 3 m f5 2 i 7 3 6 v 3 h45v 6n"⟩,
    ⟨"Zyyy", ["Common"],
      "0 1s r 5 r 1a 2 e 2 4 o 0 w 0 ci 12 6 4 3 j 39 0 a 0 7 0 2 0 hq 0 7 0 f 0 4 0 x 0 4d " ++
        "0 ed 0 3m 1 yi 0 ba 3 83 0 168 2 20 1 5o 1 2 0 y6 0 e 0 8 3 2 5 2 2 3 0 li b 3 2e 2 " ++
        "a 4 a 2 e i w 1s 11 2 2 3 5 2 q 2 g 16 2 5 ih n a m pr 75 hf 3 v 2 2w e9 2l b7 k 2 0 " ++
        "2 o g 7 5 3 2k 1 4 0 2j 1 44 f x 11 a 0 1d 1r w 28 1c 0 2h 4n 535 1r hkx x 2v 2 4m 9 " ++
        "6t 0 4h 0 b0 0 f 1 g5v 1 5t 9 n y 2 i 2 3 44 0 2 v r 5 r a b 0 1a 1 1t 6 2 6 b 4 77 " ++
        "2 5 18 4 8 29 c 1g 18 6d q 10o5 3 319 6x 7 c3 4d 37 1p 6t b 12 3 1p 4 g 9 1 8 t 5 1o " ++
        "5y j d j d 2e a o 3s 2c 2 1y 2 1 3 0 3 1 3 3 2 b 2 0 2 6 2 1s 2 3 3 7 2 6 2 r 2 3 2 " ++
        "4 2 0 4 6 2 9f 3 83 3 1d 41e 1v 25 1o jn 17 5 2r d e 3 e 2 e 2 10 b 4t 1l p 2 1 e 17 " ++
        "5 8 8 1 f 5 4b rb 5 g 4 c 4 3a 5 2m 7 b 5 0 g b 5 1j 9 9 7 13 9 t 3 b 5 1 1r 9f d d " ++
        "3 c 4 9 6 1j 8 e 3 a 7 8 8 42 2 2t gvm0 0 v 2n"⟩]

/-- Characters for which Unicode lists the scripts that use them: a table of them, and the codes of
the scripts. -/
def shared : List (String × String) :=
  [("53 0", "Avst Cari Copt Dupl Elba Geor Glag Gong Goth Grek Hani Latn Lydi Mahj Perm Shaw"),
    ("jg 0", "Beng Cyrl Deva Latn Lisu Thai Toto"),
    ("jr 0 2 2 e 0", "Bopo Latn"),
    ("jx 0", "Latn Lisu"),
    ("k7 0", "Latn Thai"),
    ("lc 0", "Cher Copt Cyrl Grek Latn Perm Sunu Tale"),
    ("ld 0", "Cher Cyrl Grek Latn Osge Sunu Tale Todr"),
    ("le 0", "Cher Cyrl Latn Tfng"),
    ("lf 0", "Glag Latn Sunu Syrc Thai"),
    ("lg 0", "Aghb Cher Copt Cyrl Goth Grek Latn Osge Syrc Tfng Todr"),
    ("lh 0", "Copt Elba Glag Goth Kana Latn"),
    ("li 0", "Cyrl Grek Latn Perm Tfng"),
    ("lj 0", "Copt Dupl Hebr Latn Perm Syrc Tale Tfng Todr"),
    ("lk 0", "Armn Cyrl Dupl Goth Grek Hebr Latn Perm Syrc Tale Tfng"),
    ("ll 0", "Latn Tfng"),
    ("lm 0", "Dupl Latn Syrc"),
    ("ln 0", "Cher Cyrl Latn Osge"),
    ("lo 0", "Cher Latn Tale"),
    ("lp 0 3 0", "Latn Sunu"),
    ("lq 0", "Ethi Latn"),
    ("lt 0", "Cyrl Latn Todr"),
    ("lv 0", "Grek Latn Perm Todr"),
    ("m8 0 5 0 9 0", "Latn Syrc"),
    ("mb 0", "Cher Dupl Kana Latn Syrc Tfng"),
    ("mc 0", "Cher Dupl Latn Syrc"),
    ("ml 0", "Latn Sunu Syrc"),
    ("mo 0", "Cher Latn Syrc"),
    ("mp 0", "Aghb Cher Goth Latn Sunu Thai"),
    ("n6 0 3 0 58b 1", "Grek"),
    ("ns 0", "Latn Osge"),
    ("ny 0", "Aghb Latn Todr"),
    ("o3 c", "Latn"),
    ("ok 1", "Copt Grek"),
    ("w3 0", "Cyrl Perm"),
    ("w4 0 3 0 88s 0 nqk 0", "Cyrl Glag"),
    ("w5 1", "Cyrl Latn"),
    ("13d 0", "Armn Geor Glag"),
    ("170 0 f 0", "Arab Gara Nkoo Rohg Syrc Thaa Yezi"),
    ("17g 0", "Arab Syrc Thaa"),
    ("17j 0", "Adlm Arab Gara Nkoo Rohg Syrc Thaa Yezi"),
    ("18g 0", "Adlm Arab Mand Mani Ougr Phlp Rohg Sogd Syrc"),
    ("18r a r 0", "Arab Syrc"),
    ("19c 9", "Arab Thaa Yezi"),
    ("1ck 0", "Arab Rohg"),
    ("1u9 0", "Beng Deva Gran Gujr Guru Knda Latn Mlym Orya Shrd Taml Telu Tirh"),
    ("1ua 0", "Beng Deva Gran Gujr Guru Knda Latn Mlym Orya Taml Telu Tirh"),
    ("1us 0",
      "Beng Deva Dogr Gong Gonm Gran Gujr Guru Knda Mahj Mlym Nand Onao Orya Sind Sinh Sylo " ++
        "Takr Taml Telu Tirh"),
    ("1ut 0",
      "Beng Deva Dogr Gong Gonm Gran Gujr Gukh Guru Knda Limb Mahj Mlym Nand Onao Orya Sind " ++
        "Sinh Sylo Takr Taml Telu Tirh"),
    ("1uu 9", "Deva Dogr Kthi Mahj"),
    ("1ye 9", "Beng Cakm Sylo"),
    ("21y 9", "Guru Mult"),
    ("25i 9", "Gujr Khoj"),
    ("2cm d 1fym 0 2 0 1k 1 2hg 1 2 0", "Gran Taml"),
    ("2jq 9", "Knda Nand Tutg"),
    ("37k 9", "Cakm Mymr Tale"),
    ("3cr 0", "Geor Glag Latn"),
    ("4iz 2", "Runr"),
    ("4l1 1", "Buhd Hano Tagb Tglg"),
    ("4qq 1 2 0", "Mong Phag"),
    ("5ow 0 2 0", "Beng Deva Gran Knda"),
    ("5ox 0 3 0 7 0 3 1 3 6 3 1 2 3", "Deva"),
    ("5oz 0", "Deva Gran Knda"),
    ("5p1 1 2 0 9 0 *1 3 0 8 1", "Beng Deva"),
    ("5p3 0 2 0 3 1 3 0", "Deva Shrd"),
    ("5p6 0", "Deva Knda Mlym Orya Taml Telu"),
    ("5pl 0", "Deva Nand"),
    ("5pu 0", "Beng Deva Gran Knda Mlym Nand Orya Sinh Telu Tirh Tutg"),
    ("5pv 0 5 1", "Deva Gran"),
    ("5pw 0", "Deva Gran Knda Tutg"),
    ("5pz 0", "Beng"),
    ("5q2 0", "Nand"),
    ("5x4 0", "Cyrl Latn Syrc"),
    ("5x6 0", "Syrc"),
    ("6cv 0", "Latn Mong Phag"),
    ("6dr 0", "Adlm Arab"),
    ("6e2 0", "Cari Geor Glag Hung Lyci Orkh"),
    ("6e5 0", "Cari Grek Hung Mero"),
    ("6i8 0", "Deva Gran Latn"),
    ("93r 0", "Copt Latn"),
    ("94g 0", "Avst Orkh"),
    ("94h 0", "Avst Cari Geor Hung Kthi Lydi Samr"),
    ("94s 0 26p0 3", "Dupl"),
    ("94x 0", "Adlm Arab Hung"),
    ("9gw f ds 0", "Hani Tang"),
    ("9hd 0", "Bopo Hang Hani Hira Kana Mong Yiii"),
    ("9he 0", "Bopo Hang Hani Hira Kana Mong Phag Yiii"),
    ("9hf 0 g 0 9 3 h 0 7 0 14pa 1", "Bopo Hang Hani Hira Kana"),
    ("9hi 0 1k 1 9d f x 11 1n 13 1l 1c g b 1g 0 2h o b 4 2p u 2a1u h 63j 1", "Hani"),
    ("9hk 1", "Bopo Hang Hani Hira Kana Mong Tibt Yiii"),
    ("9hm 1", "Bopo Hang Hani Hira Kana Lisu Mong Tibt Yiii"),
    ("9ho 5 3 7 68 0 14rq 4", "Bopo Hang Hani Hira Kana Yiii"),
    ("9ii 3", "Bopo Hani"),
    ("9ip 4 2s 3 4 0 2k 0 14s4 0 1a 1", "Hira Kana"),
    ("9j0 1", "Hani Hira Kana"),
    ("wzk 7", "Hani Latn"),
    ("x80 2", "Deva Dogr Gujr Guru Khoj Knda Kthi Mahj Mlym Modi Nand Shrd Sind Takr Tirh Tutg"),
    ("x83 2", "Deva Dogr Gujr Guru Khoj Knda Kthi Mahj Modi Nand Shrd Sind Takr Tirh Tutg"),
    ("x86 1 2 0", "Deva Dogr Gujr Guru Khoj Kthi Mahj Modi Sind Takr Tirh"),
    ("x88 0", "Deva Dogr Gujr Guru Khoj Kthi Mahj Modi Shrd Sind Takr Tirh"),
    ("xdd 0", "Beng Deva Tutg"),
    ("xdf 0", "Deva Taml"),
    ("xf2 0", "Kali Latn Mymr"),
    ("xjj 0", "Bugi Java"),
    ("1e0u 1", "Arab Nkoo"),
    ("1e5u 0 b 0", "Arab Thaa"),
    ("1erk 1", "Cpmn Cprt Linb"),
    ("1erm 0 1h 8", "Cprt Linb"),
    ("1err 18", "Cprt Lina Linb"),
    ("1f4w r", "Arab Copt"),
    ("1gqa 0", "Mani Ougr")]

def named? (loose : String) : Option Script :=
  all.find? fun s => isNamed loose (s.code :: s.names)

def chars (s : Script) : CharSet := .ofTable s.table

/-- The characters that a script uses: its own, and those it shares. A character of its own with
a list of scripts that leaves the script out does not count. -/
def usedChars (s : Script) : CharSet :=
  let listed := shared.filter fun e => (e.2.splitOn " ").contains s.code
  let tables (entries : List (String × String)) : CharSet :=
    .unions (entries.map fun e => .ofTable e.1)
  (s.chars.diff (tables shared)).union (tables listed)

end Script
end Unicode
end TopicFeed
