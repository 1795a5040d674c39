import BucketKeys.Text.RangeMap

/-!
Characters that are composed of two: the first may be composed itself. Syllables of the Korean
alphabet are composed by rule, all others are listed.
-/

namespace BucketKeys.Text

/-- For each second character the first ones that it is composed with, and what they form. -/
def compositionTexts : List (Nat × String) :=
  [(0x0300,
    "0041>00C0 0045>00C8 0049>00CC 004E>01F8 004F>00D2 0055>00D9 0057>1E80 0059>1EF2 0061>00E0
     0065>00E8 0069>00EC 006E>01F9 006F>00F2 0075>00F9 0077>1E81 0079>1EF3 00A8>1FED 00C2>1EA6
     00CA>1EC0 00D4>1ED2 00DC>01DB 00E2>1EA7 00EA>1EC1 00F4>1ED3 00FC>01DC 0102>1EB0 0103>1EB1
     0112>1E14 0113>1E15 014C>1E50 014D>1E51 01A0>1EDC 01A1>1EDD 01AF>1EEA 01B0>1EEB 0391>1FBA
     0395>1FC8 0397>1FCA 0399>1FDA 039F>1FF8 03A5>1FEA 03A9>1FFA 03B1>1F70 03B5>1F72 03B7>1F74
     03B9>1F76 03BF>1F78 03C5>1F7A 03C9>1F7C 03CA>1FD2 03CB>1FE2 0415>0400 0418>040D 0435>0450
     0438>045D 1F00>1F02 1F01>1F03 1F08>1F0A 1F09>1F0B 1F10>1F12 1F11>1F13 1F18>1F1A 1F19>1F1B
     1F20>1F22 1F21>1F23 1F28>1F2A 1F29>1F2B 1F30>1F32 1F31>1F33 1F38>1F3A 1F39>1F3B 1F40>1F42
     1F41>1F43 1F48>1F4A 1F49>1F4B 1F50>1F52 1F51>1F53 1F59>1F5B 1F60>1F62 1F61>1F63 1F68>1F6A
     1F69>1F6B 1FBF>1FCD 1FFE>1FDD"),
   (0x0301,
    "0041>00C1 0043>0106 0045>00C9 0047>01F4 0049>00CD 004B>1E30 004C>0139 004D>1E3E 004E>0143
     004F>00D3 0050>1E54 0052>0154 0053>015A 0055>00DA 0057>1E82 0059>00DD 005A>0179 0061>00E1
     0063>0107 0065>00E9 0067>01F5 0069>00ED 006B>1E31 006C>013A 006D>1E3F 006E>0144 006F>00F3
     0070>1E55 0072>0155 0073>015B 0075>00FA 0077>1E83 0079>00FD 007A>017A 00A8>0385 00C2>1EA4
     00C5>01FA 00C6>01FC 00C7>1E08 00CA>1EBE 00CF>1E2E 00D4>1ED0 00D5>1E4C 00D8>01FE 00DC>01D7
     00E2>1EA5 00E5>01FB 00E6>01FD 00E7>1E09 00EA>1EBF 00EF>1E2F 00F4>1ED1 00F5>1E4D 00F8>01FF
     00FC>01D8 0102>1EAE 0103>1EAF 0112>1E16 0113>1E17 014C>1E52 014D>1E53 0168>1E78 0169>1E79
     01A0>1EDA 01A1>1EDB 01AF>1EE8 01B0>1EE9 0391>0386 0395>0388 0397>0389 0399>038A 039F>038C
     03A5>038E 03A9>038F 03B1>03AC 03B5>03AD 03B7>03AE 03B9>03AF 03BF>03CC 03C5>03CD 03C9>03CE
     03CA>0390 03CB>03B0 03D2>03D3 0413>0403 041A>040C 0433>0453 043A>045C 1F00>1F04 1F01>1F05
     1F08>1F0C 1F09>1F0D 1F10>1F14 1F11>1F15 1F18>1F1C 1F19>1F1D 1F20>1F24 1F21>1F25 1F28>1F2C
     1F29>1F2D 1F30>1F34 1F31>1F35 1F38>1F3C 1F39>1F3D 1F40>1F44 1F41>1F45 1F48>1F4C 1F49>1F4D
     1F50>1F54 1F51>1F55 1F59>1F5D 1F60>1F64 1F61>1F65 1F68>1F6C 1F69>1F6D 1FBF>1FCE 1FFE>1FDE"),
   (0x0302,
    "0041>00C2 0043>0108 0045>00CA 0047>011C 0048>0124 0049>00CE 004A>0134 004F>00D4 0053>015C
     0055>00DB 0057>0174 0059>0176 005A>1E90 0061>00E2 0063>0109 0065>00EA 0067>011D 0068>0125
     0069>00EE 006A>0135 006F>00F4 0073>015D 0075>00FB 0077>0175 0079>0177 007A>1E91 1EA0>1EAC
     1EA1>1EAD 1EB8>1EC6 1EB9>1EC7 1ECC>1ED8 1ECD>1ED9"),
   (0x0303,
    "0041>00C3 0045>1EBC 0049>0128 004E>00D1 004F>00D5 0055>0168 0056>1E7C 0059>1EF8 0061>00E3
     0065>1EBD 0069>0129 006E>00F1 006F>00F5 0075>0169 0076>1E7D 0079>1EF9 00C2>1EAA 00CA>1EC4
     00D4>1ED6 00E2>1EAB 00EA>1EC5 00F4>1ED7 0102>1EB4 0103>1EB5 01A0>1EE0 01A1>1EE1 01AF>1EEE
     01B0>1EEF"),
   (0x0304,
    "0041>0100 0045>0112 0047>1E20 0049>012A 004F>014C 0055>016A 0059>0232 0061>0101 0065>0113
     0067>1E21 0069>012B 006F>014D 0075>016B 0079>0233 00C4>01DE 00C6>01E2 00D5>022C 00D6>022A
     00DC>01D5 00E4>01DF 00E6>01E3 00F5>022D 00F6>022B 00FC>01D6 01EA>01EC 01EB>01ED 0226>01E0
     0227>01E1 022E>0230 022F>0231 0391>1FB9 0399>1FD9 03A5>1FE9 03B1>1FB1 03B9>1FD1 03C5>1FE1
     0418>04E2 0423>04EE 0438>04E3 0443>04EF 1E36>1E38 1E37>1E39 1E5A>1E5C 1E5B>1E5D"),
   (0x0306,
    "0041>0102 0045>0114 0047>011E 0049>012C 004F>014E 0055>016C 0061>0103 0065>0115 0067>011F
     0069>012D 006F>014F 0075>016D 0228>1E1C 0229>1E1D 0391>1FB8 0399>1FD8 03A5>1FE8 03B1>1FB0
     03B9>1FD0 03C5>1FE0 0410>04D0 0415>04D6 0416>04C1 0418>0419 0423>040E 0430>04D1 0435>04D7
     0436>04C2 0438>0439 0443>045E 1EA0>1EB6 1EA1>1EB7"),
   (0x0307,
    "0041>0226 0042>1E02 0043>010A 0044>1E0A 0045>0116 0046>1E1E 0047>0120 0048>1E22 0049>0130
     004D>1E40 004E>1E44 004F>022E 0050>1E56 0052>1E58 0053>1E60 0054>1E6A 0057>1E86 0058>1E8A
     0059>1E8E 005A>017B 0061>0227 0062>1E03 0063>010B 0064>1E0B 0065>0117 0066>1E1F 0067>0121
     0068>1E23 006D>1E41 006E>1E45 006F>022F 0070>1E57 0072>1E59 0073>1E61 0074>1E6B 0077>1E87
     0078>1E8B 0079>1E8F 007A>017C 015A>1E64 015B>1E65 0160>1E66 0161>1E67 017F>1E9B 1E62>1E68
     1E63>1E69 105D2>105C9 105DA>105E4"),
   (0x0308,
    "0041>00C4 0045>00CB 0048>1E26 0049>00CF 004F>00D6 0055>00DC 0057>1E84 0058>1E8C 0059>0178
     0061>00E4 0065>00EB 0068>1E27 0069>00EF 006F>00F6 0074>1E97 0075>00FC 0077>1E85 0078>1E8D
     0079>00FF 00D5>1E4E 00F5>1E4F 016A>1E7A 016B>1E7B 0399>03AA 03A5>03AB 03B9>03CA 03C5>03CB
     03D2>03D4 0406>0407 0410>04D2 0415>0401 0416>04DC 0417>04DE 0418>04E4 041E>04E6 0423>04F0
     0427>04F4 042B>04F8 042D>04EC 0430>04D3 0435>0451 0436>04DD 0437>04DF 0438>04E5 043E>04E7
     0443>04F1 0447>04F5 044B>04F9 044D>04ED 0456>0457 04D8>04DA 04D9>04DB 04E8>04EA 04E9>04EB"),
   (0x0309,
    "0041>1EA2 0045>1EBA 0049>1EC8 004F>1ECE 0055>1EE6 0059>1EF6 0061>1EA3 0065>1EBB 0069>1EC9
     006F>1ECF 0075>1EE7 0079>1EF7 00C2>1EA8 00CA>1EC2 00D4>1ED4 00E2>1EA9 00EA>1EC3 00F4>1ED5
     0102>1EB2 0103>1EB3 01A0>1EDE 01A1>1EDF 01AF>1EEC 01B0>1EED"),
   (0x030A,
    "0041>00C5 0055>016E 0061>00E5 0075>016F 0077>1E98 0079>1E99"),
   (0x030B,
    "004F>0150 0055>0170 006F>0151 0075>0171 0423>04F2 0443>04F3"),
   (0x030C,
    "0041>01CD 0043>010C 0044>010E 0045>011A 0047>01E6 0048>021E 0049>01CF 004B>01E8 004C>013D
     004E>0147 004F>01D1 0052>0158 0053>0160 0054>0164 0055>01D3 005A>017D 0061>01CE 0063>010D
     0064>010F 0065>011B 0067>01E7 0068>021F 0069>01D0 006A>01F0 006B>01E9 006C>013E 006E>0148
     006F>01D2 0072>0159 0073>0161 0074>0165 0075>01D4 007A>017E 00DC>01D9 00FC>01DA 01B7>01EE
     0292>01EF"),
   (0x030F,
    "0041>0200 0045>0204 0049>0208 004F>020C 0052>0210 0055>0214 0061>0201 0065>0205 0069>0209
     006F>020D 0072>0211 0075>0215 0474>0476 0475>0477"),
   (0x0311,
    "0041>0202 0045>0206 0049>020A 004F>020E 0052>0212 0055>0216 0061>0203 0065>0207 0069>020B
     006F>020F 0072>0213 0075>0217"),
   (0x0313,
    "0391>1F08 0395>1F18 0397>1F28 0399>1F38 039F>1F48 03A9>1F68 03B1>1F00 03B5>1F10 03B7>1F20
     03B9>1F30 03BF>1F40 03C1>1FE4 03C5>1F50 03C9>1F60"),
   (0x0314,
    "0391>1F09 0395>1F19 0397>1F29 0399>1F39 039F>1F49 03A1>1FEC 03A5>1F59 03A9>1F69 03B1>1F01
     03B5>1F11 03B7>1F21 03B9>1F31 03BF>1F41 03C1>1FE5 03C5>1F51 03C9>1F61"),
   (0x031B,
    "004F>01A0 0055>01AF 006F>01A1 0075>01B0"),
   (0x0323,
    "0041>1EA0 0042>1E04 0044>1E0C 0045>1EB8 0048>1E24 0049>1ECA 004B>1E32 004C>1E36 004D>1E42
     004E>1E46 004F>1ECC 0052>1E5A 0053>1E62 0054>1E6C 0055>1EE4 0056>1E7E 0057>1E88 0059>1EF4
     005A>1E92 0061>1EA1 0062>1E05 0064>1E0D 0065>1EB9 0068>1E25 0069>1ECB 006B>1E33 006C>1E37
     006D>1E43 006E>1E47 006F>1ECD 0072>1E5B 0073>1E63 0074>1E6D 0075>1EE5 0076>1E7F 0077>1E89
     0079>1EF5 007A>1E93 01A0>1EE2 01A1>1EE3 01AF>1EF0 01B0>1EF1"),
   (0x0324,
    "0055>1E72 0075>1E73"),
   (0x0325,
    "0041>1E00 0061>1E01"),
   (0x0326,
    "0053>0218 0054>021A 0073>0219 0074>021B"),
   (0x0327,
    "0043>00C7 0044>1E10 0045>0228 0047>0122 0048>1E28 004B>0136 004C>013B 004E>0145 0052>0156
     0053>015E 0054>0162 0063>00E7 0064>1E11 0065>0229 0067>0123 0068>1E29 006B>0137 006C>013C
     006E>0146 0072>0157 0073>015F 0074>0163"),
   (0x0328,
    "0041>0104 0045>0118 0049>012E 004F>01EA 0055>0172 0061>0105 0065>0119 0069>012F 006F>01EB
     0075>0173"),
   (0x032D,
    "0044>1E12 0045>1E18 004C>1E3C 004E>1E4A 0054>1E70 0055>1E76 0064>1E13 0065>1E19 006C>1E3D
     006E>1E4B 0074>1E71 0075>1E77"),
   (0x032E,
    "0048>1E2A 0068>1E2B"),
   (0x0330,
    "0045>1E1A 0049>1E2C 0055>1E74 0065>1E1B 0069>1E2D 0075>1E75"),
   (0x0331,
    "0042>1E06 0044>1E0E 004B>1E34 004C>1E3A 004E>1E48 0052>1E5E 0054>1E6E 005A>1E94 0062>1E07
     0064>1E0F 0068>1E96 006B>1E35 006C>1E3B 006E>1E49 0072>1E5F 0074>1E6F 007A>1E95"),
   (0x0338,
    "003C>226E 003D>2260 003E>226F 2190>219A 2192>219B 2194>21AE 21D0>21CD 21D2>21CF 21D4>21CE
     2203>2204 2208>2209 220B>220C 2223>2224 2225>2226 223C>2241 2243>2244 2245>2247 2248>2249
     224D>226D 2261>2262 2264>2270 2265>2271 2272>2274 2273>2275 2276>2278 2277>2279 227A>2280
     227B>2281 227C>22E0 227D>22E1 2282>2284 2283>2285 2286>2288 2287>2289 2291>22E2 2292>22E3
     22A2>22AC 22A8>22AD 22A9>22AE 22AB>22AF 22B2>22EA 22B3>22EB 22B4>22EC 22B5>22ED"),
   (0x0342,
    "00A8>1FC1 03B1>1FB6 03B7>1FC6 03B9>1FD6 03C5>1FE6 03C9>1FF6 03CA>1FD7 03CB>1FE7 1F00>1F06
     1F01>1F07 1F08>1F0E 1F09>1F0F 1F20>1F26 1F21>1F27 1F28>1F2E 1F29>1F2F 1F30>1F36 1F31>1F37
     1F38>1F3E 1F39>1F3F 1F50>1F56 1F51>1F57 1F59>1F5F 1F60>1F66 1F61>1F67 1F68>1F6E 1F69>1F6F
     1FBF>1FCF 1FFE>1FDF"),
   (0x0345,
    "0391>1FBC 0397>1FCC 03A9>1FFC 03AC>1FB4 03AE>1FC4 03B1>1FB3 03B7>1FC3 03C9>1FF3 03CE>1FF4
     1F00>1F80 1F01>1F81 1F02>1F82 1F03>1F83 1F04>1F84 1F05>1F85 1F06>1F86 1F07>1F87 1F08>1F88
     1F09>1F89 1F0A>1F8A 1F0B>1F8B 1F0C>1F8C 1F0D>1F8D 1F0E>1F8E 1F0F>1F8F 1F20>1F90 1F21>1F91
     1F22>1F92 1F23>1F93 1F24>1F94 1F25>1F95 1F26>1F96 1F27>1F97 1F28>1F98 1F29>1F99 1F2A>1F9A
     1F2B>1F9B 1F2C>1F9C 1F2D>1F9D 1F2E>1F9E 1F2F>1F9F 1F60>1FA0 1F61>1FA1 1F62>1FA2 1F63>1FA3
     1F64>1FA4 1F65>1FA5 1F66>1FA6 1F67>1FA7 1F68>1FA8 1F69>1FA9 1F6A>1FAA 1F6B>1FAB 1F6C>1FAC
     1F6D>1FAD 1F6E>1FAE 1F6F>1FAF 1F70>1FB2 1F74>1FC2 1F7C>1FF2 1FB6>1FB7 1FC6>1FC7 1FF6>1FF7"),
   (0x0653,
    "0627>0622"),
   (0x0654,
    "0627>0623 0648>0624 064A>0626 06C1>06C2 06D2>06D3 06D5>06C0"),
   (0x0655,
    "0627>0625"),
   (0x093C,
    "0928>0929 0930>0931 0933>0934"),
   (0x09BE,
    "09C7>09CB"),
   (0x09D7,
    "09C7>09CC"),
   (0x0B3E,
    "0B47>0B4B"),
   (0x0B56,
    "0B47>0B48"),
   (0x0B57,
    "0B47>0B4C"),
   (0x0BBE,
    "0BC6>0BCA 0BC7>0BCB"),
   (0x0BD7,
    "0B92>0B94 0BC6>0BCC"),
   (0x0C56,
    "0C46>0C48"),
   (0x0CC2,
    "0CC6>0CCA"),
   (0x0CD5,
    "0CBF>0CC0 0CC6>0CC7 0CCA>0CCB"),
   (0x0CD6,
    "0CC6>0CC8"),
   (0x0D3E,
    "0D46>0D4A 0D47>0D4B"),
   (0x0D57,
    "0D46>0D4C"),
   (0x0DCA,
    "0DD9>0DDA 0DDC>0DDD"),
   (0x0DCF,
    "0DD9>0DDC"),
   (0x0DDF,
    "0DD9>0DDE"),
   (0x102E,
    "1025>1026"),
   (0x1B35,
    "1B05>1B06 1B07>1B08 1B09>1B0A 1B0B>1B0C 1B0D>1B0E 1B11>1B12 1B3A>1B3B 1B3C>1B3D 1B3E>1B40
     1B3F>1B41 1B42>1B43"),
   (0x3099,
    "3046>3094 304B>304C 304D>304E 304F>3050 3051>3052 3053>3054 3055>3056 3057>3058 3059>305A
     305B>305C 305D>305E 305F>3060 3061>3062 3064>3065 3066>3067 3068>3069 306F>3070 3072>3073
     3075>3076 3078>3079 307B>307C 309D>309E 30A6>30F4 30AB>30AC 30AD>30AE 30AF>30B0 30B1>30B2
     30B3>30B4 30B5>30B6 30B7>30B8 30B9>30BA 30BB>30BC 30BD>30BE 30BF>30C0 30C1>30C2 30C4>30C5
     30C6>30C7 30C8>30C9 30CF>30D0 30D2>30D3 30D5>30D6 30D8>30D9 30DB>30DC 30EF>30F7 30F0>30F8
     30F1>30F9 30F2>30FA 30FD>30FE"),
   (0x309A,
    "306F>3071 3072>3074 3075>3077 3078>307A 307B>307D 30CF>30D1 30D2>30D4 30D5>30D7 30D8>30DA
     30DB>30DD"),
   (0x110BA,
    "11099>1109A 1109B>1109C 110A5>110AB"),
   (0x11127,
    "11131>1112E 11132>1112F"),
   (0x1133E,
    "11347>1134B"),
   (0x11357,
    "11347>1134C"),
   (0x113B8,
    "113C2>113C7"),
   (0x113BB,
    "11384>11385"),
   (0x113C2,
    "1138B>1138E 113C2>113C5"),
   (0x113C9,
    "11382>11383 11390>11391 113C2>113C8"),
   (0x114B0,
    "114B9>114BC"),
   (0x114BA,
    "114B9>114BB"),
   (0x114BD,
    "114B9>114BE"),
   (0x115AF,
    "115B8>115BA 115B9>115BB"),
   (0x11930,
    "11935>11938"),
   (0x1611E,
    "1611E>16121"),
   (0x1611F,
    "1611E>16123 16121>16126 16122>16127 16129>16124"),
   (0x16120,
    "1611E>16125 16121>16128"),
   (0x16129,
    "1611E>16122"),
   (0x16D67,
    "16D63>16D69 16D67>16D68 16D69>16D6A")]

namespace Syllable

def first : Nat := 0xAC00

def firstLeading : Nat := 0x1100

def leadingCount : Nat := 19

def firstVowel : Nat := 0x1161

def vowelCount : Nat := 21

/-- One before the first trailing consonant: a syllable may have none. -/
def noTrailing : Nat := 0x11A7

def trailingCount : Nat := 28

def count : Nat := leadingCount * vowelCount * trailingCount

def compose? (a b : Nat) : Option Nat :=
  if firstLeading ≤ a ∧ a < firstLeading + leadingCount ∧
      firstVowel ≤ b ∧ b < firstVowel + vowelCount then
    some (first + ((a - firstLeading) * vowelCount + (b - firstVowel)) * trailingCount)
  else if first ≤ a ∧ a < first + count ∧ (a - first) % trailingCount = 0 ∧
      noTrailing < b ∧ b < noTrailing + trailingCount then
    some (a + (b - noTrailing))
  else none

def split? (code : Nat) : Option (Nat × Nat) :=
  if code < first ∨ first + count ≤ code then none
  else
    let index := code - first
    let trailing := index % trailingCount
    if trailing ≠ 0 then some (code - trailing, noTrailing + trailing)
    else
      let pair := index / trailingCount
      some (firstLeading + pair / vowelCount, firstVowel + pair % vowelCount)

end Syllable

def listed? (text : List Char) : Option (Nat × Nat) := do
  match pieces (· == '>') text with
  | [first, composed] => return (← RangeMap.code? first, ← RangeMap.code? composed)
  | _ => none

def listedCompositions : List (Nat × List (Nat × Nat)) :=
  compositionTexts.map fun text =>
    (text.1, (words text.2).filterMap listed?)

def compositions : RangeMap (RangeMap Char) :=
  .ofRows <| listedCompositions.map fun (second, pairs) =>
    (second, second, .ofRows <| pairs.map fun (first, composed) =>
      (first, first, Char.ofNat composed))

def decompositions : RangeMap (Char × Char) :=
  .ofRows <| listedCompositions.flatMap fun (second, pairs) =>
    pairs.map fun (first, composed) =>
      (composed, composed, Char.ofNat first, Char.ofNat second)

def compose? (a b : Char) : Option Char :=
  match Syllable.compose? a.toNat b.toNat with
  | some code => some (Char.ofNat code)
  | none => (compositions.find? b).bind (·.find? a)

def split? (c : Char) : Option (Char × Char) :=
  match Syllable.split? c.toNat with
  | some (a, b) => some (Char.ofNat a, Char.ofNat b)
  | none => decompositions.find? c

end BucketKeys.Text
