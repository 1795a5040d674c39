/-!
What symbols, numerals and radicals stand for in names. Codes of one spelling are joined by plus
signs.
-/

namespace BucketKeys.Url.Domain

def symbolSpellings : List (Nat × String) :=
  [(0x2000, "20 20 20 20 20 20 20 20 20 20 20"), (0x2011, "2010"), (0x2017, "20+333"),
   (0x202F, "20"), (0x2033, "2032+2032 2032+2032+2032"), (0x2036, "2035+2035 2035+2035+2035"),
   (0x203C, "21+21"), (0x203E, "20+305"), (0x2047, "3F+3F 3F+21 21+3F"),
   (0x2057, "2032+2032+2032+2032"), (0x205F, "20"), (0x2071, "69"),
   (0x207A, "2B 2212 3D 28 29 6E"), (0x208A, "2B 2212 3D 28 29"), (0x2090, "61 65 6F 78 259"),
   (0x209A, "70 73 74"), (0x20A8, "72+73"), (0x2100, "61+2F+63 61+2F+73 63 B0+63"),
   (0x2105, "63+2F+6F 63+2F+75 25B"), (0x2109, "B0+66 67 68 68 68 68 127 69 69 6C 6C"),
   (0x2115, "6E 6E+6F"), (0x2119, "70 71 72 72 72"), (0x2120, "73+6D 74+65+6C 74+6D"),
   (0x2124, "7A"), (0x2126, "3C9"), (0x2128, "7A"), (0x212A, "6B E5 62 63"),
   (0x212F, "65 65 66 214E 6D 6F"), (0x2139, "69"), (0x213B, "66+61+78 3C0 3B3 3B3 3C0 2211"),
   (0x2145, "64 64 65 69 6A"),
   (0x2150,
    "31+2044+37 31+2044+39 31+2044+31+30 31+2044+33 32+2044+33 31+2044+35 32+2044+35 33+2044+35
     34+2044+35 31+2044+36 35+2044+36 31+2044+38 33+2044+38 35+2044+38 37+2044+38 31+2044 69
     69+69 69+69+69 69+76 76 76+69 76+69+69 76+69+69+69 69+78 78 78+69 78+69+69 6C 63 64 6D 69
     69+69 69+69+69 69+76 76 76+69 76+69+69 76+69+69+69 69+78 78 78+69 78+69+69 6C 63 64 6D"),
   (0x2189, "30+2044+33"), (0x222C, "222B+222B 222B+222B+222B"),
   (0x222F, "222E+222E 222E+222E+222E"), (0x2329, "3008 3009"),
   (0x2469,
    "31+30 31+31 31+32 31+33 31+34 31+35 31+36 31+37 31+38 31+39 32+30 28+31+29 28+32+29
     28+33+29 28+34+29 28+35+29 28+36+29 28+37+29 28+38+29 28+39+29 28+31+30+29 28+31+31+29
     28+31+32+29 28+31+33+29 28+31+34+29 28+31+35+29 28+31+36+29 28+31+37+29 28+31+38+29
     28+31+39+29 28+32+30+29"),
   (0x249C,
    "28+61+29 28+62+29 28+63+29 28+64+29 28+65+29 28+66+29 28+67+29 28+68+29 28+69+29 28+6A+29
     28+6B+29 28+6C+29 28+6D+29 28+6E+29 28+6F+29 28+70+29 28+71+29 28+72+29 28+73+29 28+74+29
     28+75+29 28+76+29 28+77+29 28+78+29 28+79+29 28+7A+29"),
   (0x24EA, "30"), (0x2A0C, "222B+222B+222B+222B"), (0x2A74, "3A+3A+3D 3D+3D 3D+3D+3D"),
   (0x2ADC, "2ADD+338"), (0x2C62, "26B 1D7D 27D"), (0x2C6D, "251 271 250 252"),
   (0x2C7C, "6A 76 23F 240"), (0x2D6F, "2D61"), (0x2E9F, "6BCD"), (0x2EF3, "9F9F"),
   (0x2F00,
    "4E00 4E28 4E36 4E3F 4E59 4E85 4E8C 4EA0 4EBA 513F 5165 516B 5182 5196 51AB 51E0 51F5 5200
     529B 52F9 5315 531A 5338 5341 535C 5369 5382 53B6 53C8 53E3 56D7 571F 58EB 5902 590A 5915
     5927 5973 5B50 5B80 5BF8 5C0F 5C22 5C38 5C6E 5C71 5DDB 5DE5 5DF1 5DFE 5E72 5E7A 5E7F 5EF4
     5EFE 5F0B 5F13 5F50 5F61 5F73 5FC3 6208 6236 624B 652F 6534 6587 6597 65A4 65B9 65E0 65E5
     66F0 6708 6728 6B20 6B62 6B79 6BB3 6BCB 6BD4 6BDB 6C0F 6C14 6C34 706B 722A 7236 723B 723F
     7247 7259 725B 72AC 7384 7389 74DC 74E6 7518 751F 7528 7530 758B 7592 7676 767D 76AE 76BF
     76EE 77DB 77E2 77F3 793A 79B8 79BE 7A74 7ACB 7AF9 7C73 7CF8 7F36 7F51 7F8A 7FBD 8001 800C
     8012 8033 807F 8089 81E3 81EA 81F3 81FC 820C 821B 821F 826E 8272 8278 864D 866B 8840 884C
     8863 897E 898B 89D2 8A00 8C37 8C46 8C55 8C78 8C9D 8D64 8D70 8DB3 8EAB 8ECA 8F9B 8FB0 8FB5
     9091 9149 91C6 91CC 91D1 9577 9580 961C 96B6 96B9 96E8 9751 975E 9762 9769 97CB 97ED 97F3
     9801 98A8 98DB 98DF 9996 9999 99AC 9AA8 9AD8 9ADF 9B25 9B2F 9B32 9B3C 9B5A 9CE5 9E75 9E7F
     9EA5 9EBB 9EC3 9ECD 9ED1 9EF9 9EFD 9F0E 9F13 9F20 9F3B 9F4A 9F52 9F8D 9F9C 9FA0"),
   (0x3000, "20"), (0x3002, "2E"), (0x3036, "3012"), (0x3038, "5341 5344 5345"),
   (0x309B, "20+3099 20+309A"), (0x309F, "3088+308A"), (0x30FF, "30B3+30C8"),
   (0x3131, "1100 1101 11AA 1102 11AC 11AD 1103 1104 1105"), (0x3140, "111A 1106 1107 1108 1121"),
   (0x3165,
    "1114 1115 11C7 11C8 11CC 11CE 11D3 11D7 11D9 111C 11DD 11DF 111D 111E 1120 1122 1123 1127
     1129"),
   (0x317D, "1132 1136 1140 1147 114C 11F1 11F2"),
   (0x3187, "1184 1185 1188 1191 1192 1194 119E 11A1"),
   (0x3192, "4E00 4E8C 4E09 56DB 4E0A 4E2D 4E0B 7532 4E59 4E19 4E01 5929 5730 4EBA"),
   (0x3200,
    "28+1100+29 28+1102+29 28+1103+29 28+1105+29 28+1106+29 28+1107+29 28+1109+29 28+110B+29
     28+110C+29 28+110E+29 28+110F+29 28+1110+29 28+1111+29 28+1112+29 28+AC00+29 28+B098+29
     28+B2E4+29 28+B77C+29 28+B9C8+29 28+BC14+29 28+C0AC+29 28+C544+29 28+C790+29 28+CC28+29
     28+CE74+29 28+D0C0+29 28+D30C+29 28+D558+29 28+C8FC+29 28+C624+C804+29 28+C624+D6C4+29"),
   (0x3220,
    "28+4E00+29 28+4E8C+29 28+4E09+29 28+56DB+29 28+4E94+29 28+516D+29 28+4E03+29 28+516B+29
     28+4E5D+29 28+5341+29 28+6708+29 28+706B+29 28+6C34+29 28+6728+29 28+91D1+29 28+571F+29
     28+65E5+29 28+682A+29 28+6709+29 28+793E+29 28+540D+29 28+7279+29 28+8CA1+29 28+795D+29
     28+52B4+29 28+4EE3+29 28+547C+29 28+5B66+29 28+76E3+29 28+4F01+29 28+8CC7+29 28+5354+29
     28+796D+29 28+4F11+29 28+81EA+29 28+81F3+29 554F 5E7C 6587 7B8F"),
   (0x3250,
    "70+74+65 32+31 32+32 32+33 32+34 32+35 32+36 32+37 32+38 32+39 33+30 33+31 33+32 33+33
     33+34 33+35 1100 1102 1103 1105 1106 1107 1109 110B 110C"),
   (0x326E,
    "AC00 B098 B2E4 B77C B9C8 BC14 C0AC C544 C790 CC28 CE74 D0C0 D30C D558 CC38+ACE0 C8FC+C758
     C6B0"),
   (0x3280,
    "4E00 4E8C 4E09 56DB 4E94 516D 4E03 516B 4E5D 5341 6708 706B 6C34 6728 91D1 571F 65E5 682A
     6709 793E 540D 7279 8CA1 795D 52B4 79D8 7537 5973 9069 512A 5370 6CE8 9805 4F11 5199 6B63
     4E0A 4E2D 4E0B 5DE6 53F3 533B 5B97 5B66 76E3 4F01 8CC7 5354 591C 33+36 33+37 33+38 33+39
     34+30 34+31 34+32 34+33 34+34 34+35 34+36 34+37 34+38 34+39 35+30 31+6708 32+6708 33+6708
     34+6708 35+6708 36+6708 37+6708 38+6708 39+6708 31+30+6708 31+31+6708 31+32+6708 68+67
     65+72+67 65+76 6C+74+64 30A2 30A4 30A6 30A8 30AA 30AB 30AD 30AF 30B1 30B3 30B5 30B7 30B9
     30BB 30BD 30BF 30C1 30C4 30C6 30C8"),
   (0x32EA, "30D2 30D5 30D8 30DB"), (0x32F3, "30E4 30E6"),
   (0x32FF,
    "4EE4+548C 30A2+30D1+30FC+30C8 30A2+30EB+30D5+30A1 30A2+30F3+30DA+30A2 30A2+30FC+30EB
     30A4+30CB+30F3+30B0 30A4+30F3+30C1 30A6+30A9+30F3 30A8+30B9+30AF+30FC+30C9
     30A8+30FC+30AB+30FC 30AA+30F3+30B9 30AA+30FC+30E0 30AB+30A4+30EA 30AB+30E9+30C3+30C8
     30AB+30ED+30EA+30FC 30AC+30ED+30F3 30AC+30F3+30DE 30AE+30AC 30AE+30CB+30FC
     30AD+30E5+30EA+30FC 30AE+30EB+30C0+30FC 30AD+30ED 30AD+30ED+30B0+30E9+30E0
     30AD+30ED+30E1+30FC+30C8+30EB 30AD+30ED+30EF+30C3+30C8 30B0+30E9+30E0
     30B0+30E9+30E0+30C8+30F3 30AF+30EB+30BC+30A4+30ED 30AF+30ED+30FC+30CD 30B1+30FC+30B9
     30B3+30EB+30CA 30B3+30FC+30DD 30B5+30A4+30AF+30EB 30B5+30F3+30C1+30FC+30E0
     30B7+30EA+30F3+30B0 30BB+30F3+30C1 30BB+30F3+30C8 30C0+30FC+30B9 30C7+30B7 30C9+30EB
     30C8+30F3 30CA+30CE 30CE+30C3+30C8 30CF+30A4+30C4 30D1+30FC+30BB+30F3+30C8 30D1+30FC+30C4
     30D0+30FC+30EC+30EB 30D4+30A2+30B9+30C8+30EB 30D4+30AF+30EB 30D4+30B3 30D3+30EB
     30D5+30A1+30E9+30C3+30C9 30D5+30A3+30FC+30C8 30D6+30C3+30B7+30A7+30EB 30D5+30E9+30F3
     30D8+30AF+30BF+30FC+30EB 30DA+30BD 30DA+30CB+30D2 30D8+30EB+30C4 30DA+30F3+30B9
     30DA+30FC+30B8 30D9+30FC+30BF 30DD+30A4+30F3+30C8 30DC+30EB+30C8 30DB+30F3 30DD+30F3+30C9
     30DB+30FC+30EB 30DB+30FC+30F3 30DE+30A4+30AF+30ED 30DE+30A4+30EB 30DE+30C3+30CF
     30DE+30EB+30AF 30DE+30F3+30B7+30E7+30F3 30DF+30AF+30ED+30F3 30DF+30EA
     30DF+30EA+30D0+30FC+30EB 30E1+30AC 30E1+30AC+30C8+30F3 30E1+30FC+30C8+30EB 30E4+30FC+30C9
     30E4+30FC+30EB 30E6+30A2+30F3 30EA+30C3+30C8+30EB 30EA+30E9 30EB+30D4+30FC
     30EB+30FC+30D6+30EB 30EC+30E0 30EC+30F3+30C8+30B2+30F3 30EF+30C3+30C8 30+70B9 31+70B9
     32+70B9 33+70B9 34+70B9 35+70B9 36+70B9 37+70B9 38+70B9 39+70B9 31+30+70B9 31+31+70B9
     31+32+70B9 31+33+70B9 31+34+70B9 31+35+70B9 31+36+70B9 31+37+70B9 31+38+70B9 31+39+70B9
     32+30+70B9 32+31+70B9 32+32+70B9 32+33+70B9 32+34+70B9 68+70+61 64+61 61+75 62+61+72 6F+76
     70+63 64+6D 64+6D+32 64+6D+33 69+75 5E73+6210 662D+548C 5927+6B63 660E+6CBB
     682A+5F0F+4F1A+793E 70+61 6E+61 3BC+61 6D+61 6B+61 6B+62 6D+62 67+62 63+61+6C 6B+63+61+6C
     70+66 6E+66 3BC+66 3BC+67 6D+67 6B+67 68+7A 6B+68+7A 6D+68+7A 67+68+7A 74+68+7A 3BC+6C
     6D+6C 64+6C 6B+6C 66+6D 6E+6D 3BC+6D 6D+6D 63+6D 6B+6D 6D+6D+32 63+6D+32 6D+32 6B+6D+32
     6D+6D+33 63+6D+33 6D+33 6B+6D+33 6D+2215+73 6D+2215+73+32 70+61 6B+70+61 6D+70+61 67+70+61
     72+61+64 72+61+64+2215+73 72+61+64+2215+73+32 70+73 6E+73 3BC+73 6D+73 70+76 6E+76 3BC+76
     6D+76 6B+76 6D+76 70+77 6E+77 3BC+77 6D+77 6B+77 6D+77 6B+3C9 6D+3C9"),
   (0x33C3, "62+71 63+63 63+64 63+2215+6B+67"),
   (0x33C8,
    "64+62 67+79 68+61 68+70 69+6E 6B+6B 6B+6D 6B+74 6C+6D 6C+6E 6C+6F+67 6C+78 6D+62 6D+69+6C
     6D+6F+6C 70+68"),
   (0x33D9,
    "70+70+6D 70+72 73+72 73+76 77+62 76+2215+6D 61+2215+6D 31+65E5 32+65E5 33+65E5 34+65E5
     35+65E5 36+65E5 37+65E5 38+65E5 39+65E5 31+30+65E5 31+31+65E5 31+32+65E5 31+33+65E5
     31+34+65E5 31+35+65E5 31+36+65E5 31+37+65E5 31+38+65E5 31+39+65E5 32+30+65E5 32+31+65E5
     32+32+65E5 32+33+65E5 32+34+65E5 32+35+65E5 32+36+65E5 32+37+65E5 32+38+65E5 32+39+65E5
     33+30+65E5 33+31+65E5 67+61+6C")]

end BucketKeys.Url.Domain
