/-!
What single letters stand for in names: plain letters, and sequences of letters for ligatures.
-/

namespace BucketKeys.Url.Domain

def letterSpellings : List (Nat × String) :=
  [(0x00A8, "20+308"), (0x00AA, "61"), (0x00AF, "20+304"), (0x00B4, "20+301 3BC"),
   (0x00B8, "20+327 31 6F"), (0x00BC, "31+2044+34 31+2044+32 33+2044+34"), (0x0130, "69+307"),
   (0x0132, "69+6A 69+6A"), (0x013F, "6C+B7 6C+B7"), (0x0149, "2BC+6E"), (0x0178, "FF"),
   (0x017F, "73"), (0x0181, "253"), (0x0186, "254"), (0x0189, "256 257"), (0x018E, "1DD 259 25B"),
   (0x0193, "260 263"), (0x0196, "269 268"), (0x019C, "26F 272"), (0x019F, "275"),
   (0x01A6, "280"), (0x01A9, "283"), (0x01AE, "288"), (0x01B1, "28A 28B"), (0x01B7, "292"),
   (0x01C4, "64+17E 64+17E 64+17E 6C+6A 6C+6A 6C+6A 6E+6A 6E+6A 6E+6A"),
   (0x01F1, "64+7A 64+7A 64+7A"), (0x01F6, "195 1BF"), (0x023A, "2C65"), (0x023D, "19A 2C66"),
   (0x0243, "180 289 28C"), (0x02B0, "68 266 6A 72 279 27B 281 77 79"),
   (0x02D8, "20+306 20+307 20+30A 20+328 20+303 20+30B"), (0x02E0, "263 6C 73 78 295"),
   (0x0340, "300 301"), (0x0343, "313 308+301 3B9"), (0x0374, "2B9"), (0x037A, "20+3B9"),
   (0x037E, "3B 3F3"), (0x0384, "20+301 20+308+301 3AC B7 3AD 3AE 3AF"), (0x038E, "3CD 3CE"),
   (0x03CF, "3D7 3B2 3B8 3C5 3CD 3CB 3C6 3C0"), (0x03F0, "3BA 3C1 3C3"), (0x03F4, "3B8 3B5"),
   (0x03F9, "3C3"), (0x04C0, "4CF"), (0x0587, "565+582"),
   (0x0675, "627+674 648+674 6C7+674 64A+674"),
   (0x0958, "915+93C 916+93C 917+93C 91C+93C 921+93C 922+93C 92B+93C 92F+93C"),
   (0x09DC, "9A1+9BC 9A2+9BC"), (0x09DF, "9AF+9BC"), (0x0A33, "A32+A3C"), (0x0A36, "A38+A3C"),
   (0x0A59, "A16+A3C A17+A3C A1C+A3C"), (0x0A5E, "A2B+A3C"), (0x0B5C, "B21+B3C B22+B3C"),
   (0x0E33, "E4D+E32"), (0x0EB3, "ECD+EB2"), (0x0EDC, "EAB+E99 EAB+EA1"), (0x0F0C, "F0B"),
   (0x0F43, "F42+FB7"), (0x0F4D, "F4C+FB7"), (0x0F52, "F51+FB7"), (0x0F57, "F56+FB7"),
   (0x0F5C, "F5B+FB7"), (0x0F69, "F40+FB5"), (0x0F73, "F71+F72"),
   (0x0F75, "F71+F74 FB2+F80 FB2+F71+F80 FB3+F80 FB3+F71+F80"), (0x0F81, "F71+F80"),
   (0x0F93, "F92+FB7"), (0x0F9D, "F9C+FB7"), (0x0FA2, "FA1+FB7"), (0x0FA7, "FA6+FB7"),
   (0x0FAC, "FAB+FB7"), (0x0FB9, "F90+FB5"), (0x10FC, "10DC"),
   (0x1C80, "432 434 43E 441 442 442 44A 463 A64B"), (0x1D2C, "61 E6"), (0x1D32, "1DD"),
   (0x1D3C, "6F 223 70 72"), (0x1D42, "77 61 250 251 1D02 62 64 65 259 25B 25C 67"),
   (0x1D4F, "6B"), (0x1D51, "14B"), (0x1D53, "254 1D16 1D17 70"),
   (0x1D59, "1D1D 26F 76 1D25 3B2 3B3 3B4 3C6 3C7 69 72 75 76 3B2 3B3 3C1 3C6 3C7"),
   (0x1D78, "43D"), (0x1D9B, "252 63 255 F0 25C 66 25F 261 265"), (0x1DA7, "1D7B 29D"),
   (0x1DAA, "1D85 29F 271 270"),
   (0x1DB2, "278 282 283 1AB 289 28A 1D1C 28B 28C 7A 290 291 292 3B8"), (0x1E9A, "61+2BE 1E61"),
   (0x1E9E, "DF"), (0x1F71, "3AC"), (0x1F73, "3AD"), (0x1F75, "3AE"), (0x1F77, "3AF"),
   (0x1F79, "3CC"), (0x1F7B, "3CD"), (0x1F7D, "3CE"),
   (0x1F80,
    "1F00+3B9 1F01+3B9 1F02+3B9 1F03+3B9 1F04+3B9 1F05+3B9 1F06+3B9 1F07+3B9 1F00+3B9 1F01+3B9
     1F02+3B9 1F03+3B9 1F04+3B9 1F05+3B9 1F06+3B9 1F07+3B9 1F20+3B9 1F21+3B9 1F22+3B9 1F23+3B9
     1F24+3B9 1F25+3B9 1F26+3B9 1F27+3B9 1F20+3B9 1F21+3B9 1F22+3B9 1F23+3B9 1F24+3B9 1F25+3B9
     1F26+3B9 1F27+3B9 1F60+3B9 1F61+3B9 1F62+3B9 1F63+3B9 1F64+3B9 1F65+3B9 1F66+3B9 1F67+3B9
     1F60+3B9 1F61+3B9 1F62+3B9 1F63+3B9 1F64+3B9 1F65+3B9 1F66+3B9 1F67+3B9"),
   (0x1FB2, "1F70+3B9 3B1+3B9 3AC+3B9"), (0x1FB7, "1FB6+3B9"),
   (0x1FBA, "1F70 3AC 3B1+3B9 20+313 3B9 20+313 20+342 20+308+342 1F74+3B9 3B7+3B9 3AE+3B9"),
   (0x1FC7, "1FC6+3B9 1F72 3AD 1F74 3AE 3B7+3B9 20+313+300 20+313+301 20+313+342"),
   (0x1FD3, "390"), (0x1FDA, "1F76 3AF"), (0x1FDD, "20+314+300 20+314+301 20+314+342"),
   (0x1FE3, "3B0"), (0x1FEA, "1F7A 3CD 1FE5 20+308+300 20+308+301 60"),
   (0x1FF2, "1F7C+3B9 3C9+3B9 3CE+3B9"), (0x1FF7, "1FF6+3B9"),
   (0x1FF9, "3CC 1F7C 3CE 3C9+3B9 20+301 20+314")]

end BucketKeys.Url.Domain
