/-!
Characters that stand for others at a fixed distance: letters of one case for those of the other,
and letters and digits of a style for the plain ones.
-/

namespace BucketKeys.Url.Domain

/-- Distances, and the ranges of codes that are at this distance of what they stand for. -/
def shiftTexts : List (Int × String) :=
  [(-129984, "1FBF0-1FBF9"),
   (-127183, "1F130-1F149"),
   (-124903, "1EE2A-1EE2D"),
   (-124871, "1EE0A-1EE0D"),
   (-121889, "1E051-1E059"),
   (-121884, "1E05F-1E064"),
   (-121856, "1E030-1E038"),
   (-121854, "1E03C-1E046"),
   (-120774, "1D7F6-1D7FF"),
   (-120764, "1D7EC-1D7F5"),
   (-120754, "1D7E2-1D7EB"),
   (-120744, "1D7D8-1D7E1"),
   (-120734, "1D7CE-1D7D7"),
   (-120361, "1D68A-1D6A3"),
   (-120335, "1D670-1D689"),
   (-120309, "1D656-1D66F"),
   (-120283, "1D63C-1D655"),
   (-120257, "1D622-1D63B"),
   (-120231, "1D608-1D621"),
   (-120205, "1D5EE-1D607"),
   (-120179, "1D5D4-1D5ED 1D6A4"),
   (-120153, "1D5BA-1D5D3"),
   (-120127, "1D5A0-1D5B9"),
   (-120101, "1D586-1D59F"),
   (-120075, "1D56C-1D585"),
   (-120049, "1D552-1D56B"),
   (-120023, "1D538-1D539 1D53B-1D53E 1D540-1D544 1D546 1D54A-1D550"),
   (-119997, "1D51E-1D537"),
   (-119971, "1D504-1D505 1D507-1D50A 1D50D-1D514 1D516-1D51C"),
   (-119945, "1D4EA-1D503"),
   (-119919, "1D4D0-1D4E9"),
   (-119893, "1D4B6-1D4B9 1D4BB 1D4BD-1D4C3 1D4C5-1D4CF"),
   (-119867, "1D49C 1D49E-1D49F 1D4A2 1D4A5-1D4A6 1D4A9-1D4AC 1D4AE-1D4B5"),
   (-119841, "1D482-1D49B"),
   (-119815, "1D468-1D481 1D7C8"),
   (-119801, "1D7AA-1D7BA 1D7BC-1D7C2"),
   (-119789, "1D44E-1D454 1D456-1D467 1D7CA"),
   (-119775, "1D790-1D7A0 1D7A2-1D7A8"),
   (-119763, "1D434-1D44D 1D78B"),
   (-119743, "1D770-1D780 1D782-1D788"),
   (-119737, "1D41A-1D433"),
   (-119717, "1D756-1D766 1D768-1D76E"),
   (-119711, "1D400-1D419"),
   (-119685, "1D736-1D746 1D748-1D74E"),
   (-119659, "1D71C-1D72C 1D72E-1D734"),
   (-119627, "1D6FC-1D70C 1D70E-1D714"),
   (-119601, "1D6E2-1D6F2 1D6F4-1D6FA"),
   (-119569, "1D6C2-1D6D2 1D6D4-1D6DA"),
   (-119543, "1D6A8-1D6B8 1D6BA-1D6C0"),
   (-117952, "1CCF0-1CCF9"),
   (-117877, "1CCD6-1CCEF"),
   (-65248, "FF01-FF20 FF3B-FF5E"),
   (-65216, "FF21-FF3A"),
   (-63635, "FECC-FECD FED4-FED5"),
   (-62740, "FBDA FBDC FBDF FBE4"),
   (-62695, "FB61 FB90 FBA2 FBA8"),
   (-62694, "FB60 FB65 FB8F FB95 FB99 FBA1 FBA7"),
   (-62693, "FB5F FB64 FB8E FB94 FB98 FB9F-FBA0 FBA5-FBA6"),
   (-62692, "FB5E FB63 FB93 FB97 FB9E FBA4"),
   (-61100, "FFB5-FFBE"),
   (-61029, "FFD2-FFD7"),
   (-61027, "FFCA-FFCF"),
   (-61025, "FFC2-FFC7"),
   (-60922, "FFAA-FFAF"),
   (-56921, "FFE9-FFEC"),
   (-52923, "FF85-FF8A"),
   (-52913, "FF8F-FF93"),
   (-52910, "FF96-FF9B"),
   (-52789, "FE41-FE44"),
   (-38864, "AB70-ABBF"),
   (-9327, "24D0-24E9"),
   (-9301, "24B6-24CF"),
   (-9263, "2460-2468"),
   (-8539, "3269-326D"),
   (-8272, "2080-2089"),
   (-8269, "3178-317C"),
   (-8256, "2070 2074-2079"),
   (-8252, "3145-314E"),
   (-8237, "2095 3184-3186"),
   (-8235, "2096-2099"),
   (-8174, "314F-3163"),
   (-8074, "313A-313F"),
   (-7395, "1D50 1D52 1D57-1D58"),
   (-7372, "1D2E 1D30-1D31 1D33-1D3A 1D40-1D41"),
   (-7013, "2135-2138"),
   (-6972, "1DA4-1DA6 1DA9 1DAE-1DB1"),
   (-3008, "1C90-1CBA 1CBD-1CBF"),
   (-538, "32E4-32E9"),
   (-528, "32EE-32F2"),
   (-525, "32F5-32FA"),
   (-524, "32FB-32FE"),
   (-130, "0220 03FD-03FF"),
   (-128, "00A0 00B2-00B3 1FF8"),
   (-8,
      "13F8-13FD 1F08-1F0F 1F18-1F1D 1F28-1F2F 1F38-1F3F 1F48-1F4D 1F59 1F5B 1F5D 1F5F 1F68-1F6F
       1FB8-1FB9 1FD8-1FD9 1FE8-1FE9"),
   (1,
      "0100 0102 0104 0106 0108 010A 010C 010E 0110 0112 0114 0116 0118 011A 011C 011E 0120 0122
       0124 0126 0128 012A 012C 012E 0134 0136 0139 013B 013D 0141 0143 0145 0147 014A 014C 014E
       0150 0152 0154 0156 0158 015A 015C 015E 0160 0162 0164 0166 0168 016A 016C 016E 0170 0172
       0174 0176 0179 017B 017D 0182 0184 0187 018B 0191 0198 01A0 01A2 01A4 01A7 01AC 01AF 01B3
       01B5 01B8 01BC 01CD 01CF 01D1 01D3 01D5 01D7 01D9 01DB 01DE 01E0 01E2 01E4 01E6 01E8 01EA
       01EC 01EE 01F4 01F8 01FA 01FC 01FE 0200 0202 0204 0206 0208 020A 020C 020E 0210 0212 0214
       0216 0218 021A 021C 021E 0222 0224 0226 0228 022A 022C 022E 0230 0232 023B 0241 0246 0248
       024A 024C 024E 0370 0372 0376 03D8 03DA 03DC 03DE 03E0 03E2 03E4 03E6 03E8 03EA 03EC 03EE
       03F7 03FA 0460 0462 0464 0466 0468 046A 046C 046E 0470 0472 0474 0476 0478 047A 047C 047E
       0480 048A 048C 048E 0490 0492 0494 0496 0498 049A 049C 049E 04A0 04A2 04A4 04A6 04A8 04AA
       04AC 04AE 04B0 04B2 04B4 04B6 04B8 04BA 04BC 04BE 04C1 04C3 04C5 04C7 04C9 04CB 04CD 04D0
       04D2 04D4 04D6 04D8 04DA 04DC 04DE 04E0 04E2 04E4 04E6 04E8 04EA 04EC 04EE 04F0 04F2 04F4
       04F6 04F8 04FA 04FC 04FE 0500 0502 0504 0506 0508 050A 050C 050E 0510 0512 0514 0516 0518
       051A 051C 051E 0520 0522 0524 0526 0528 052A 052C 052E 1C89 1E00 1E02 1E04 1E06 1E08 1E0A
       1E0C 1E0E 1E10 1E12 1E14 1E16 1E18 1E1A 1E1C 1E1E 1E20 1E22 1E24 1E26 1E28 1E2A 1E2C 1E2E
       1E30 1E32 1E34 1E36 1E38 1E3A 1E3C 1E3E 1E40 1E42 1E44 1E46 1E48 1E4A 1E4C 1E4E 1E50 1E52
       1E54 1E56 1E58 1E5A 1E5C 1E5E 1E60 1E62 1E64 1E66 1E68 1E6A 1E6C 1E6E 1E70 1E72 1E74 1E76
       1E78 1E7A 1E7C 1E7E 1E80 1E82 1E84 1E86 1E88 1E8A 1E8C 1E8E 1E90 1E92 1E94 1EA0 1EA2 1EA4
       1EA6 1EA8 1EAA 1EAC 1EAE 1EB0 1EB2 1EB4 1EB6 1EB8 1EBA 1EBC 1EBE 1EC0 1EC2 1EC4 1EC6 1EC8
       1ECA 1ECC 1ECE 1ED0 1ED2 1ED4 1ED6 1ED8 1EDA 1EDC 1EDE 1EE0 1EE2 1EE4 1EE6 1EE8 1EEA 1EEC
       1EEE 1EF0 1EF2 1EF4 1EF6 1EF8 1EFA 1EFC 1EFE 2183 2C60 2C67 2C69 2C6B 2C72 2C75 2C80 2C82
       2C84 2C86 2C88 2C8A 2C8C 2C8E 2C90 2C92 2C94 2C96 2C98 2C9A 2C9C 2C9E 2CA0 2CA2 2CA4 2CA6
       2CA8 2CAA 2CAC 2CAE 2CB0 2CB2 2CB4 2CB6 2CB8 2CBA 2CBC 2CBE 2CC0 2CC2 2CC4 2CC6 2CC8 2CCA
       2CCC 2CCE 2CD0 2CD2 2CD4 2CD6 2CD8 2CDA 2CDC 2CDE 2CE0 2CE2 2CEB 2CED 2CF2 A640 A642 A644
       A646 A648 A64A A64C A64E A650 A652 A654 A656 A658 A65A A65C A65E A660 A662 A664 A666 A668
       A66A A66C A680 A682 A684 A686 A688 A68A A68C A68E A690 A692 A694 A696 A698 A69A A722 A724
       A726 A728 A72A A72C A72E A732 A734 A736 A738 A73A A73C A73E A740 A742 A744 A746 A748 A74A
       A74C A74E A750 A752 A754 A756 A758 A75A A75C A75E A760 A762 A764 A766 A768 A76A A76C A76E
       A779 A77B A77E A780 A782 A784 A786 A78B A790 A792 A796 A798 A79A A79C A79E A7A0 A7A2 A7A4
       A7A6 A7A8 A7B4 A7B6 A7B8 A7BA A7BC A7BE A7C0 A7C2 A7C7 A7C9 A7CC A7CE A7D0 A7D2 A7D4 A7D6
       A7D8 A7DA A7F5"),
   (27, "16EA0-16EB8"),
   (32,
      "0041-005A 00C0-00D6 00D8-00DE 0391-03A1 03A3-03AB 0410-042F 10D50-10D65 118A0-118BF
       16E40-16E5F"),
   (34, "1E900-1E921"),
   (39, "10570-1057A 1057C-1058A 1058C-10592 10594-10595"),
   (40, "10400-10427 104B0-104D3"),
   (48, "0531-0556 2C00-2C2F"),
   (64, "038C 10C80-10CB2"),
   (80, "0400-040F"),
   (7264, "10A0-10C5 10C7 10CD")]

end BucketKeys.Url.Domain
