/-!
What presentation forms of letters stand for in names.
-/

namespace BucketKeys.Url.Domain

/-- The code of a first character, and what it and those behind it stand for. -/
def formSpellings : List (Nat × String) :=
  [(0xA69C, "44A 44C"), (0xA770, "A76F"), (0xA77D, "1D79"), (0xA78D, "265"),
   (0xA7AA, "266 25C 261 26C 26A"), (0xA7B0, "29E 287 29D AB53"), (0xA7C4, "A794 282 1D8E"),
   (0xA7CB, "264"), (0xA7DC, "19B"), (0xA7F1, "73 63 66 71"), (0xA7F8, "127 153"),
   (0xAB5C, "A727 AB37 26B AB52"), (0xAB69, "28D"),
   (0xFB00, "66+66 66+69 66+6C 66+66+69 66+66+6C 73+74 73+74"),
   (0xFB13, "574+576 574+565 574+56B 57E+576 574+56D"), (0xFB1D, "5D9+5B4"),
   (0xFB1F,
    "5F2+5B7 5E2 5D0 5D3 5D4 5DB 5DC 5DD 5E8 5EA 2B 5E9+5C1 5E9+5C2 5E9+5BC+5C1 5E9+5BC+5C2
     5D0+5B7 5D0+5B8 5D0+5BC 5D1+5BC 5D2+5BC 5D3+5BC 5D4+5BC 5D5+5BC 5D6+5BC"),
   (0xFB38, "5D8+5BC 5D9+5BC 5DA+5BC 5DB+5BC 5DC+5BC"), (0xFB3E, "5DE+5BC"),
   (0xFB40, "5E0+5BC 5E1+5BC"), (0xFB43, "5E3+5BC 5E4+5BC"),
   (0xFB46,
    "5E6+5BC 5E7+5BC 5E8+5BC 5E9+5BC 5EA+5BC 5D5+5B9 5D1+5BF 5DB+5BF 5E4+5BF 5D0+5DC 671 671 67B
     67B 67B 67B 67E 67E 67E 67E 680 680 680 680"),
   (0xFB62, "67F"),
   (0xFB66,
    "679 679 679 679 6A4 6A4 6A4 6A4 6A6 6A6 6A6 6A6 684 684 684 684 683 683 683 683 686 686 686
     686 687 687 687 687 68D 68D 68C 68C 68E 68E 688 688 698 698 691 691"),
   (0xFB91, "6A9 6AF"), (0xFB96, "6B3"), (0xFB9A, "6B1 6B1 6B1 6B1"), (0xFBA3, "6BB"),
   (0xFBA9, "6C1 6BE 6BE 6BE 6BE 6D2 6D2 6D3 6D3"), (0xFBD3, "6AD 6AD 6AD 6AD 6C7 6C7 6C6"),
   (0xFBDB, "6C8"), (0xFBDD, "6C7+674 6CB"), (0xFBE0, "6C5 6C5 6C9 6C9"),
   (0xFBE5,
    "6D0 6D0 6D0 649 649 626+627 626+627 626+6D5 626+6D5 626+648 626+648 626+6C7 626+6C7 626+6C6
     626+6C6 626+6C8 626+6C8 626+6D0 626+6D0 626+6D0 626+649 626+649 626+649 6CC 6CC 6CC 6CC
     626+62C 626+62D 626+645 626+649 626+64A 628+62C 628+62D 628+62E 628+645 628+649 628+64A
     62A+62C 62A+62D 62A+62E 62A+645 62A+649 62A+64A 62B+62C 62B+645 62B+649 62B+64A 62C+62D
     62C+645 62D+62C 62D+645 62E+62C 62E+62D 62E+645 633+62C 633+62D 633+62E 633+645 635+62D
     635+645 636+62C 636+62D 636+62E 636+645 637+62D 637+645 638+645 639+62C 639+645 63A+62C
     63A+645 641+62C 641+62D 641+62E 641+645 641+649 641+64A 642+62D 642+645 642+649 642+64A
     643+627 643+62C 643+62D 643+62E 643+644 643+645 643+649 643+64A 644+62C 644+62D 644+62E
     644+645 644+649 644+64A 645+62C 645+62D 645+62E 645+645 645+649 645+64A 646+62C 646+62D
     646+62E 646+645 646+649 646+64A 647+62C 647+645 647+649 647+64A 64A+62C 64A+62D 64A+62E
     64A+645 64A+649 64A+64A 630+670 631+670 649+670 20+64C+651 20+64D+651 20+64E+651 20+64F+651
     20+650+651 20+651+670 626+631 626+632 626+645 626+646 626+649 626+64A 628+631 628+632
     628+645 628+646 628+649 628+64A 62A+631 62A+632 62A+645 62A+646 62A+649 62A+64A 62B+631
     62B+632 62B+645 62B+646 62B+649 62B+64A 641+649 641+64A 642+649 642+64A 643+627 643+644
     643+645 643+649 643+64A 644+645 644+649 644+64A 645+627 645+645 646+631 646+632 646+645
     646+646 646+649 646+64A 649+670 64A+631 64A+632 64A+645 64A+646 64A+649 64A+64A 626+62C
     626+62D 626+62E 626+645 626+647 628+62C 628+62D 628+62E 628+645 628+647 62A+62C 62A+62D
     62A+62E 62A+645 62A+647 62B+645 62C+62D 62C+645 62D+62C 62D+645 62E+62C 62E+645 633+62C
     633+62D 633+62E 633+645 635+62D 635+62E 635+645 636+62C 636+62D 636+62E 636+645 637+62D
     638+645 639+62C 639+645 63A+62C 63A+645 641+62C 641+62D 641+62E 641+645 642+62D 642+645
     643+62C 643+62D 643+62E 643+644 643+645 644+62C 644+62D 644+62E 644+645 644+647 645+62C
     645+62D 645+62E 645+645 646+62C 646+62D 646+62E 646+645 646+647 647+62C 647+645 647+670
     64A+62C 64A+62D 64A+62E 64A+645 64A+647 626+645 626+647 628+645 628+647 62A+645 62A+647
     62B+645 62B+647 633+645 633+647 634+645 634+647 643+644 643+645 644+645 646+645 646+647
     64A+645 64A+647 640+64E+651 640+64F+651 640+650+651 637+649 637+64A 639+649 639+64A 63A+649
     63A+64A 633+649 633+64A 634+649 634+64A 62D+649 62D+64A 62C+649 62C+64A 62E+649 62E+64A
     635+649 635+64A 636+649 636+64A 634+62C 634+62D 634+62E 634+645 634+631 633+631 635+631
     636+631 637+649 637+64A 639+649 639+64A 63A+649 63A+64A 633+649 633+64A 634+649 634+64A
     62D+649 62D+64A 62C+649 62C+64A 62E+649 62E+64A 635+649 635+64A 636+649 636+64A 634+62C
     634+62D 634+62E 634+645 634+631 633+631 635+631 636+631 634+62C 634+62D 634+62E 634+645
     633+647 634+647 637+645 633+62C 633+62D 633+62E 634+62C 634+62D 634+62E 637+645 638+645
     627+64B 627+64B"),
   (0xFD50,
    "62A+62C+645 62A+62D+62C 62A+62D+62C 62A+62D+645 62A+62E+645 62A+645+62C 62A+645+62D
     62A+645+62E 62C+645+62D 62C+645+62D 62D+645+64A 62D+645+649 633+62D+62C 633+62C+62D
     633+62C+649 633+645+62D 633+645+62D 633+645+62C 633+645+645 633+645+645 635+62D+62D
     635+62D+62D 635+645+645 634+62D+645 634+62D+645 634+62C+64A 634+645+62E 634+645+62E
     634+645+645 634+645+645 636+62D+649 636+62E+645 636+62E+645 637+645+62D 637+645+62D
     637+645+645 637+645+64A 639+62C+645 639+645+645 639+645+645 639+645+649 63A+645+645
     63A+645+64A 63A+645+649 641+62E+645 641+62E+645 642+645+62D 642+645+645 644+62D+645
     644+62D+64A 644+62D+649 644+62C+62C 644+62C+62C 644+62E+645 644+62E+645 644+645+62D
     644+645+62D 645+62D+62C 645+62D+645 645+62D+64A 645+62C+62D 645+62C+645 645+62E+62C
     645+62E+645"),
   (0xFD92,
    "645+62C+62E 647+645+62C 647+645+645 646+62D+645 646+62D+649 646+62C+645 646+62C+645
     646+62C+649 646+645+64A 646+645+649 64A+645+645 64A+645+645 628+62E+64A 62A+62C+64A
     62A+62C+649 62A+62E+64A 62A+62E+649 62A+645+64A 62A+645+649 62C+645+64A 62C+62D+649
     62C+645+649 633+62E+649 635+62D+64A 634+62D+64A 636+62D+64A 644+62C+64A 644+645+64A
     64A+62D+64A 64A+62C+64A 64A+645+64A 645+645+64A 642+645+64A 646+62D+64A 642+645+62D
     644+62D+645 639+645+64A 643+645+64A 646+62C+62D 645+62E+64A 644+62C+645 643+645+645
     644+62C+645 646+62C+62D 62C+62D+64A 62D+62C+64A 645+62C+64A 641+645+64A 628+62D+64A
     643+645+645 639+62C+645 635+645+645 633+62E+64A 646+62C+64A"),
   (0xFDF0,
    "635+644+6D2 642+644+6D2 627+644+644+647 627+643+628+631 645+62D+645+62F 635+644+639+645
     631+633+648+644 639+644+64A+647 648+633+644+645 635+644+649
     635+644+649+20+627+644+644+647+20+639+644+64A+647+20+648+633+644+645
     62C+644+20+62C+644+627+644+647 631+6CC+627+644"),
   (0xFE10, "2C 3001"), (0xFE13, "3A 3B 21 3F 3016 3017"),
   (0xFE31, "2014 2013 5F 5F 28 29 7B 7D 3014 3015 3010 3011 300A 300B 3008 3009"),
   (0xFE47, "5B 5D 20+305 20+305 20+305 20+305 5F 5F 5F 2C 3001"),
   (0xFE54, "3B 3A 3F 21 2014 28 29 7B 7D 3014 3015 23 26 2A 2B 2D 3C 3E 3D"),
   (0xFE68, "5C 24 25 40"), (0xFE70, "20+64B 640+64B 20+64C"), (0xFE74, "20+64D"),
   (0xFE76,
    "20+64E 640+64E 20+64F 640+64F 20+650 640+650 20+651 640+651 20+652 640+652 621 622 622 623
     623 624 624 625 625 626 626 626 626 627 627 628 628 628 628 629 629 62A 62A 62A 62A 62B 62B
     62B 62B 62C 62C 62C 62C 62D 62D 62D 62D 62E 62E 62E 62E 62F 62F 630 630 631 631 632 632 633
     633 633 633 634 634 634 634 635 635 635 635 636 636 636 636 637 637 637 637 638 638 638 638
     639 639 639"),
   (0xFECE, "63A 63A 63A 641 641 641"),
   (0xFED6,
    "642 642 642 643 643 643 643 644 644 644 644 645 645 645 645 646 646 646 646 647 647 647 647
     648 648 649 649 64A 64A 64A 64A 644+622 644+622 644+623 644+623 644+625 644+625 644+627
     644+627"),
   (0xFF5F,
    "2985 2986 2E 300C 300D 3001 30FB 30F2 30A1 30A3 30A5 30A7 30A9 30E3 30E5 30E7 30C3 30FC
     30A2 30A4 30A6 30A8 30AA 30AB 30AD 30AF 30B1 30B3 30B5 30B7 30B9 30BB 30BD 30BF 30C1 30C4
     30C6 30C8"),
   (0xFF8B, "30D2 30D5 30D8 30DB"), (0xFF94, "30E4 30E6"), (0xFF9C, "30EF 30F3 3099 309A"),
   (0xFFA1, "1100 1101 11AA 1102 11AC 11AD 1103 1104 1105"), (0xFFB0, "111A 1106 1107 1108 1121"),
   (0xFFDA, "1173 1174 1175"), (0xFFE0, "A2 A3 AC 20+304 A6 A5 20A9"), (0xFFE8, "2502"),
   (0xFFED, "25A0 25CB")]

end BucketKeys.Url.Domain
