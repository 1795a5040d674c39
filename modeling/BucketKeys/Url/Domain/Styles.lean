/-!
What letters and signs of the supplementary planes stand for in names.
-/

namespace BucketKeys.Url.Domain

def styleSpellings : List (Nat × String) :=
  [(0x10781, "2D0 2D1 E6 299 253"),
   (0x10787,
    "2A3 AB66 2A5 2A4 256 257 1D91 258 25E 2A9 264 262 260 29B 127 29C 267 284 2AA 2AB 26C 1DF04
     A78E 26E 1DF05 28E 1DF06 F8 276 277 71 27A 1DF08 27D 27E 280 2A8 2A6 AB67 2A7 288 2C71"),
   (0x107B2, "28F 2A1 2A2 298 1C0 1C1 1C2 1DF0A 1DF1E"),
   (0x1D15E,
    "1D157+1D165 1D158+1D165 1D158+1D165+1D16E 1D158+1D165+1D16F 1D158+1D165+1D170
     1D158+1D165+1D171 1D158+1D165+1D172"),
   (0x1D1BB,
    "1D1B9+1D165 1D1BA+1D165 1D1B9+1D165+1D16E 1D1BA+1D165+1D16E 1D1B9+1D165+1D16F
     1D1BA+1D165+1D16F"),
   (0x1D6A5, "237"), (0x1D6B9, "3B8"), (0x1D6C1, "2207"), (0x1D6D3, "3C3"),
   (0x1D6DB, "2202 3B5 3B8 3BA 3C6 3C1 3C0"), (0x1D6F3, "3B8"), (0x1D6FB, "2207"),
   (0x1D70D, "3C3"), (0x1D715, "2202 3B5 3B8 3BA 3C6 3C1 3C0"), (0x1D72D, "3B8"),
   (0x1D735, "2207"), (0x1D747, "3C3"), (0x1D74F, "2202 3B5 3B8 3BA 3C6 3C1 3C0"),
   (0x1D767, "3B8"), (0x1D76F, "2207"), (0x1D781, "3C3"), (0x1D789, "2202 3B5"),
   (0x1D78C, "3BA 3C6 3C1 3C0"), (0x1D7A1, "3B8"), (0x1D7A9, "2207"), (0x1D7BB, "3C3"),
   (0x1D7C3, "2202 3B5 3B8 3BA 3C6"), (0x1D7C9, "3C0"), (0x1D7CB, "3DD"),
   (0x1E039, "43A 43B 43C"), (0x1E047, "44B 44D 44E A689 4D9 456 458 4E9 4AF 4CF"),
   (0x1E05A, "43A 43B 43E 43F 441"), (0x1E065, "44A 44B 491 456 455 45F 4AB A651 4B1"),
   (0x1EE00, "627 628 62C 62F"), (0x1EE05, "648 632 62D 637 64A"),
   (0x1EE0E, "633 639 641 635 642 631 634 62A 62B 62E 630 636 638 63A 66E 6BA 6A1 66F"),
   (0x1EE21, "628 62C"), (0x1EE24, "647"), (0x1EE27, "62D"), (0x1EE29, "64A"),
   (0x1EE2E, "633 639 641 635 642"), (0x1EE34, "634 62A 62B 62E"), (0x1EE39, "636"),
   (0x1EE3B, "63A"), (0x1EE42, "62C"), (0x1EE47, "62D"), (0x1EE49, "64A"), (0x1EE4B, "644"),
   (0x1EE4D, "646 633 639"), (0x1EE51, "635 642"), (0x1EE54, "634"), (0x1EE57, "62E"),
   (0x1EE59, "636"), (0x1EE5B, "63A"), (0x1EE5D, "6BA"), (0x1EE5F, "66F"), (0x1EE61, "628 62C"),
   (0x1EE64, "647"), (0x1EE67, "62D 637 64A 643"), (0x1EE6C, "645 646 633 639 641 635 642"),
   (0x1EE74, "634 62A 62B 62E"), (0x1EE79, "636 638 63A 66E"), (0x1EE7E, "6A1"),
   (0x1EE80, "627 628 62C 62F 647 648 632 62D 637 64A"),
   (0x1EE8B, "644 645 646 633 639 641 635 642 631 634 62A 62B 62E 630 636 638 63A"),
   (0x1EEA1, "628 62C 62F"), (0x1EEA5, "648 632 62D 637 64A"),
   (0x1EEAB, "644 645 646 633 639 641 635 642 631 634 62A 62B 62E 630 636 638 63A"),
   (0x1F101, "30+2C 31+2C 32+2C 33+2C 34+2C 35+2C 36+2C 37+2C 38+2C 39+2C"),
   (0x1F110,
    "28+61+29 28+62+29 28+63+29 28+64+29 28+65+29 28+66+29 28+67+29 28+68+29 28+69+29 28+6A+29
     28+6B+29 28+6C+29 28+6D+29 28+6E+29 28+6F+29 28+70+29 28+71+29 28+72+29 28+73+29 28+74+29
     28+75+29 28+76+29 28+77+29 28+78+29 28+79+29 28+7A+29 3014+73+3015 63 72 63+64 77+7A"),
   (0x1F14A, "68+76 6D+76 73+64 73+73 70+70+76 77+63"), (0x1F16A, "6D+63 6D+64 6D+72"),
   (0x1F190, "64+6A"), (0x1F200, "307B+304B 30B3+30B3 30B5"),
   (0x1F210,
    "624B 5B57 53CC 30C7 4E8C 591A 89E3 5929 4EA4 6620 7121 6599 524D 5F8C 518D 65B0 521D 7D42
     751F 8CA9 58F0 5439 6F14 6295 6355 4E00 4E09 904A 5DE6 4E2D 53F3 6307 8D70 6253 7981 7A7A
     5408 6E80 6709 6708 7533 5272 55B6 914D"),
   (0x1F240,
    "3014+672C+3015 3014+4E09+3015 3014+4E8C+3015 3014+5B89+3015 3014+70B9+3015 3014+6253+3015
     3014+76D7+3015 3014+52DD+3015 3014+6557+3015"),
   (0x1F250, "5F97 53EF")]

end BucketKeys.Url.Domain
