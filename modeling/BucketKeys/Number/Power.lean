/-!
Powers of the two bases in which numbers are kept and written.
-/

namespace BucketKeys.Number

def twoTo (exponent : Nat) : Nat :=
  Nat.pow 2 exponent

def tenTo (exponent : Nat) : Nat :=
  Nat.pow 10 exponent

end BucketKeys.Number
