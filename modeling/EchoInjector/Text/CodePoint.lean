/-!
# Ranges of code points

A class of characters is given by ranges of code points, both ends included.
-/

namespace EchoInjector.Text

/-- Whether the code point of a character lies in one of some ranges. -/
def isWithin (ranges : List (Nat × Nat)) (c : Char) : Bool :=
  ranges.any fun r => r.1 ≤ c.toNat && c.toNat ≤ r.2

end EchoInjector.Text
