/-!
# Sets of characters

A set of characters as a table of bounds: the numbers at which the characters of the set begin, at
which the others begin, and so on in turn. A character is in the set exactly if an odd number of
bounds lie at it or below it.
-/

namespace PowerLease.Text

/-- Whether a character is in the set of some bounds. -/
def within (bounds : Array Nat) (c : Char) : Bool :=
  (bounds.countP fun bound => bound ≤ c.toNat) % 2 == 1

end PowerLease.Text
